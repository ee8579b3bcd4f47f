namespace VehicleLink.Figure

/-- The figure of the unit system in use. -/
def choose (metric miles : Float) (imperial : Bool) : Float := if imperial then miles else metric

/-- The share of a range that can be reached along a straight line. -/
def straightShare : Float := 0.8

/-- How far from here a vehicle gets with a range. A negative range, or what is no number, gets
nowhere. -/
def radius (range : Float) : Float := (if 0.0 < range then range else 0.0) * straightShare

/-- A figure with one decimal place; a half goes away from zero. -/
def roundTenth (x : Float) : Float := (x * 10.0).round / 10.0

end VehicleLink.Figure
