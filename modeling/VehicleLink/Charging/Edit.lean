import VehicleLink.Charging.Profile

namespace VehicleLink

/-- An edit of a charge profile. -/
inductive ChargeEdit where
  | time (field : TimeField) (value : Nat)
  | enabled (timer : TimerId) (on : Bool)
  | day (timer : TimerId) (day : Weekday) (selected : Bool)
  | climate (on : Bool)
  | mode (text : String)
  | preference (text : String)
deriving DecidableEq, Repr

/-- A written time with one of its numbers replaced. What is on the other side of the colon stays as
it was, and is two zeros where there was no colon. -/
def spliceTime (part : TimePart) (value : Nat) (current : Option String) : String :=
  let sides := (current.bind fun s => Text.cutAt (· == ':') s.toList).getD (['0', '0'], ['0', '0'])
  let number := Decimal.padded 2 value
  String.ofList <| match part with
    | .hour => number ++ ':' :: sides.2
    | .minute => sides.1 ++ ':' :: number

/-- A list of weekdays with a day selected: it is added at the end where it was missing. -/
def selectDay (day : Weekday) (days : List String) : List String :=
  if days.any day.named then days else days ++ [day.name]

/-- A list of weekdays without a day, in whatever letter case it was written. -/
def deselectDay (day : Weekday) (days : List String) : List String :=
  days.filter fun d => !day.named d

/-- A timer with a day selected or not. A timer without a list gets one when a day is selected. -/
def Timer.setDay (day : Weekday) (selected : Bool) (t : Timer) : Timer :=
  if selected then { t with weekdays := some (selectDay day (t.weekdays.getD [])) }
  else { t with weekdays := t.weekdays.map (deselectDay day) }

namespace ChargeProfile

/-- The profile with its planner changed, all else as it was. -/
def mapPlan (f : Plan → Plan) (p : ChargeProfile) : ChargeProfile := { p with plan := f p.plan }

/-- Sets an hour or a minute. -/
def setTime (f : TimeField) (value : Nat) (p : ChargeProfile) : ChargeProfile :=
  if p.plan.hasSlot f.slot then
    { p with
      plan := p.plan.mapTimeText (spliceTime f.part value) f.slot
      times := fun g => if g = f then some value else p.times g }
  else p

/-- Enables a timer, or disables it. -/
def setEnabled (timer : TimerId) (on : Bool) (p : ChargeProfile) : ChargeProfile :=
  p.mapPlan (Plan.mapTimer (fun t => { t with enabled := some on }) timer)

/-- Selects a day of a timer, or deselects it. -/
def setDay (timer : TimerId) (day : Weekday) (selected : Bool) (p : ChargeProfile) : ChargeProfile :=
  if p.plan.hasWeekdays timer then p.mapPlan (Plan.mapTimer (Timer.setDay day selected) timer)
  else p

/-- Sets whether the climate is prepared before a departure. -/
def setClimate (on : Bool) (p : ChargeProfile) : ChargeProfile :=
  p.mapPlan (Plan.mapWeekly fun w => { w with climateEnabled := some on })

/-- Sets the charging mode. -/
def setMode (text : String) (p : ChargeProfile) : ChargeProfile :=
  p.mapPlan (Plan.mapWeekly fun w => { w with chargingMode := some text })

/-- Sets the charging preference. -/
def setPreference (text : String) (p : ChargeProfile) : ChargeProfile :=
  p.mapPlan (Plan.mapWeekly fun w => { w with chargingPreference := some text })

/-- Carries out an edit. -/
def edit : ChargeEdit → ChargeProfile → ChargeProfile
  | .time f value => setTime f value
  | .enabled timer on => setEnabled timer on
  | .day timer day selected => setDay timer day selected
  | .climate on => setClimate on
  | .mode text => setMode text
  | .preference text => setPreference text

/-- Carries out edits, one after the other. -/
def edits (p : ChargeProfile) (es : List ChargeEdit) : ChargeProfile :=
  es.foldl (fun p e => p.edit e) p

end ChargeProfile

end VehicleLink
