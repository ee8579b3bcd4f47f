import VehicleLink.Channel.Name
import VehicleLink.Decimal.Layout

namespace VehicleLink

/-- The unit of a quantity. -/
inductive MeasureUnit where
  | kilometre
  | mile
  | litre
  | percent
  | kilowattHour
  | hour
  | minute
  | degree
deriving DecidableEq, Repr

namespace MeasureUnit

/-- The sign of a unit. -/
def symbol : MeasureUnit → String
  | .kilometre => "km"
  | .mile => "mi"
  | .litre => "l"
  | .percent => "%"
  | .kilowattHour => "kWh"
  | .hour => "h"
  | .minute => "min"
  | .degree => "°"

/-- The unit of lengths. -/
def length (imperial : Bool) : MeasureUnit := if imperial then .mile else .kilometre

end MeasureUnit

/-- The state of a channel. -/
inductive ChannelState where
  | text (s : String)
  | quantity (value : Float) (unit : MeasureUnit)
  /-- A local date and time, as it is shown. -/
  | moment (s : String)
  | onOff (on : Bool)
  | decimal (value : Float)
  | point (latitude longitude : Float)

/-- The text of a state. -/
def ChannelState.shown : ChannelState → String
  | .text s | .moment s => s
  | .quantity value unit => Decimal.render Decimal.plain value ++ " " ++ unit.symbol
  | .onOff true => "ON"
  | .onOff false => "OFF"
  | .decimal value => Decimal.render Decimal.plain value
  | .point latitude longitude =>
    Decimal.render Decimal.plain latitude ++ "," ++ Decimal.render Decimal.plain longitude

/-- A new state of a channel. -/
structure ChannelUpdate where
  channel : Channel
  state : ChannelState

/-- An update on one line. -/
def ChannelUpdate.line (u : ChannelUpdate) : String := u.channel.text ++ " = " ++ u.state.shown

end VehicleLink
