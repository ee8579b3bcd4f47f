import VehicleLink.Text.LetterCase

namespace VehicleLink

/-- A timer of a charge profile. -/
inductive TimerId where
  | timer1
  | timer2
  | timer3
  | override
deriving DecidableEq, Repr

namespace TimerId

/-- The timers in the order in which they are shown. -/
def all : List TimerId := [.timer1, .timer2, .timer3, .override]

/-- The timer with a number: zero is the override timer. -/
def ofNumber? : Nat → Option TimerId
  | 0 => some .override
  | 1 => some .timer1
  | 2 => some .timer2
  | 3 => some .timer3
  | _ => none

/-- The name of a timer in messages. -/
def label : TimerId → String
  | .timer1 => "Timer1"
  | .timer2 => "Timer2"
  | .timer3 => "Timer3"
  | .override => "Override"

/-- How the names of the channels of a timer begin. -/
def channelStart : TimerId → String
  | .timer1 => "timer1"
  | .timer2 => "timer2"
  | .timer3 => "timer3"
  | .override => "override"

end TimerId

/-- A day of the week. -/
inductive Weekday where
  | monday
  | tuesday
  | wednesday
  | thursday
  | friday
  | saturday
  | sunday
deriving DecidableEq, Repr

namespace Weekday

/-- The days of the week, Monday first. -/
def all : List Weekday :=
  [.monday, .tuesday, .wednesday, .thursday, .friday, .saturday, .sunday]

/-- The name of a day in the weekday lists of a profile. -/
def name : Weekday → String
  | .monday => "MONDAY"
  | .tuesday => "TUESDAY"
  | .wednesday => "WEDNESDAY"
  | .thursday => "THURSDAY"
  | .friday => "FRIDAY"
  | .saturday => "SATURDAY"
  | .sunday => "SUNDAY"

/-- The name of a day in messages. -/
def label : Weekday → String
  | .monday => "Mon"
  | .tuesday => "Tue"
  | .wednesday => "Wed"
  | .thursday => "Thu"
  | .friday => "Fri"
  | .saturday => "Sat"
  | .sunday => "Sun"

/-- The name of a day in the names of channels. -/
def channelEnd : Weekday → String
  | .monday => "mon"
  | .tuesday => "tue"
  | .wednesday => "wed"
  | .thursday => "thu"
  | .friday => "fri"
  | .saturday => "sat"
  | .sunday => "sun"

/-- Whether a text of a weekday list names this day, in any letter case. -/
def named (day : Weekday) (text : String) : Bool := Text.sameAscii text day.name

end Weekday

/-- One of the two numbers of a time. -/
inductive TimePart where
  | hour
  | minute
deriving DecidableEq, Repr

/-- The greatest number that a part of a time can be. -/
def TimePart.limit : TimePart → Nat
  | .hour => 23
  | .minute => 59

/-- A time of a charge profile. -/
inductive TimeSlot where
  | windowStart
  | windowEnd
  | departure (timer : TimerId)
deriving DecidableEq, Repr

/-- An hour or a minute of a charge profile. -/
structure TimeField where
  slot : TimeSlot
  part : TimePart
deriving DecidableEq, Repr

namespace TimeField

/-- The hours and minutes of a profile in the order in which they are shown. -/
def all : List TimeField :=
  (.windowStart :: .windowEnd :: TimerId.all.map TimeSlot.departure).flatMap fun slot =>
    [⟨slot, .hour⟩, ⟨slot, .minute⟩]

/-- The name of an hour or a minute in messages. -/
def label (f : TimeField) : String :=
  let slot := match f.slot with
    | .windowStart => "ChargeWindowStart"
    | .windowEnd => "ChargeWindowEnd"
    | .departure timer => timer.label ++ "Departure"
  slot ++ match f.part with
    | .hour => "Hour"
    | .minute => "Minute"

end TimeField

end VehicleLink
