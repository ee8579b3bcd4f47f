import VehicleLink.Charging.Field
import VehicleLink.Charging.Planner
import VehicleLink.Json.Writer
import VehicleLink.Text.Blank
import VehicleLink.Text.Split

namespace VehicleLink

/-- The planner of a profile, if it has one. -/
inductive Plan where
  | weekly (planner : WeeklyPlanner)
  | twoTimes (planner : TwoTimesTimer)
  | empty
deriving Inhabited

namespace Plan

/-- A timer of the planner. -/
def timer? : Plan → TimerId → Option Timer
  | .weekly p, .timer1 => p.timer1
  | .weekly p, .timer2 => p.timer2
  | .weekly p, .timer3 => p.timer3
  | .weekly p, .override => p.overrideTimer
  | .twoTimes p, .timer1 => p.timer1
  | .twoTimes p, .timer2 => p.timer2
  | _, _ => none

/-- The planner with one timer changed, where it has that timer. -/
def mapTimer (f : Timer → Timer) : TimerId → Plan → Plan
  | .timer1, .weekly p => .weekly { p with timer1 := p.timer1.map f }
  | .timer2, .weekly p => .weekly { p with timer2 := p.timer2.map f }
  | .timer3, .weekly p => .weekly { p with timer3 := p.timer3.map f }
  | .override, .weekly p => .weekly { p with overrideTimer := p.overrideTimer.map f }
  | .timer1, .twoTimes p => .twoTimes { p with timer1 := p.timer1.map f }
  | .timer2, .twoTimes p => .twoTimes { p with timer2 := p.timer2.map f }
  | _, plan => plan

/-- The charging window of the planner. -/
def window? : Plan → Option ChargingWindow
  | .weekly p => p.window
  | .twoTimes p => p.window
  | .empty => none

/-- The planner with its charging window changed, where it has one. -/
def mapWindow (f : ChargingWindow → ChargingWindow) : Plan → Plan
  | .weekly p => .weekly { p with window := p.window.map f }
  | .twoTimes p => .twoTimes { p with window := p.window.map f }
  | .empty => .empty

/-- The planner changed, if it is a weekly one. -/
def mapWeekly (f : WeeklyPlanner → WeeklyPlanner) : Plan → Plan
  | .weekly p => .weekly (f p)
  | plan => plan

/-- The weekly planner, if it is one. -/
def weekly? : Plan → Option WeeklyPlanner
  | .weekly p => some p
  | _ => none

/-- Whether a timer has a selection of weekdays: the numbered timers of a weekly planner do. -/
def hasWeekdays : Plan → TimerId → Bool
  | .weekly _, timer => timer ≠ .override
  | _, _ => false

/-- Whether a time has a place in the planner, be it set or not. -/
def hasSlot (plan : Plan) : TimeSlot → Bool
  | .windowStart | .windowEnd => plan.window?.isSome
  | .departure timer => (plan.timer? timer).isSome

/-- A time of the planner, as it is written. -/
def timeText? (plan : Plan) : TimeSlot → Option String
  | .windowStart => plan.window?.bind ChargingWindow.startTime
  | .windowEnd => plan.window?.bind ChargingWindow.endTime
  | .departure timer => (plan.timer? timer).bind Timer.departureTime

/-- The planner with one time changed, where it has a place for it. -/
def mapTimeText (f : Option String → String) : TimeSlot → Plan → Plan
  | .windowStart, plan => plan.mapWindow fun w => { w with startTime := some (f w.startTime) }
  | .windowEnd, plan => plan.mapWindow fun w => { w with endTime := some (f w.endTime) }
  | .departure timer, plan =>
    plan.mapTimer (fun t => { t with departureTime := some (f t.departureTime) }) timer

end Plan

/-- The hour and the minute of a written time, which a colon divides. -/
def readTime? (text : String) : Option (Nat × Nat) := do
  let (hour, minute) ← Text.cutAt (· == ':') text.toList
  let hour ← Decimal.readNat? Decimal.max32 (Text.trimChars hour)
  let minute ← Decimal.readNat? Decimal.max32 (Text.trimChars minute)
  return (hour, minute)

/-- One of the two numbers of a time. -/
def TimePart.of : TimePart → Nat × Nat → Nat
  | .hour, time => time.1
  | .minute, time => time.2

/-- A charge profile: the plan of the document that a vehicle sent, and the times in it. -/
structure ChargeProfile where
  plan : Plan
  /-- The members of the document other than the planner in use. -/
  extra : List (String × Json)
  /-- The hours and minutes as they were read or last set. -/
  times : TimeField → Option Nat

/-- The hours and minutes that a planner contains. -/
def Plan.times (plan : Plan) (f : TimeField) : Option Nat :=
  ((plan.timeText? f.slot).bind readTime?).map f.part.of

/-- What is wrong with a charge profile. -/
inductive ProfileProblem where
  /-- The document cannot be read. -/
  | document (flaw : Json.Flaw)
  | notAnObject
  /-- The planner at a member of the document does not have its shape. -/
  | planner (key : String) (problem : Json.Problem)

namespace ChargeProfile

/-- The profile of a plan, with the times it contains. -/
def ofPlan (plan : Plan) (extra : List (String × Json)) : ChargeProfile := ⟨plan, extra, plan.times⟩

/-- The profile without a planner and without anything else. -/
def nothing : ChargeProfile := ofPlan .empty []

instance : Inhabited ChargeProfile := ⟨nothing⟩

/-- The member of a document that holds a weekly planner. -/
def weeklyKey : String := "weeklyPlanner"

/-- The member of a document that holds a planner with two timers. -/
def twoTimesKey : String := "twoTimesTimer"

/-- The value at a member, unless it is missing or `null`. -/
def plannerAt? (key : String) (members : List (String × Json)) : Option Json :=
  match members.lookup key with
  | none | some .null => none
  | some v => some v

/-- Reads the planner at a member. -/
def readPlanner (key : String) (shape : Json.Shape) (v : Json) : Except ProfileProblem Json :=
  (Json.readValue shape v).mapError (.planner key)

/-- The profile that a document holds. Where it has both planners, the weekly one is in use and the
other is kept as it is. -/
def ofMembers (members : List (String × Json)) : Except ProfileProblem ChargeProfile :=
  match plannerAt? weeklyKey members with
  | some v => (readPlanner weeklyKey WeeklyPlanner.shape v).map fun v =>
      ofPlan (.weekly (.ofJson v)) (Json.erase weeklyKey members)
  | none =>
    match plannerAt? twoTimesKey members with
    | some v => (readPlanner twoTimesKey TwoTimesTimer.shape v).map fun v =>
        ofPlan (.twoTimes (.ofJson v)) (Json.erase twoTimesKey members)
    | none => .ok (ofPlan .empty members)

/-- Reads the document that a vehicle sent. -/
def ofText (s : String) : Except ProfileProblem ChargeProfile :=
  match Json.ofText s with
  | .error flaw => .error (.document flaw)
  | .ok (.object members) => ofMembers members
  | .ok _ => .error .notAnObject

/-- The document to be sent: the planner in use, and all else as it came. -/
def toJson (p : ChargeProfile) : Json :=
  match p.plan with
  | .weekly planner => .object ((weeklyKey, planner.toJson) :: p.extra)
  | .twoTimes planner => .object ((twoTimesKey, planner.toJson) :: p.extra)
  | .empty => .object p.extra

/-- The text to be sent. -/
def toText (p : ChargeProfile) : String := p.toJson.toText

/-- Whether a profile has no planner. -/
def isEmpty (p : ChargeProfile) : Bool :=
  match p.plan with
  | .empty => true
  | _ => false

/-- An hour or a minute of a profile, if it is known and an integer of 32 bits can hold it. -/
def time? (p : ChargeProfile) (f : TimeField) : Option Nat := (p.times f).filter (· < 0x80000000)

/-- An hour or a minute as it is shown: -1 where there is none. -/
def time (p : ChargeProfile) (f : TimeField) : Int :=
  match p.time? f with
  | some n => n
  | none => -1

/-- Whether a timer is enabled. -/
def timerEnabled (p : ChargeProfile) (timer : TimerId) : Bool :=
  ((p.plan.timer? timer).bind Timer.enabled).getD false

/-- Whether a timer applies on a day. -/
def daySelected (p : ChargeProfile) (timer : TimerId) (day : Weekday) : Bool :=
  p.plan.hasWeekdays timer &&
    (((p.plan.timer? timer).bind Timer.weekdays).getD []).any day.named

/-- Whether the climate is prepared before a departure. -/
def climateEnabled (p : ChargeProfile) : Bool :=
  (p.plan.weekly?.bind WeeklyPlanner.climateEnabled).getD false

/-- The charging mode. -/
def mode (p : ChargeProfile) : Option String := p.plan.weekly?.bind WeeklyPlanner.chargingMode

/-- The charging preference. -/
def preference (p : ChargeProfile) : Option String :=
  p.plan.weekly?.bind WeeklyPlanner.chargingPreference

end ChargeProfile

end VehicleLink
