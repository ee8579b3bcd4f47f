import VehicleLink.Json.Shape

namespace VehicleLink

open Json (field)

/-- The members that are set. -/
def setMembers (members : List (String × Option Json)) : List (String × Json) :=
  members.filterMap fun (key, value) => value.map fun v => (key, v)

/-- The members of a document that are not declared. -/
def otherMembers (fields : Json.Fields) : Json → List (String × Json)
  | .object members => members.filter fun (key, _) => (fields.lookup key).isNone
  | _ => []

/-- A departure that the vehicle gets ready for. -/
structure Timer where
  /-- Hour and minute, such as `05:30`. -/
  departureTime : Option String := none
  enabled : Option Bool := none
  /-- The days on which it applies, by their English names in capitals. -/
  weekdays : Option (List String) := none
  extra : List (String × Json) := []
deriving Inhabited

/-- The declared members. -/
def Timer.fields : Json.Fields := [
  field "departureTime" .text, field "timerEnabled" .flag, field "weekdays" (.list .text)]

/-- The shape of the document. -/
def Timer.shape : Json.Shape := .record .opened Timer.fields

/-- The record that a document in normal form holds. -/
def Timer.ofJson (v : Json) : Timer where
  departureTime := v.textAt "departureTime"
  enabled := v.flagAt "timerEnabled"
  weekdays := v.listAt (fun day => day.text?.getD "") "weekdays"
  extra := otherMembers Timer.fields v

/-- The document of a record, in normal form. -/
def Timer.toJson (t : Timer) : Json := .object <| setMembers [
  ("departureTime", t.departureTime.map .text),
  ("timerEnabled", t.enabled.map .flag),
  ("weekdays", t.weekdays.map fun days => .list (days.map .text))] ++ t.extra

/-- The time of day in which charging is preferred. -/
structure ChargingWindow where
  startTime : Option String := none
  endTime : Option String := none
  extra : List (String × Json) := []
deriving Inhabited

/-- The declared members. -/
def ChargingWindow.fields : Json.Fields := [field "startTime" .text, field "endTime" .text]

/-- The shape of the document. -/
def ChargingWindow.shape : Json.Shape := .record .opened ChargingWindow.fields

/-- The record that a document in normal form holds. -/
def ChargingWindow.ofJson (v : Json) : ChargingWindow where
  startTime := v.textAt "startTime"
  endTime := v.textAt "endTime"
  extra := otherMembers ChargingWindow.fields v

/-- The document of a record, in normal form. -/
def ChargingWindow.toJson (w : ChargingWindow) : Json := .object <| setMembers [
  ("startTime", w.startTime.map .text),
  ("endTime", w.endTime.map .text)] ++ w.extra

/-- The planner with three timers for days of the week, one timer that overrides them, and settings
for climate and charging. -/
structure WeeklyPlanner where
  climateEnabled : Option Bool := none
  chargingMode : Option String := none
  chargingPreference : Option String := none
  timer1 : Option Timer := none
  timer2 : Option Timer := none
  timer3 : Option Timer := none
  overrideTimer : Option Timer := none
  window : Option ChargingWindow := none
  extra : List (String × Json) := []
deriving Inhabited

/-- The declared members. -/
def WeeklyPlanner.fields : Json.Fields := [
  field "climatizationEnabled" .flag, field "chargingMode" .text,
  field "chargingPreferences" .text, field "timer1" Timer.shape, field "timer2" Timer.shape,
  field "timer3" Timer.shape, field "overrideTimer" Timer.shape,
  field "preferredChargingWindow" ChargingWindow.shape]

/-- The shape of the document. -/
def WeeklyPlanner.shape : Json.Shape := .record .opened WeeklyPlanner.fields

/-- The record that a document in normal form holds. -/
def WeeklyPlanner.ofJson (v : Json) : WeeklyPlanner where
  climateEnabled := v.flagAt "climatizationEnabled"
  chargingMode := v.textAt "chargingMode"
  chargingPreference := v.textAt "chargingPreferences"
  timer1 := v.recordAt Timer.ofJson "timer1"
  timer2 := v.recordAt Timer.ofJson "timer2"
  timer3 := v.recordAt Timer.ofJson "timer3"
  overrideTimer := v.recordAt Timer.ofJson "overrideTimer"
  window := v.recordAt ChargingWindow.ofJson "preferredChargingWindow"
  extra := otherMembers WeeklyPlanner.fields v

/-- The document of a record, in normal form. -/
def WeeklyPlanner.toJson (p : WeeklyPlanner) : Json := .object <| setMembers [
  ("climatizationEnabled", p.climateEnabled.map .flag),
  ("chargingMode", p.chargingMode.map .text),
  ("chargingPreferences", p.chargingPreference.map .text),
  ("timer1", p.timer1.map Timer.toJson),
  ("timer2", p.timer2.map Timer.toJson),
  ("timer3", p.timer3.map Timer.toJson),
  ("overrideTimer", p.overrideTimer.map Timer.toJson),
  ("preferredChargingWindow", p.window.map ChargingWindow.toJson)] ++ p.extra

/-- The planner with two timers that do not know days of the week. -/
structure TwoTimesTimer where
  timer1 : Option Timer := none
  timer2 : Option Timer := none
  window : Option ChargingWindow := none
  extra : List (String × Json) := []
deriving Inhabited

/-- The declared members. -/
def TwoTimesTimer.fields : Json.Fields := [
  field "timer1" Timer.shape, field "timer2" Timer.shape,
  field "preferredChargingWindow" ChargingWindow.shape]

/-- The shape of the document. -/
def TwoTimesTimer.shape : Json.Shape := .record .opened TwoTimesTimer.fields

/-- The record that a document in normal form holds. -/
def TwoTimesTimer.ofJson (v : Json) : TwoTimesTimer where
  timer1 := v.recordAt Timer.ofJson "timer1"
  timer2 := v.recordAt Timer.ofJson "timer2"
  window := v.recordAt ChargingWindow.ofJson "preferredChargingWindow"
  extra := otherMembers TwoTimesTimer.fields v

/-- The document of a record, in normal form. -/
def TwoTimesTimer.toJson (p : TwoTimesTimer) : Json := .object <| setMembers [
  ("timer1", p.timer1.map Timer.toJson),
  ("timer2", p.timer2.map Timer.toJson),
  ("preferredChargingWindow", p.window.map ChargingWindow.toJson)] ++ p.extra

end VehicleLink
