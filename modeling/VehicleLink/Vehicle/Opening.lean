import VehicleLink.Report.Status
import VehicleLink.Text.LetterCase

namespace VehicleLink

/-- The state of a group of doors or windows. -/
inductive OpenState where
  | unknown
  | closed
  | intermediate
  | opened
deriving DecidableEq, Repr

/-- The name under which vehicles report a state. -/
def OpenState.name : OpenState → String
  | .unknown => "UNKNOWN"
  | .closed => "CLOSED"
  | .intermediate => "INTERMEDIATE"
  | .opened => "OPEN"

/-- What vehicles report for a part they do not have. -/
def absentPart : String := "INVALID"

/-- The state that a report names, in any letter case. The name of the unknown state says nothing, as
does every other text. -/
def OpenState.ofReport? (report : String) : Option OpenState :=
  [.opened, .intermediate, .closed].find? fun s => Text.sameAscii report (OpenState.name s)

/-- A named part of the vehicle and what it reports. -/
abbrev PartReport := String × Option String

/-- The state after one more part. What is open stays open, and what is ajar is not closed by a part
that is. -/
def OpenState.take (state : OpenState) (report : Option String) : OpenState :=
  match report.bind OpenState.ofReport?, state with
  | some .opened, _ => .opened
  | some .intermediate, .unknown => .intermediate
  | some .intermediate, .closed => .intermediate
  | some .closed, .unknown => .closed
  | _, state => state

/-- The state of parts together, after those already seen. The first open one ends the matter. -/
def OpenState.overallFrom (state : OpenState) : List PartReport → OpenState
  | [] => state
  | (_, report) :: rest =>
    match state.take report with
    | .opened => .opened
    | next => OpenState.overallFrom next rest

/-- The state of parts together: open if one of them is, else intermediate if one of them is, else
closed if one of them is. -/
def OpenState.overall (parts : List PartReport) : OpenState := OpenState.overallFrom .unknown parts

namespace VehicleStatus

/-- The doors and lids of a vehicle. -/
def doors (s : VehicleStatus) : List PartReport := [
  ("doorDriverFront", s.doorDriverFront),
  ("doorDriverRear", s.doorDriverRear),
  ("doorPassengerFront", s.doorPassengerFront),
  ("doorPassengerRear", s.doorPassengerRear),
  ("trunk", s.trunk),
  ("hood", s.hood)]

/-- The windows of a vehicle, its roof among them. -/
def windows (s : VehicleStatus) : List PartReport := [
  ("windowDriverFront", s.windowDriverFront),
  ("windowDriverRear", s.windowDriverRear),
  ("windowPassengerFront", s.windowPassengerFront),
  ("windowPassengerRear", s.windowPassengerRear),
  ("rearWindow", s.rearWindow),
  ("sunroof", s.sunroof)]

/-- The state of all doors. -/
def doorState (s : VehicleStatus) : OpenState := .overall s.doors

/-- The state of all windows. -/
def windowState (s : VehicleStatus) : OpenState := .overall s.windows

end VehicleStatus

end VehicleLink
