import VehicleLink.Polling
import VehicleLink.Web.Session

namespace VehicleLink

/-- The state of a rehearsal, a run of the program against answers that are written down beforehand. -/
structure Script where
  /-- The answers still to be given: a reply, or why there is none. -/
  answers : List (Except String Reply)
  /-- What a request fails with when no answer is left. Without it the rehearsal ends there. -/
  afterwards : Option String := none
  now : Instant := ⟨0⟩
  /-- The requests that were made, the last first. -/
  requests : List Request := []
  /-- What was noted, the last first. -/
  notes : List Note := []
  /-- The lines outside the log, the last first. -/
  complaints : List String := []

/-- The rehearsal has come to a request that has no answer. -/
structure NoAnswer where
deriving DecidableEq, Repr

/-- A program in rehearsal. -/
abbrev Rehearsal := ExceptT NoAnswer (ExceptT Overflow (StateM Script))

namespace Rehearsal

/-- Takes the next answer. -/
def takeAnswer : Rehearsal (Except String Reply) := do
  let script ← get
  match script.answers with
  | answer :: rest =>
    set { script with answers := rest }
    return answer
  | [] =>
    match script.afterwards with
    | some text => return .error text
    | none => throw NoAnswer.mk

/-- Answers a request. One that cannot be sent as it is is not made. -/
def exchange (r : Request) : Rehearsal (Except String Reply) := do
  match r.obstacle? with
  | some text => return .error text
  | none =>
    modify fun script => { script with requests := r.arrived :: script.requests }
    takeAnswer

/-- The wire of a rehearsal. -/
def wire : Wire Rehearsal where
  exchange := exchange
  now := do return (← get).now
  note n := modify fun script => { script with notes := n :: script.notes }

/-- Writes a line outside the log. -/
def complain (line : String) : Rehearsal Unit :=
  modify fun script => { script with complaints := line :: script.complaints }

/-- Runs a program in rehearsal: what came of it, and the script afterwards. -/
def perform {α : Type} (program : Rehearsal α) (script : Script) :
    Except Overflow (Except NoAnswer α) × Script :=
  program script

end Rehearsal

end VehicleLink
