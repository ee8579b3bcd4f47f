import VehicleLink.Log
import VehicleLink.Settings.Environment
import VehicleLink.Text.LetterCase

namespace VehicleLink

/-- The variable that names a level. -/
def filterVariable : String := "RUST_LOG"

/-- The greatest rank of the notes that are logged. -/
structure LogFilter where
  most : Nat
deriving DecidableEq, Repr

namespace LogFilter

/-- The levels by name. Beyond the levels of the notes here there are two of smaller importance. -/
def ranks : List (String × Nat) :=
  [("off", 0), ("error", 1), ("warn", 2), ("info", 3), ("debug", 4), ("trace", 5)]

/-- The filter of a level's name, in any letter case. A blank text says nothing, which leaves the
errors, and any other text names no level of this program. -/
def ofText (s : String) : LogFilter :=
  let name := Text.trim s
  if name.isEmpty then ⟨1⟩
  else
    match ranks.find? fun (level, _) => Text.sameAscii level name with
    | some (_, rank) => ⟨rank⟩
    | none => ⟨0⟩

/-- The filter of an environment: all notes where it names none. -/
def ofEnvironment (env : Environment) : LogFilter :=
  match env.text? filterVariable with
  | some s => ofText s
  | none => ⟨3⟩

/-- Whether a note is logged. -/
def shows (f : LogFilter) (n : Note) : Bool := n.level.rank ≤ f.most

end LogFilter

end VehicleLink
