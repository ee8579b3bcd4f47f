import VehicleLink.Channel.State

namespace VehicleLink

/-- How important a note is. -/
inductive Level where
  | error
  | warning
  | info
deriving DecidableEq, Repr

/-- The rank of a level: the more important, the lower. -/
def Level.rank : Level → Nat
  | .error => 1
  | .warning => 2
  | .info => 3

/-- The name of a level. -/
def Level.name : Level → String
  | .error => "ERROR"
  | .warning => "WARN"
  | .info => "INFO"

/-- A note. -/
structure Note where
  level : Level
  text : String
deriving DecidableEq, Repr

/-- The lines of a note. Those after the first are set in by four spaces. -/
def Note.lines (n : Note) : List String :=
  match Text.splitAll (· == '\n') n.text.toList with
  | [] => []
  | first :: rest => String.ofList first :: rest.map fun line => String.ofList ("    ".toList ++ line)

/-- Something that is told while the program runs. -/
inductive Event where
  | update (u : ChannelUpdate)
  | note (n : Note)

namespace Event

/-- The note that something is amiss. -/
def warn (text : String) : Event := .note ⟨.warning, text⟩

/-- The note that something has happened. -/
def inform (text : String) : Event := .note ⟨.info, text⟩

/-- The channel update that is told, if it is one. -/
def update? : Event → Option ChannelUpdate
  | .update u => some u
  | .note _ => none

/-- An event as it is logged: a channel update is a note of its line. -/
def logged : Event → Note
  | .update u => ⟨.info, u.line⟩
  | .note n => n

end Event

end VehicleLink
