import VehicleLink.Settings.Environment
import VehicleLink.Text.Split

namespace VehicleLink

/-- Files by their names. The parts of a name, which slashes divide, are directories but for the last. -/
structure Folder where
  files : List (String × List UInt8)

namespace Folder

/-- The parts of a path. -/
def parts (path : String) : List String := (Text.splitAll (· == '/') path.toList).map String.ofList

/-- The parts of a name, with a file's bytes. -/
def entries (d : Folder) : List (List String × List UInt8) :=
  d.files.map fun (name, bytes) => (parts name, bytes)

/-- Whether the parts lead to a directory. -/
def isDirectory (d : Folder) (place : List String) : Bool :=
  place.isEmpty || d.entries.any fun (name, _) =>
    place.isPrefixOf name && decide (place.length < name.length)

/-- Where a path leads from a place. Every part but the last has to lead to a directory, and so has the
last if it is empty or a dot. A path that leaves the folder leads nowhere. -/
def follow? (d : Folder) (place : List String) : List String → Option (List String)
  | [] => some place
  | part :: rest =>
    if !d.isDirectory place then none
    else if part.isEmpty ∨ part = "." then d.follow? place rest
    else if part = ".." then
      if place.isEmpty then none else d.follow? place.dropLast rest
    else d.follow? (place ++ [part]) rest

/-- The bytes of the file that a path leads to. -/
def find? (d : Folder) (path : RawText) : Option (List UInt8) := do
  let text ← path.text?
  let place ← if text.isEmpty || text.startsWith "/" then none else d.follow? [] (parts text)
  d.entries.lookup place

/-- The folder as a program sees it. -/
def toFiles {m : Type → Type} [Monad m] (d : Folder) : Files m where
  isFile path := return (d.find? path).isSome
  read path := return match d.find? path with
    | some bytes => .ok bytes
    | none => .error "No such file or directory (os error 2)"

end Folder

end VehicleLink
