import VehicleLink.Decimal.Digits
import VehicleLink.Settings.Arguments
import VehicleLink.Settings.Assignment

namespace VehicleLink

/-- The variables of the environment. -/
abbrev Environment := List (String × RawText)

namespace Environment

/-- The text of a variable. One whose value is no text counts as missing. -/
def text? (env : Environment) (key : String) : Option String :=
  (List.lookup key env).bind RawText.text?

/-- The environment with a variable assigned, unless it was there already: what the program was started with wins
over a file, and an earlier line over a later one. -/
def fill (env : Environment) (a : Assignment) : Environment :=
  if (List.lookup a.1 env).isSome then env else env ++ [(a.1, .text a.2)]

end Environment

/-- A line that cannot be read, counted from one, and what is wrong with it. -/
structure LineFault where
  number : Nat
  problem : AssignmentProblem
deriving DecidableEq, Repr

/-- Fills the environment up from lines, the first of which has a number. Reading stops at the first
line that cannot be read. -/
def fillFrom (number : Nat) (env : Environment) : List (List Char) → Environment × Option LineFault
  | [] => (env, none)
  | line :: rest =>
    match readAssignmentLine line with
    | .error problem => (env, some ⟨number, problem⟩)
    | .ok none => fillFrom (number + 1) env rest
    | .ok (some a) => fillFrom (number + 1) (env.fill a) rest

/-- Fills the environment up from the text of a file. -/
def fillFromText (env : Environment) (text : String) : Environment × Option LineFault :=
  fillFrom 1 env (Text.lines text.toList)

/-- A file from which the environment was filled up. -/
structure LoadedFile where
  path : RawText
  /-- Whether the arguments named it. -/
  explicit : Bool
deriving DecidableEq, Repr

/-- Why the environment could not be made up. -/
inductive StartProblem where
  | arguments (problem : ArgumentProblem)
  | notFound (path : RawText)
  | unreadable (path : RawText) (reason : String)
  | line (path : RawText) (fault : LineFault)
deriving DecidableEq, Repr

/-- The problem in words. -/
def StartProblem.message : StartProblem → String
  | .arguments problem => problem.message
  | .notFound path => "env file not found: " ++ path.shown
  | .unreadable path reason => "failed to read " ++ path.shown ++ ": " ++ reason
  | .line path fault =>
    path.shown ++ ":" ++ Decimal.integerText fault.number ++ ": " ++ fault.problem.message

/-- What starting needs of the file system. -/
structure Files (m : Type → Type) where
  /-- Whether a path leads to a file, and not to a directory or nowhere. -/
  isFile : RawText → m Bool
  /-- The bytes of a file, or why they cannot be had. -/
  read : RawText → m (Except String (List UInt8))

variable {m : Type → Type} [Monad m]

/-- Fills the environment up from a file. -/
def Files.load (files : Files m) (file : LoadedFile) (env : Environment) :
    m (Except StartProblem (Option LoadedFile × Environment)) := do
  match ← files.read file.path with
  | .error reason => return .error (.unreadable file.path reason)
  | .ok bytes =>
    match Text.decodeUtf8? bytes with
    | none => return .error (.unreadable file.path Text.notTextReason)
    | some text =>
      match fillFromText env text with
      | (_, some fault) => return .error (.line file.path fault)
      | (env, none) => return .ok (some file, env)

/-- Makes the environment up: fills it from the file that the arguments name, which must be there, or
else from the usual one, which need not be. -/
def Files.makeEnvironment (files : Files m) (usual : RawText) (arguments : List RawText)
    (env : Environment) : m (Except StartProblem (Option LoadedFile × Environment)) := do
  match readArguments arguments with
  | .error problem => return .error (.arguments problem)
  | .ok (some path) =>
    if ← files.isFile path then files.load ⟨path, true⟩ env else return .error (.notFound path)
  | .ok none =>
    if ← files.isFile usual then files.load ⟨usual, false⟩ env else return .ok (none, env)

end VehicleLink
