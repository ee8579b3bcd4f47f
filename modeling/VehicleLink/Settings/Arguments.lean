import VehicleLink.Text.Raw
import VehicleLink.Text.Split

namespace VehicleLink

/-- What is wrong with the arguments. -/
inductive ArgumentProblem where
  | noPath
  | repeated
  | unrecognised (argument : String)
  /-- An argument is no text. -/
  | notText
deriving DecidableEq, Repr

/-- The problem in words. -/
def ArgumentProblem.message : ArgumentProblem → String
  | .noPath => "`--env-file` requires a path argument"
  | .repeated => "`--env-file` provided more than once"
  | .unrecognised argument => "unrecognised argument: " ++ argument
  | .notText => "argument contains invalid UTF-8"

/-- The option that names a file. -/
def fileOption : String := "--env-file"

/-- The argument that ends the arguments. -/
def argumentsEnd : String := "--"

/-- Reads the arguments after those in which a file may have been named. -/
def readArgumentsFrom (found : Option RawText) : List RawText →
    Except ArgumentProblem (Option RawText)
  | [] => .ok found
  | .broken _ :: _ => .error .notText
  | .text s :: rest =>
    if s = fileOption then
      match rest with
      | [] => .error .noPath
      | path :: rest =>
        if found.isSome then .error .repeated else readArgumentsFrom (some path) rest
    else
      match Text.after? (fileOption ++ "=").toList s.toList with
      | some [] => .error .noPath
      | some path =>
        if found.isSome then .error .repeated
        else readArgumentsFrom (some (.text (String.ofList path))) rest
      | none => if s = argumentsEnd then .ok found else .error (.unrecognised s)

/-- Reads the arguments: the file that they name, if they name one. -/
def readArguments (arguments : List RawText) : Except ArgumentProblem (Option RawText) :=
  readArgumentsFrom none arguments

end VehicleLink
