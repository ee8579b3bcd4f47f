import VehicleLink.Text.Blank
import VehicleLink.Text.Split

namespace VehicleLink

/-- The quote around a value. -/
inductive Quote where
  | single
  | double
deriving DecidableEq, Repr

/-- The character of a quote. -/
def Quote.sign : Quote → Char
  | .single => '\''
  | .double => '"'

/-- The name of a quote. -/
def Quote.name : Quote → String
  | .single => "single"
  | .double => "double"

/-- What is wrong with an assignment. -/
inductive AssignmentProblem where
  | noEquals
  | emptyName
  | blankInName (name : String)
  | afterQuote (quote : Quote)
  | openEscape
  | openQuote (quote : Quote)
deriving DecidableEq, Repr

/-- The problem in words. -/
def AssignmentProblem.message : AssignmentProblem → String
  | .noEquals => "missing '=' in assignment"
  | .emptyName => "environment variable name cannot be empty"
  | .blankInName name => "environment variable name contains whitespace: " ++ name
  | .afterQuote quote => "unexpected characters after closing " ++ quote.name ++ " quote"
  | .openEscape => "unterminated escape sequence in double-quoted value"
  | .openQuote quote => "unterminated " ++ quote.name ++ "-quoted value"

/-- The character that an escaped one stands for. -/
def unescape : Char → Char
  | 'n' => '\n'
  | 'r' => '\r'
  | 't' => '\t'
  | c => c

/-- Whether nothing but blanks and a comment follows. -/
def isRemark (cs : List Char) : Bool :=
  match Text.trimChars cs with
  | [] => true
  | c :: _ => c = '#'

/-- Reads a quoted value after its first quote. Only between double quotes does a backslash escape the next
character. -/
def readQuoted (quote : Quote) : List Char → Except AssignmentProblem (List Char)
  | [] => .error (.openQuote quote)
  | c :: rest =>
    if c = quote.sign then if isRemark rest then .ok [] else .error (.afterQuote quote)
    else if c = '\\' ∧ quote = .double then
      match rest with
      | [] => .error .openEscape
      | escaped :: rest => (readQuoted quote rest).map (unescape escaped :: ·)
    else (readQuoted quote rest).map (c :: ·)

/-- Reads a value, between quotes or as it is. Without quotes it ends at a number sign. -/
def readValue (cs : List Char) : Except AssignmentProblem (List Char) :=
  match Text.trimChars cs with
  | [] => .ok []
  | c :: rest =>
    if c = '"' then readQuoted .double rest
    else if c = '\'' then readQuoted .single rest
    else .ok (Text.dropBlanksEnd ((c :: rest).takeWhile (· ≠ '#')))

/-- An assignment without the word `export` in front. -/
def dropExport (cs : List Char) : List Char :=
  match Text.after? "export ".toList cs with
  | some rest => Text.dropBlanks rest
  | none => cs

/-- A variable and its value. -/
abbrev Assignment := String × String

/-- Reads an assignment that has no blanks at its ends. -/
def readAssignment (cs : List Char) : Except AssignmentProblem Assignment :=
  match Text.cutAt (· == '=') (dropExport cs) with
  | none => .error .noEquals
  | some (name, value) =>
    let name := Text.trimChars name
    if name.isEmpty then .error .emptyName
    else if name.any Text.isBlank then .error (.blankInName (String.ofList name))
    else (readValue value).map fun value => (String.ofList name, String.ofList value)

/-- Reads a line. A blank one and a comment assign nothing. -/
def readAssignmentLine (line : List Char) : Except AssignmentProblem (Option Assignment) :=
  match Text.trimChars line with
  | [] | '#' :: _ => .ok none
  | cs => (readAssignment cs).map some

end VehicleLink
