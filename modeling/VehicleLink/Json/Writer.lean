import VehicleLink.Decimal.Layout
import VehicleLink.Json.Value

namespace VehicleLink.Json

/-- A whole number has a point and a zero, there is an exponent from `1e+16` on and below `1e-5`, and
of two equally near decimals the one with an even last digit is written. -/
def numberLayout : Decimal.Layout := ⟨some (-5, 16), true, true, .toEven⟩

/-- The four hexadecimal digits of a unit. -/
def hexUnit (n : Nat) : List Char :=
  let ds := Nat.toDigits 16 n
  List.replicate (4 - ds.length) '0' ++ ds

/-- A character inside a written text: the quote, the backslash and control characters are escaped. -/
def escapeChar (c : Char) : List Char :=
  match c with
  | '"' => ['\\', '"']
  | '\\' => ['\\', '\\']
  | '\x08' => ['\\', 'b']
  | '\x0c' => ['\\', 'f']
  | '\n' => ['\\', 'n']
  | '\r' => ['\\', 'r']
  | '\t' => ['\\', 't']
  | c => if c.toNat < 0x20 then '\\' :: 'u' :: hexUnit c.toNat else [c]

/-- A written text. -/
def writeText (s : String) : List Char := '"' :: s.toList.flatMap escapeChar ++ ['"']

/-- A written number. A floating-point number that is not finite has no written form of its own and is
written as `null`. -/
def writeNumber : Number → List Char
  | .whole n => (Decimal.integerText n).toList
  | .real x => if x.isFinite then (Decimal.render numberLayout x).toList else "null".toList

mutual
/-- The characters of a written value. -/
def write : Json → List Char
  | .null => "null".toList
  | .flag true => "true".toList
  | .flag false => "false".toList
  | .number n => writeNumber n
  | .text s => writeText s
  | .list items => '[' :: writeItems items ++ [']']
  | .object members => '\x7b' :: writeMembers members ++ ['\x7d']

/-- Written values with commas between them. -/
def writeItems : List Json → List Char
  | [] => []
  | [v] => write v
  | v :: w :: rest => write v ++ ',' :: writeItems (w :: rest)

/-- Written members with commas between them. -/
def writeMembers : List (String × Json) → List Char
  | [] => []
  | [(k, v)] => writeText k ++ ':' :: write v
  | (k, v) :: m :: rest => writeText k ++ ':' :: write v ++ ',' :: writeMembers (m :: rest)
end

/-- The text of a value. -/
def toText (v : Json) : String := String.ofList v.write

end VehicleLink.Json
