import VehicleLink.Text.CaseClasses
import VehicleLink.Text.CaseMaps
import VehicleLink.Text.Split

namespace VehicleLink.Text

/-- Whether the next character, passing over those that do not count, has a case. -/
def meetsCased (cs : List Char) : Bool :=
  match cs.dropWhile isCaseIgnorable with
  | c :: _ => isCased c
  | [] => false

/-- The lower case of a text. `before` holds the characters already passed, the last one first. A
capital sigma that ends a word becomes a final sigma. -/
def lowerFrom (before : List Char) : List Char → List Char
  | [] => []
  | c :: rest =>
    let mapped :=
      if c = 'Σ' then [if meetsCased before && !meetsCased rest then 'ς' else 'σ']
      else lowerChar c
    mapped ++ lowerFrom (c :: before) rest

/-- The lower case of a text. -/
def lowerChars (cs : List Char) : List Char := lowerFrom [] cs

/-- A word in lower case but for its first character. -/
def titleWord (word : List Char) : List Char :=
  match lowerChars word with
  | c :: rest => upperChar c ++ rest
  | [] => []

/-- The words of a constant name, which underscores and spaces divide, in title case and divided by
spaces: `CHARGING_GOAL_REACHED` is shown as `Charging Goal Reached`. -/
def titleCase (s : String) : String :=
  let words := splitAll (fun c => c = '_' ∨ c = ' ') s.toList
  String.ofList ([' '].intercalate (words.map titleWord))

/-- The upper case of the ASCII letters of a text; every other character stays. -/
def upperAscii (s : String) : String := s.map Char.toUpper

/-- Whether two texts differ at most in the case of ASCII letters. -/
def sameAscii (s t : String) : Bool :=
  s.toList.map Char.toLower == t.toList.map Char.toLower

/-- A text that is one word is no other one. -/
theorem not_sameAscii_of_sameAscii {s t u : String} (same : sameAscii s t = true) (differs : sameAscii t u = false) :
    sameAscii s u = false := by
  unfold sameAscii at same differs ⊢
  rw [beq_iff_eq] at same
  rw [same]
  exact differs

end VehicleLink.Text
