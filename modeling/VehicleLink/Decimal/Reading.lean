import VehicleLink.Decimal.Digits
import VehicleLink.Text.LetterCase

namespace VehicleLink.Decimal

/-- The floating-point number nearest to `mantissa * 10 ^ scale`. Beyond the bounds here every
decimal rounds to infinity or to zero. -/
def nearest (mantissa : Nat) (scale : Int) : Float :=
  let place := ((digits mantissa).length : Int) + scale
  if mantissa = 0 ∨ place < -400 then 0.0
  else if 400 < place then 1.0 / 0.0
  else if 0 ≤ scale then Float.ofScientific (mantissa * Nat.pow 10 scale.toNat) false 0
  else Float.ofScientific mantissa true (-scale).toNat

/-- Reads the exponent of a number: nothing, or the letter e, perhaps a sign, and digits. -/
def readExponent? : List Char → Option Int
  | [] => some 0
  | c :: rest =>
    if c = 'e' ∨ c = 'E' then
      let (negative, ds) := takeSign rest
      if ds.isEmpty || ds.any (!·.isDigit) then none
      else some (if negative then -(ofDigits ds : Int) else ofDigits ds)
    else none

/-- Reads a number without its sign. -/
def readMagnitude? (cs : List Char) : Option Float :=
  let name := String.ofList (cs.map Char.toLower)
  if name = "inf" ∨ name = "infinity" then some (1.0 / 0.0)
  else if name = "nan" then some (0.0 / 0.0)
  else
    let (whole, rest) := takeDigits cs.length cs
    let (fraction, rest) := match rest with
      | '.' :: more => takeDigits more.length more
      | _ => ([], rest)
    if whole.isEmpty && fraction.isEmpty then none
    else
      (readExponent? rest).map fun exponent =>
        nearest (ofDigits (whole ++ fraction)) (exponent - fraction.length)

/-- Reads a whole text as a number. -/
def readFloat? (s : String) : Option Float :=
  let (negative, cs) := takeSign s.toList
  (readMagnitude? cs).map fun x => if negative then -x else x

end VehicleLink.Decimal
