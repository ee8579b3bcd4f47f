import VehicleLink.Decimal.Digits
import VehicleLink.Decimal.Shortest

namespace VehicleLink.Decimal

/-- The decisions of a kind of number text. -/
structure Layout where
  /-- The exponents of the leading digit from the first bound up to, but not with, the second are
  written positionally, all others with an exponent; without bounds every number is positional. -/
  positional : Option (Int × Int)
  /-- Whether a whole number ends in a point and a zero. -/
  pointZero : Bool
  /-- Whether an exponent that is not negative has a plus sign. -/
  exponentPlus : Bool
  /-- Which of two equally near decimals is written. -/
  tie : Tie

/-- The digits of a decimal written out, with a point where one is needed. -/
def positionalText (layout : Layout) (d : Dec) : List Char :=
  let ds := digits d.digits
  let whole := (ds.length : Int) + d.scale
  if 0 ≤ d.scale then
    ds ++ List.replicate d.scale.toNat '0' ++ (if layout.pointZero then ['.', '0'] else [])
  else if 0 < whole then ds.take whole.toNat ++ '.' :: ds.drop whole.toNat
  else '0' :: '.' :: List.replicate (-whole).toNat '0' ++ ds

/-- The digits of a decimal with a point after the first, and the exponent of that first digit. -/
def exponentText (layout : Layout) (d : Dec) : List Char :=
  let ds := digits d.digits
  let exponent := (ds.length : Int) + d.scale - 1
  let mantissa := match ds with
    | [] => []
    | [c] => [c]
    | c :: rest => c :: '.' :: rest
  let sign := if exponent < 0 then ['-'] else if layout.exponentPlus then ['+'] else []
  mantissa ++ 'e' :: sign ++ digits exponent.natAbs

/-- The text of a decimal that is not zero. -/
def decimalText (layout : Layout) (d : Dec) : List Char :=
  let exponent := ((digits d.digits).length : Int) + d.scale - 1
  match layout.positional with
  | none => positionalText layout d
  | some (start, stop) =>
    if start ≤ exponent ∧ exponent < stop then positionalText layout d
    else exponentText layout d

/-- The text of a floating-point number. -/
def render (layout : Layout) (x : Float) : String :=
  let sign := if isNegative x then ['-'] else []
  match magnitude x with
  | .notANumber => "NaN"
  | .infinite => String.ofList (sign ++ "inf".toList)
  | .finite size =>
    if size.mantissa = 0 then
      String.ofList (sign ++ if layout.pointZero then ['0', '.', '0'] else ['0'])
    else String.ofList (sign ++ decimalText layout (size.shortest layout.tie))

/-- Numbers as channels show them: always positional, and a whole number without a point. -/
def plain : Layout := ⟨none, false, false, .upward⟩

/-- Numbers as messages repeat them: a whole number has a point and a zero, and there is an exponent
from `1e16` on and below `1e-4`. -/
def precise : Layout := ⟨some (-4, 16), true, false, .upward⟩

end VehicleLink.Decimal
