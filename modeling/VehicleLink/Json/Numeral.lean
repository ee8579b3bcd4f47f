import VehicleLink.Decimal.Digits
import VehicleLink.Json.Value

namespace VehicleLink.Json

/-- The parts of a number as written. -/
structure Numeral where
  negative : Bool
  /-- The digits before the point. -/
  whole : List Char
  /-- The digits after the point, if there is one. -/
  fraction : Option (List Char)
  /-- The number after the letter e, if there is one. -/
  exponent : Option Int

/-- Digits read into 64 bits: the number so far, and the digits from the first on that did not fit. -/
def fill64 (n : Nat) : List Char → Nat × List Char
  | [] => (n, [])
  | c :: cs =>
    let next := n * 10 + (Decimal.digit? c).getD 0
    if next ≤ Decimal.max64 then fill64 next cs else (n, c :: cs)

/-- The power of ten nearest to `10 ^ k`, for `k` up to 308. -/
def tenPower (k : Nat) : Float := Float.ofScientific (Nat.pow 10 k) false 0

/-- Scales a number by `10 ^ power`, in one multiplication or division where the power is within the
range of floating-point numbers. There is no result when it would be infinite. -/
def scale? (x : Float) (power : Int) : Option Float :=
  if 0 ≤ power then
    if power ≤ 308 then
      let y := x * tenPower power.toNat
      if y.isInf then none else some y
    else if x == 0.0 then some x else none
  else if -power ≤ 308 then some (x / tenPower (-power).toNat)
  else if x == 0.0 then some x
  else scale? (x / tenPower 308) (power + 308)
termination_by (-power).toNat
decreasing_by omega

/-- The size of a numeral as a floating-point number, sign apart. Its first digits, as many as fit in 64 bits, are
scaled by one power of ten, which does not always give the number nearest to the numeral. -/
def Numeral.real? (n : Numeral) : Option Float :=
  let (head, dropped) := fill64 0 n.whole
  let (significand, left) := fill64 head (n.fraction.getD [])
  let placed := (n.fraction.getD []).length - left.length
  scale? significand.toUInt64.toFloat ((dropped.length : Int) - placed + n.exponent.getD 0)

/-- The value of a numeral that is written as an integer, if it is one of 64 bits. Minus zero is none: an integer
cannot hold its sign. -/
def Numeral.integer? (n : Numeral) : Option Int :=
  match n.fraction, n.exponent, fill64 0 n.whole with
  | none, none, (size, []) =>
    if !n.negative then some size
    else if size ≠ 0 ∧ size ≤ 0x8000000000000000 then some (-(size : Int))
    else none
  | _, _, _ => none

/-- The value of a numeral, if it is in range. -/
def Numeral.value? (n : Numeral) : Option Number :=
  match n.integer? with
  | some i => some (.whole i)
  | none => n.real?.map fun x => .real (if n.negative then -x else x)

/-- The floating-point number nearest to an integer of 64 bits. -/
def floatOfInt (n : Int) : Float :=
  if n < 0 then -(n.natAbs.toUInt64.toFloat) else n.toNat.toUInt64.toFloat

end VehicleLink.Json
