import VehicleLink.Decimal.Binary

namespace VehicleLink.Decimal

/-- Which of two equally near decimals is taken. -/
inductive Tie where
  | toEven
  | upward
deriving DecidableEq

/-- The numerator and denominator of the number in units of `10 ^ scale`. -/
def Binary.inUnits (x : Binary) (scale : Int) : Nat × Nat :=
  (x.mantissa * Nat.pow 2 x.exponent.toNat * Nat.pow 10 (-scale).toNat,
    Nat.pow 2 (-x.exponent).toNat * Nat.pow 10 scale.toNat)

/-- Whether the number is less than `10 ^ k`. -/
def Binary.below (x : Binary) (k : Int) : Bool :=
  compareScaled 1 k x.mantissa x.exponent == .gt

/-- The least `k` with the number less than `10 ^ k`: the binary logarithm gives it but for a step
or two. -/
def Binary.place (x : Binary) : Int :=
  let guess := Int.fdiv (((Nat.log2 x.mantissa : Int) + x.exponent) * 30103) 100000
  if x.below guess then guess
  else if x.below (guess + 1) then guess + 1
  else guess + 2

/-- The nearer of the two neighbours on the grid of `10 ^ scale` that read back, if one does. -/
def Binary.onGrid? (x : Binary) (tie : Tie) (scale : Int) : Option Dec :=
  let (num, den) := x.inUnits scale
  let low : Dec := ⟨num / den, scale⟩
  let high : Dec := ⟨num / den + 1, scale⟩
  match x.readsBack low, x.readsBack high with
  | false, false => none
  | true, false => some low
  | false, true => some high
  | true, true =>
    match compare (2 * (num % den)) den with
    | .lt => some low
    | .gt => some high
    | .eq => some (if tie = .upward ∨ low.digits % 2 = 1 then high else low)

/-- The decimal without the zeros at the end of its digits, for at most `fuel` zeros. -/
def Dec.strip : Nat → Dec → Dec
  | 0, d => d
  | fuel + 1, d =>
    if d.digits ≠ 0 ∧ d.digits % 10 = 0 then Dec.strip fuel ⟨d.digits / 10, d.scale + 1⟩ else d

/-- The exact decimal value of the number. -/
def Binary.exact (x : Binary) : Dec :=
  if 0 ≤ x.exponent then ⟨x.mantissa * Nat.pow 2 x.exponent.toNat, 0⟩
  else ⟨x.mantissa * Nat.pow 5 (-x.exponent).toNat, x.exponent⟩

/-- The shortest decimal that reads back to a number that is not zero, and of these the nearest. It is looked for on
ever finer grids of powers of ten, from the place of the leading digit on. Seventeen digits are always enough. -/
def Binary.shortest (x : Binary) (tie : Tie) : Dec :=
  let place := x.place
  let found := (List.range 17).findSome? fun (n : Nat) => x.onGrid? tie (place - (n + 1))
  (found.getD x.exact).strip 20

end VehicleLink.Decimal
