namespace VehicleLink.Decimal

/-- The size of a finite floating-point number, which is `mantissa * 2 ^ exponent`. -/
structure Binary where
  mantissa : Nat
  exponent : Int
  /-- Whether the gap to the number below is half the gap to the number above. -/
  narrowBelow : Bool

/-- What a floating-point number is, sign apart. -/
inductive Magnitude where
  | notANumber
  | infinite
  | finite (size : Binary)

/-- Takes the bits of a floating-point number apart. -/
def magnitude (x : Float) : Magnitude :=
  let bits := x.toBits
  let power := ((bits >>> 52) &&& 0x7FF).toNat
  let fraction := (bits &&& 0xFFFFFFFFFFFFF).toNat
  if power = 0x7FF then if fraction = 0 then .infinite else .notANumber
  else if power = 0 then .finite ⟨fraction, -1074, false⟩
  else .finite ⟨0x10000000000000 + fraction, (power : Int) - 1075, fraction = 0 && power > 1⟩

/-- Whether the sign of a floating-point number is minus. -/
def isNegative (x : Float) : Bool := x.toBits >>> 63 != 0

/-- A floating-point number without what stands behind its point. Below one only the sign is left; from
`2 ^ 52` on all numbers are whole, and those that are not finite stay as they are. -/
def truncated (x : Float) : Float :=
  let bits := x.toBits
  let power := ((bits >>> 52) &&& 0x7FF).toNat
  if power < 1023 then Float.ofBits (bits &&& 0x8000000000000000)
  else if 1075 ≤ power then x
  else
    let dropped := (1075 - power).toUInt64
    Float.ofBits (bits >>> dropped <<< dropped)

/-- What stands behind the point of a floating-point number. It is no number where that is not finite. -/
def fraction (x : Float) : Float := x - truncated x

/-- A decimal: `digits * 10 ^ scale`. -/
structure Dec where
  digits : Nat
  scale : Int
deriving Repr, DecidableEq

/-- Compares `a * 10 ^ i` with `n * 2 ^ j`. -/
def compareScaled (a : Nat) (i : Int) (n : Nat) (j : Int) : Ordering :=
  compare (a * Nat.pow 10 i.toNat * Nat.pow 2 (-j).toNat)
    (n * Nat.pow 2 j.toNat * Nat.pow 10 (-i).toNat)

/-- Whether a decimal lies among the reals that round to the number: they form an interval from halfway to the
number below to halfway to the number above, whose ends belong to it exactly when the mantissa is even. -/
def Binary.readsBack (x : Binary) (d : Dec) : Bool :=
  let low := if x.narrowBelow then 4 * x.mantissa - 1 else 4 * x.mantissa - 2
  let high := 4 * x.mantissa + 2
  let closed := x.mantissa % 2 == 0
  let atLow := compareScaled d.digits d.scale low (x.exponent - 2)
  let atHigh := compareScaled d.digits d.scale high (x.exponent - 2)
  (atLow == .gt || (closed && atLow == .eq)) && (atHigh == .lt || (closed && atHigh == .eq))

end VehicleLink.Decimal
