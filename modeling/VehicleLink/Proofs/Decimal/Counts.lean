import Mathlib
import VehicleLink.Bridge.View

namespace VehicleLink

open Float.Model (Format UnpackedFloat totalExponent)
open Float.Model.UnpackedFloat

/-- The format of floats. -/
abbrev double : Format := .binary64

theorem double_minExponent : double.minExponent = -1074 := by decide

theorem double_exponentBias : double.exponentBias = 1023 := by decide

theorem double_targetExponent (m : Nat) (e : Int) :
    double.targetExponent (totalExponent m e) = max (m.log2 + 1 + e - 53) (-1074) := by
  simp [Format.targetExponent, totalExponent, double_minExponent, Format.mantissaBits]

theorem unpackSign_packComponents {spec : Format} (sign : Sign) (exponent : BitVec spec.exponentBits)
    (mantissa : BitVec spec.mantissaBitsWithoutImplicit) :
    unpackSign (packComponents spec sign exponent mantissa) = sign.toBitVec := by
  ext i bound
  have first : i = 0 := by omega
  subst first
  simp [unpackSign, packComponents, BitVec.getLsbD_append, BitVec.getLsbD_eq_getElem, BitVec.getElem_append]

/-- The bits of a positive float, which may be infinite. -/
def PositiveBits (b : BitVec double.numBits) : Prop :=
  ∃ exponent mantissa, b = packComponents double .positive exponent mantissa ∧
    (exponent = 0#_ → mantissa ≠ 0#_) ∧ (exponent = -1#_ → mantissa = 0#_)

section Rounding

variable {m : Nat} {e : Int}

theorem mantissa_shiftRight (em : ExtendedMantissa) (n : Nat) : (em >>> n).mantissa = em.mantissa / 2 ^ n := by
  induction n with
  | zero => exact (Nat.div_one _).symm
  | succ n ih =>
    have step : (em >>> (n + 1)).mantissa = (em >>> n).mantissa / 2 := rfl
    rw [step, ih, Nat.div_div_eq_div_mul, Nat.pow_succ]

/-- Rounding never makes a mantissa smaller than what is left of it. -/
theorem le_roundedMantissa (em : ExtendedMantissa) : em.mantissa ≤ em.roundedMantissa := by
  obtain ⟨m, round, sticky⟩ := em
  cases round <;> cases sticky <;>
    simp [ExtendedMantissa.roundedMantissa, ExtendedMantissa.accuracy, Accuracy.roundToNearestEven]

/-- A positive mantissa and an exponent that fit into a float. -/
structure Fits (m : Nat) (e : Int) : Prop where
  pos : 0 < m
  bound : m < 2 ^ 53
  least : -1074 ≤ e

/-- The leading bit is not shifted out unless it is below all that a float can hold. -/
theorem shiftToTargetExponent_fits (pos : 0 < m) (large : -1074 ≤ m.log2 + e) :
    Fits (shiftToTargetExponent double m e .exact).1.mantissa (shiftToTargetExponent double m e .exact).2 := by
  obtain ⟨k, shift⟩ : ∃ k, k = (max (m.log2 + 1 + e - 53) (-1074) - e).toNat := ⟨_, rfl⟩
  have mantissa : (shiftToTargetExponent double m e .exact).1.mantissa = m / 2 ^ k := by
    rw [shiftToTargetExponent, shiftToExponent, mantissa_shiftRight, double_targetExponent, ← shift]
    rfl
  have exponent : (shiftToTargetExponent double m e .exact).2 = e + k := by
    rw [shiftToTargetExponent, shiftToExponent, double_targetExponent, ← shift]
  rw [mantissa, exponent]
  refine ⟨?_, ?_, by omega⟩
  · have few : k ≤ m.log2 := by omega
    exact Nat.div_pos ((Nat.le_log2 (Nat.ne_of_gt pos)).mp few) (Nat.two_pow_pos k)
  · have many : m.log2 + 1 ≤ 53 + k := by omega
    rw [Nat.div_lt_iff_lt_mul (Nat.two_pow_pos k), ← Nat.pow_add]
    exact Nat.lt_of_lt_of_le Nat.lt_log2_self (Nat.pow_le_pow_right (by decide) many)

/-- What fits is packed as a positive float. -/
theorem pack_positive (fits : Fits m e) : PositiveBits (pack double (.finite .positive m e fits.pos)) := by
  obtain ⟨pos, bound, least⟩ := fits
  rw [pack]
  simp only [double_exponentBias]
  split
  · exact ⟨_, _, rfl, fun zero => absurd zero (by decide), fun _ => rfl⟩
  · rename_i small
    split
    · refine ⟨_, _, rfl, fun zero => ?_, fun ones => ?_⟩
      · have value := congrArg BitVec.toNat zero
        simp at value small
        omega
      · have value := congrArg BitVec.toNat ones
        simp at value small
        omega
    · rename_i subnormal
      refine ⟨_, _, rfl, fun _ zero => ?_, fun ones => absurd ones (by decide)⟩
      have value := congrArg BitVec.toNat zero
      have short : m.log2 < 53 := (Nat.log2_lt (Nat.ne_of_gt pos)).mpr bound
      have bits : double.mantissaBits = 53 := by decide
      have below : m < 2 ^ 52 := (Nat.log2_lt (Nat.ne_of_gt pos)).mp (by omega)
      simp at value
      omega

/-- A positive number that is not too small for a float is rounded to a positive one. -/
theorem round_positive (pos : 0 < m) (large : -1074 ≤ m.log2 + e) :
    PositiveBits (pack double (roundWithAccuracy double .positive m e .exact)) := by
  obtain ⟨first, _, least⟩ := shiftToTargetExponent_fits pos large
  -- Rounding up may bring in another bit, so the mantissa is shifted again.
  have rounded := Nat.lt_of_lt_of_le first (le_roundedMantissa _)
  have again := shiftToTargetExponent_fits rounded
    (Int.le_trans least (Int.le_add_of_nonneg_left (Int.natCast_nonneg _)))
  obtain ⟨m', e', fits, same⟩ : ∃ m' e', ∃ fits : Fits m' e',
      roundWithAccuracy double .positive m e .exact = .finite .positive m' e' fits.pos :=
    ⟨_, _, again, dif_neg (Nat.ne_of_gt again.pos)⟩
  rw [same]
  exact pack_positive fits

/-- A positive float is infinite or has a positive mantissa. -/
theorem unpack_positive {b : BitVec double.numBits} (positive : PositiveBits b) :
    unpack double b = .infinity .positive ∨
      ∃ m e, ∃ pos, unpack double b = .finite .positive m e pos ∧ -1074 ≤ e := by
  obtain ⟨exponent, mantissa, rfl, nonzero, number⟩ := positive
  have sign : Sign.ofBitVec Sign.positive.toBitVec = .positive := rfl
  rw [unpack]
  simp only [unpackSign_packComponents, unpackMantissa_packComponents, unpackExponent_packComponents,
    double_exponentBias, sign]
  split
  · rename_i ones
    left
    rw [if_pos (number ones)]
  · right
    split
    · rename_i zero
      have pos : 0 < mantissa.toNat := Nat.pos_of_ne_zero fun none =>
        nonzero zero (BitVec.eq_of_toNat_eq (by simpa using none))
      rw [dif_neg (nonzero zero)]
      exact ⟨_, _, pos, rfl, by simp [zero]⟩
    · rename_i nonzero
      have value : exponent.toNat ≠ 0 := fun none => nonzero (BitVec.eq_of_toNat_eq (by simpa using none))
      have pos : 0 < (1#1 ++ mantissa).toNat := by
        rw [BitVec.toNat_append]
        exact Nat.lt_of_lt_of_le (by decide) Nat.left_le_or
      exact ⟨_, _, pos, rfl, by simp; omega⟩

end Rounding

theorem log2_mul_two_pow_le {m : Nat} (pos : 0 < m) (k : Nat) : m.log2 + k ≤ (m * 2 ^ k).log2 := by
  have nonzero : m * 2 ^ k ≠ 0 := Nat.ne_of_gt (Nat.mul_pos pos (Nat.two_pow_pos k))
  rw [Nat.le_log2 nonzero, Nat.pow_add]
  exact Nat.mul_le_mul_right _ (Nat.log2_self_le (Nat.ne_of_gt pos))

theorem mul_one_positive {x : Float} (positive : PositiveBits x.toModel.toBits.toBitVec) :
    PositiveBits (x * (1 : UInt64).toFloat).toModel.toBits.toBitVec := by
  have one : (1 : UInt64).toFloat.toModel.unpack = .finite .positive (2 ^ 52) (-52) (by decide) := rfl
  have product : (x * (1 : UInt64).toFloat).toModel.toBits.toBitVec =
      pack double (mul double (unpack double x.toModel.toBits.toBitVec) (1 : UInt64).toFloat.toModel.unpack) := rfl
  rw [product, one]
  rcases unpack_positive positive with infinite | ⟨m, e, pos, finite, least⟩
  · rw [infinite]
    exact ⟨-1#_, 0#_, rfl, fun zero => absurd zero (by decide), fun _ => rfl⟩
  · rw [finite]
    have large := log2_mul_two_pow_le pos 52
    exact round_positive (Nat.mul_pos pos (by decide)) (by omega)

theorem toFloat_positive {n : UInt64} (pos : 0 < n.toNat) : PositiveBits n.toFloat.toModel.toBits.toBitVec := by
  have rounds : ofUInt64 double n = UnpackedFloat.round double .positive n.toNat 0 := by
    have greater : compare (n.toNat : Int) 0 = .gt := Int.compare_eq_gt.mpr (by omega)
    rw [ofUInt64, ofNat, ofInt, UnpackedFloat.normalize, greater]
    rfl
  have packed : n.toFloat.toModel.toBits.toBitVec = pack double (ofUInt64 double n) := rfl
  rw [packed, rounds, UnpackedFloat.round, decreaseExponent]
  simp only [Nat.shiftLeft_eq, double_targetExponent]
  have large := log2_mul_two_pow_le pos (0 - max ((n.toNat.log2 : Int) + 1 + 0 - 53) (-1074)).toNat
  exact round_positive (Nat.mul_pos pos (Nat.two_pow_pos _)) (by omega)

/-- A count other than zero is a positive float, however it is rounded. -/
theorem ofNat_positive {n : Nat} (pos : 0 < n) : PositiveBits (Float.ofNat n).toModel.toBits.toBitVec := by
  have literal : Float.ofNat n = Float.ofScientific n false 0 := rfl
  rw [literal, Float.ofScientific]
  by_cases small : n < 2 ^ 53
  · rw [dif_pos ⟨small, by decide⟩]
    refine mul_one_positive (toFloat_positive ?_)
    simp
    omega
  · rw [dif_neg fun ⟨few, _⟩ => small few]
    have scientific : Float.Model.UnpackedFloat.ofScientific double n 0 =
        roundWithAccuracy double .positive (n <<< 53 * 1) (-53 + 0) .exact := by
      have bits : (2 : Int) ^ double.exponentBits = 2048 := by decide
      rw [Float.Model.UnpackedFloat.ofScientific, dif_neg (Nat.ne_of_gt pos), if_neg (by decide),
        if_neg (by omega), if_pos (by decide)]
      rfl
    have large := log2_mul_two_pow_le pos 53
    change PositiveBits (pack double (Float.Model.UnpackedFloat.ofScientific double n 0))
    rw [scientific, Nat.shiftLeft_eq, Nat.mul_one]
    exact round_positive (Nat.mul_pos pos (Nat.two_pow_pos 53)) (by omega)

/-- A count is zero as a float only if it is zero. -/
theorem ofNat_eq_zero_iff {n : Nat} : Float.ofNat n = 0.0 ↔ n = 0 := by
  constructor
  · intro zero
    refine Nat.eq_zero_of_not_pos fun pos => ?_
    obtain ⟨exponent, mantissa, bits, nonzero, _⟩ := ofNat_positive pos
    rw [zero] at bits
    have exponents := congrArg unpackExponent bits
    have mantissas := congrArg unpackMantissa bits
    rw [unpackExponent_packComponents] at exponents
    rw [unpackMantissa_packComponents] at mantissas
    exact nonzero (exponents ▸ by decide) (mantissas ▸ by decide)
  · rintro rfl
    decide +kernel

theorem ofNat_ne_minusOne (n : Nat) : Float.ofNat n ≠ -1.0 := by
  rcases Nat.eq_zero_or_pos n with rfl | pos
  · decide +kernel
  · intro negative
    obtain ⟨exponent, mantissa, bits, _⟩ := ofNat_positive pos
    rw [negative] at bits
    have signs := congrArg unpackSign bits
    rw [unpackSign_packComponents] at signs
    exact absurd signs (by decide)

/-- No count is taken for the -1 that is told in place of a missing one. -/
theorem orMinusOne_eq_iff (place : Option Nat) : orMinusOne (place.map Float.ofNat) = -1.0 ↔ place = none := by
  cases place with
  | none => exact iff_of_true rfl rfl
  | some i => exact iff_of_false (ofNat_ne_minusOne i) (by simp)

section Casting

theorem lt_iff_compare {x y : Float} :
    x < y ↔ x.toModel.unpack.compare y.toModel.unpack = some .lt := by
  have models : x < y ↔ x.toModel.unpack.lt y.toModel.unpack = true :=
    ⟨fun below => of_decide_eq_true below, fun below => decide_eq_true below⟩
  rw [models, Float.Model.UnpackedFloat.lt, beq_iff_eq]

theorem toNat_ofNatClamp_le (n : Nat) : (UInt32.ofNatClamp n).toNat ≤ n := by
  rw [UInt32.ofNatClamp]
  split
  · exact le_rfl
  · rename_i large
    exact (Nat.sub_le _ _).trans (Nat.le_of_not_lt large)

/-- The mantissa of a float has 53 bits. -/
theorem mantissa_lt {b : BitVec double.numBits} {sign : Sign} {m : Nat} {e : Int} {pos : 0 < m}
    (finite : unpack double b = .finite sign m e pos) : m < 2 ^ 53 := by
  rw [unpack] at finite
  dsimp only at finite
  split_ifs at finite
  · obtain ⟨-, rfl, -⟩ := Float.Model.UnpackedFloat.finite.inj finite
    exact Nat.lt_of_lt_of_le (unpackMantissa b).isLt (by decide)
  · obtain ⟨-, rfl, -⟩ := Float.Model.UnpackedFloat.finite.inj finite
    exact (1#1 ++ unpackMantissa b).isLt

/-- A cast drops the bits below the point. -/
theorem roundToInt_eq (sign : Sign) (m k : Nat) : roundToInt sign m (-k) = sign.apply (m / 2 ^ k : Nat) := by
  have added : (-k - 0 : Int).toNat = 0 := by omega
  have dropped : (0 - (-k - (0 : Nat)) : Int).toNat = k := by omega
  simp only [roundToInt, decreaseExponent, shiftToExponent, added, dropped, Nat.shiftLeft_zero, mantissa_shiftRight]
  rfl

theorem roundToInt_negative_le (m : Nat) (e : Int) : roundToInt .negative m e ≤ 0 := by
  rw [roundToInt]
  exact Int.neg_nonpos_of_nonneg (Int.natCast_nonneg _)

/-- What is not above a whole number, written with a mantissa of full width, is not above it when it is cast either. -/
theorem toInt_le {b : BitVec double.numBits} {limit k : Nat} (pos : 0 < limit * 2 ^ k) (wide : 2 ^ 52 ≤ limit * 2 ^ k)
    (within : (UnpackedFloat.finite .positive (limit * 2 ^ k) (-k) pos).compare (unpack double b) ≠ some .lt)
    (top : Int) : (unpack double b).toInt 0 top ≤ limit := by
  cases size : unpack double b with
  | notANumber => exact Int.natCast_nonneg _
  | zero => exact Int.natCast_nonneg _
  | infinity sign =>
    rw [size] at within
    cases sign with
    | positive => exact absurd rfl within
    | negative => exact Int.natCast_nonneg _
  | finite sign m e =>
    have few := mantissa_lt size
    rw [size] at within
    cases sign with
    | negative => exact (roundToInt_negative_le m e).trans (Int.natCast_nonneg _)
    | positive =>
      have order : (compare (-k : Int) e).then (compare (limit * 2 ^ k) m) ≠ .lt := fun wrong =>
        within (congrArg some wrong)
      have places : e ≤ -k := by
        by_contra above
        rw [Int.compare_eq_lt.mpr (by omega)] at order
        exact order rfl
      obtain ⟨j, rfl⟩ : ∃ j : Nat, e = -j := ⟨(-e).toNat, by omega⟩
      change roundToInt .positive m (-j) ≤ _
      rw [roundToInt_eq]
      refine Int.ofNat_le.mpr (Nat.div_le_of_le_mul ?_)
      rcases Nat.lt_or_ge k j with more | same
      · calc m ≤ 2 ^ 52 * 2 := few.le
          _ ≤ limit * 2 ^ k * 2 := Nat.mul_le_mul_right 2 wide
          _ = 2 ^ (k + 1) * limit := by ring
          _ ≤ 2 ^ j * limit := Nat.mul_le_mul_right limit (Nat.pow_le_pow_right (by decide) more)
      · obtain rfl : j = k := by omega
        rw [Int.compare_eq_eq.mpr rfl] at order
        rw [Nat.mul_comm]
        exact Nat.le_of_not_lt fun above => order (Nat.compare_eq_lt.mpr above)

/-- A float that is not above a limit is not above it once it is cast, and what is no number is cast to zero. -/
theorem toNat_toUInt32_le {x : Float} {limit k : Nat} (pos : 0 < limit * 2 ^ k) (wide : 2 ^ 52 ≤ limit * 2 ^ k)
    (written : (Float.ofNat limit).toModel.unpack = .finite .positive (limit * 2 ^ k) (-k) pos)
    (within : ¬Float.ofNat limit < x) : x.toUInt32.toNat ≤ limit := by
  rw [lt_iff_compare, written] at within
  have whole := toInt_le pos wide within (UInt32.size - 1)
  exact (toNat_ofNatClamp_le _).trans (Int.toNat_le.mpr whole)

end Casting

end VehicleLink
