import VehicleLink.Json.Token
import VehicleLink.Json.Writer
import VehicleLink.Proofs.Decimal.Digits
import VehicleLink.Proofs.Decimal.Shortest
import VehicleLink.Proofs.Json.Kept

namespace VehicleLink.Json

/-- An exponent as it is written. -/
def exponentChars (e : Int) : List Char :=
  'e' :: (if e < 0 then '-' else '+') :: Decimal.digits e.natAbs

namespace Numeral

/-- The characters of a numeral after its sign. -/
def sizeChars (n : Numeral) : List Char :=
  n.whole ++ (n.fraction.elim [] ('.' :: ·) ++ n.exponent.elim [] exponentChars)

/-- The characters of a numeral. -/
def chars (n : Numeral) : List Char := (if n.negative then ['-'] else []) ++ n.sizeChars

/-- The parts of a numeral are as the grammar asks for: no zero stands in front of other digits, and a
point has digits after it. -/
structure Proper (n : Numeral) : Prop where
  whole_digits : ∀ c ∈ n.whole, c.isDigit = true
  whole_first : ∃ c rest, n.whole = c :: rest ∧ (c = '0' → rest = [])
  fraction_digits : ∀ ds, n.fraction = some ds → ds ≠ [] ∧ ∀ c ∈ ds, c.isDigit = true

/-- No character that follows could belong to the numeral. -/
def EndsBefore (n : Numeral) (rest : List Char) : Prop :=
  ∀ c ∈ rest.head?, c.isDigit = false ∧ (n.exponent = none → c ≠ 'e' ∧ c ≠ 'E' ∧ (n.fraction = none → c ≠ '.'))

end Numeral

/-- An exponent after its letter, and what follows it: digits, perhaps with a sign. -/
inductive PowerSpells : Int → List Char → List Char → Prop
  | positive {plus ds rest : List Char} (sign : plus = [] ∨ plus = ['+']) (some : ds ≠ [])
      (all : ∀ c ∈ ds, c.isDigit = true) : PowerSpells (Decimal.ofDigits ds) (plus ++ (ds ++ rest)) rest
  | negative {ds rest : List Char} (some : ds ≠ []) (all : ∀ c ∈ ds, c.isDigit = true) :
      PowerSpells (-(Decimal.ofDigits ds : Int)) ('-' :: (ds ++ rest)) rest

/-- The exponent of a numeral, if it has one, and what follows it. -/
inductive ExponentSpells : Option Int → List Char → List Char → Prop
  | none {rest : List Char} : ExponentSpells none rest rest
  | some {e : Int} {letter : Char} {cs rest : List Char} (mark : letter = 'e' ∨ letter = 'E')
      (power : PowerSpells e cs rest) : ExponentSpells (some e) (letter :: cs) rest

namespace Numeral

/-- A numeral without its sign, and what follows it. It goes as far as it can. -/
def SizeSpells (n : Numeral) (cs rest : List Char) : Prop :=
  n.Proper ∧ n.EndsBefore rest ∧
    ∃ power, ExponentSpells n.exponent power rest ∧ cs = n.whole ++ (n.fraction.elim [] ('.' :: ·) ++ power)

/-- A numeral, and what follows it. -/
def Spells (n : Numeral) (cs rest : List Char) : Prop :=
  ∃ size, n.SizeSpells size rest ∧ cs = (if n.negative then ['-'] else []) ++ size

end Numeral

/-- What follows does not begin with a digit. -/
def DigitsEnd (rest : List Char) : Prop := ∀ c ∈ rest.head?, c.isDigit = false

theorem Numeral.EndsBefore.digitsEnd {n : Numeral} {rest : List Char} (ends : n.EndsBefore rest) : DigitsEnd rest :=
  fun c first => (ends c first).1

theorem takeWhile_digits {ds rest : List Char} (all : ∀ c ∈ ds, c.isDigit = true)
    (ends : DigitsEnd rest) : (ds ++ rest).takeWhile Char.isDigit = ds := by
  rw [List.takeWhile_append_of_pos all]
  cases rest with
  | nil => simp
  | cons c rest => simp [ends c rfl]

theorem dropWhile_digits {ds rest : List Char} (all : ∀ c ∈ ds, c.isDigit = true)
    (ends : DigitsEnd rest) : (ds ++ rest).dropWhile Char.isDigit = rest := by
  rw [List.dropWhile_append_of_pos all]
  cases rest with
  | nil => simp
  | cons c rest => simp [ends c rfl]

theorem digits_split (cs : List Char) :
    ∃ ds rest, cs = ds ++ rest ∧ (∀ c ∈ ds, c.isDigit = true) ∧ DigitsEnd rest := by
  refine ⟨cs.takeWhile Char.isDigit, cs.dropWhile Char.isDigit, List.takeWhile_append_dropWhile.symm,
    fun _ => List.all_eq_true.mp List.all_takeWhile _, fun c first => ?_⟩
  have stops := List.head?_dropWhile_not Char.isDigit cs
  rw [Option.mem_def.mp first] at stops
  simpa using stops

theorem takeSign_digits {ds rest : List Char} (some : ds ≠ []) (all : ∀ c ∈ ds, c.isDigit = true) :
    Decimal.takeSign (ds ++ rest) = (false, ds ++ rest) := by
  obtain ⟨d, more, rfl⟩ := List.exists_cons_of_ne_nil some
  have digit := all d List.mem_cons_self
  unfold Decimal.takeSign
  split
  · rename_i same
    cases same
    cases digit
  · rename_i same
    cases same
    cases digit
  · rfl

/-- A sign is taken off if there is one. -/
theorem takeSign_split (cs : List Char) : (∃ tail, cs = '-' :: tail ∧ Decimal.takeSign cs = (true, tail)) ∨
    ∃ plus tail, (plus = [] ∨ plus = ['+']) ∧ cs = plus ++ tail ∧ Decimal.takeSign cs = (false, tail) := by
  unfold Decimal.takeSign
  split
  · exact Or.inl ⟨_, rfl, rfl⟩
  · exact Or.inr ⟨['+'], _, Or.inr rfl, rfl, rfl⟩
  · exact Or.inr ⟨[], _, Or.inl rfl, rfl, rfl⟩

/-- An exponent is read as the grammar says, as far as its digits go. -/
theorem scanExponent_iff {e : Int} {cs rest : List Char} :
    scanExponent cs = .ok (e, rest) ↔ PowerSpells e cs rest ∧ DigitsEnd rest := by
  constructor
  · intro read
    rcases takeSign_split cs with ⟨tail, rfl, sign⟩ | ⟨plus, tail, kind, rfl, sign⟩
    all_goals
      obtain ⟨ds, after, rfl, all, ends⟩ := digits_split tail
      simp only [scanExponent, sign, takeWhile_digits all ends, dropWhile_digits all ends] at read
      split at read
      · cases read
      · rename_i some
        cases read
        first
        | exact ⟨.negative (by simpa using some) all, ends⟩
        | exact ⟨.positive kind (by simpa using some) all, ends⟩
  · rintro ⟨spelled, ends⟩
    cases spelled with
    | @positive plus ds _ sign some all =>
      have signed : Decimal.takeSign (plus ++ (ds ++ rest)) = (false, ds ++ rest) := by
        rcases sign with rfl | rfl
        · rw [List.nil_append, takeSign_digits some all]
        · rfl
      simp [scanExponent, signed, takeWhile_digits all ends, dropWhile_digits all ends, some]
    | negative some all =>
      simp [scanExponent, Decimal.takeSign, takeWhile_digits all ends, dropWhile_digits all ends, some]

/-- No character that follows could belong to an exponent. -/
def ExponentEnds (exponent : Option Int) (rest : List Char) : Prop :=
  ∀ c ∈ rest.head?, (exponent = none → c ≠ 'e' ∧ c ≠ 'E') ∧ (exponent ≠ none → c.isDigit = false)

/-- Behind the digits an exponent is read, if there is one. -/
theorem scanPower_iff {negative : Bool} {whole cs rest : List Char} {fraction : Option (List Char)} {n : Numeral} :
    scanPower negative whole fraction cs = .ok (n, rest) ↔
      ∃ exponent, n = ⟨negative, whole, fraction, exponent⟩ ∧ ExponentSpells exponent cs rest ∧
        ExponentEnds exponent rest := by
  constructor
  · intro read
    unfold scanPower at read
    split at read
    · rename_i c tail
      split at read
      · rename_i mark
        cases power : scanExponent tail with
        | error flaw =>
          rw [power] at read
          cases read
        | ok found =>
          obtain ⟨e, after⟩ := found
          rw [power] at read
          cases read
          obtain ⟨spelled, ends⟩ := scanExponent_iff.mp power
          exact ⟨some e, rfl, .some mark spelled, fun c first => ⟨by simp, fun _ => ends c first⟩⟩
      · rename_i other
        cases read
        refine ⟨none, rfl, .none, fun d first => ⟨fun _ => ?_, by simp⟩⟩
        cases first
        exact not_or.mp other
    · cases read
      exact ⟨none, rfl, .none, fun d first => by cases first⟩
  · rintro ⟨exponent, rfl, spelled, ends⟩
    cases spelled with
    | none =>
      cases cs with
      | nil => rfl
      | cons c rest =>
        obtain ⟨lower, upper⟩ := (ends c rfl).1 rfl
        simp [scanPower, lower, upper]
    | @some e letter cs _ mark power =>
      have scanned := scanExponent_iff.mpr ⟨power, fun c first => (ends c first).2 (by simp)⟩
      simp only [scanPower, if_pos mark, scanned, Except.map]

theorem ExponentSpells.digitsEnd {exponent : Option Int} {cs rest : List Char}
    (spelled : ExponentSpells exponent cs rest) (ends : DigitsEnd rest) : DigitsEnd cs := by
  cases spelled with
  | none => exact ends
  | some mark power =>
    intro c first
    cases first
    rcases mark with rfl | rfl <;> rfl

/-- Without an exponent a numeral ends with its digits, and with one where the exponent ends. -/
theorem ExponentSpells.endsBefore {n : Numeral} {power rest : List Char}
    (spelled : ExponentSpells n.exponent power rest) (stops : ExponentEnds n.exponent rest)
    (start : DigitsEnd power) (point : n.fraction = Option.none → ∀ c ∈ power.head?, c ≠ '.') : n.EndsBefore rest := by
  obtain ⟨negative, whole, fraction, exponent⟩ := n
  intro c first
  obtain ⟨letters, digit⟩ := stops c first
  cases spelled with
  | none =>
    obtain ⟨lower, upper⟩ := letters rfl
    exact ⟨start c first, fun _ => ⟨lower, upper, fun plain => point plain c first⟩⟩
  | some mark power => exact ⟨digit (by simp), fun none => by cases none⟩

theorem Numeral.EndsBefore.exponentEnds {n : Numeral} {rest : List Char} (ends : n.EndsBefore rest) :
    ExponentEnds n.exponent rest := by
  intro c first
  obtain ⟨digit, mark⟩ := ends c first
  exact ⟨fun none => ⟨(mark none).1, (mark none).2.1⟩, fun _ => digit⟩

/-- Behind the whole digits a fraction and an exponent are read, if there are any. -/
theorem scanFraction_iff {negative : Bool} {whole cs rest : List Char} {n : Numeral} (start : DigitsEnd cs) :
    scanFraction negative whole cs = .ok (n, rest) ↔
      n.negative = negative ∧ n.whole = whole ∧
        (∀ ds, n.fraction = some ds → ds ≠ [] ∧ ∀ c ∈ ds, c.isDigit = true) ∧ n.EndsBefore rest ∧
        ∃ power, ExponentSpells n.exponent power rest ∧ cs = n.fraction.elim [] ('.' :: ·) ++ power := by
  constructor
  · intro read
    unfold scanFraction at read
    split at read
    · rename_i tail
      obtain ⟨ds, after, rfl, all, ends⟩ := digits_split tail
      simp only [takeWhile_digits all ends, dropWhile_digits all ends] at read
      split at read
      · cases read
      · rename_i some
        obtain ⟨exponent, rfl, spelled, stops⟩ := scanPower_iff.mp read
        refine ⟨rfl, rfl, ?_, spelled.endsBefore stops ends (by simp), after, spelled, rfl⟩
        rintro _ ⟨⟩
        exact ⟨by simpa using some, all⟩
    · rename_i point
      obtain ⟨exponent, rfl, spelled, stops⟩ := scanPower_iff.mp read
      refine ⟨rfl, rfl, by simp, spelled.endsBefore stops start fun _ c first => ?_, cs, spelled, rfl⟩
      cases cs with
      | nil => cases first
      | cons d cs =>
        cases first
        exact fun same => point cs (same ▸ rfl)
  · obtain ⟨negative, whole, fraction, exponent⟩ := n
    rintro ⟨rfl, rfl, digits, ends, power, spelled, rfl⟩
    have read : scanPower negative whole fraction power = .ok (⟨negative, whole, fraction, exponent⟩, rest) :=
      scanPower_iff.mpr ⟨exponent, rfl, spelled, ends.exponentEnds⟩
    cases fraction with
    | none =>
      rw [Option.elim_none, List.nil_append]
      unfold scanFraction
      split
      · cases spelled with
        | none => exact absurd rfl (((ends '.' rfl).2 rfl).2.2 rfl)
        | some mark => rcases mark with mark | mark <;> cases mark
      · exact read
    | some ds =>
      obtain ⟨some, all⟩ := digits ds rfl
      have after := spelled.digitsEnd ends.digitsEnd
      simp only [Option.elim_some, List.cons_append, scanFraction, takeWhile_digits all after,
        dropWhile_digits all after, List.isEmpty_iff, some, if_false]
      exact read

/-- A number is read as a numeral as far as it goes. -/
theorem scanNumber_iff {negative : Bool} {cs rest : List Char} {n : Numeral} :
    scanNumber negative cs = .ok (n, rest) ↔ n.negative = negative ∧ n.SizeSpells cs rest := by
  constructor
  · intro read
    obtain ⟨ds, after, rfl, all, ends⟩ := digits_split cs
    simp only [scanNumber, takeWhile_digits all ends, dropWhile_digits all ends] at read
    split at read
    · cases read
    · cases read
    · rename_i some zero
      obtain ⟨sign, whole, fraction, stops, power, spelled, rfl⟩ := (scanFraction_iff ends).mp read
      obtain ⟨c, more, rfl⟩ := List.exists_cons_of_ne_nil some
      refine ⟨sign, ⟨whole ▸ all, ⟨c, more, whole, ?_⟩, fraction⟩, stops, power, spelled, by rw [whole]⟩
      -- A zero with another digit behind it would have been refused.
      rintro rfl
      cases more with
      | nil => rfl
      | cons d more => exact absurd rfl (zero d more)
  · rintro ⟨rfl, proper, ends, power, spelled, rfl⟩
    obtain ⟨c, more, whole, lead⟩ := proper.whole_first
    have start : DigitsEnd (n.fraction.elim [] ('.' :: ·) ++ power) := by
      cases n.fraction with
      | none => exact spelled.digitsEnd ends.digitsEnd
      | some ds =>
        intro d first
        cases first
        rfl
    have fraction := (scanFraction_iff start).mpr ⟨rfl, rfl, proper.fraction_digits, ends, power, spelled, rfl⟩
    simp only [scanNumber, takeWhile_digits proper.whole_digits start,
      dropWhile_digits proper.whole_digits start]
    split
    · rename_i empty
      rw [whole] at empty
      cases empty
    · rename_i d ds long
      rw [whole] at long
      cases long
      cases lead rfl
    · exact fraction

theorem exponentChars_spells (exponent : Option Int) (rest : List Char) :
    ExponentSpells exponent (exponent.elim [] exponentChars ++ rest) rest := by
  cases exponent with
  | none => exact .none
  | some e =>
    have all : ∀ c ∈ Decimal.digits e.natAbs, c.isDigit = true := fun c => Decimal.isDigit_of_mem_digits
    have some := Decimal.digits_ne_nil e.natAbs
    have size : Decimal.ofDigits (Decimal.digits e.natAbs) = e.natAbs := Decimal.ofDigits_digits e.natAbs
    refine .some (Or.inl rfl) ?_
    by_cases negative : e < 0
    · have spelled : PowerSpells (-(Decimal.ofDigits (Decimal.digits e.natAbs) : Int)) _ rest :=
        .negative some all
      rw [size, show -(e.natAbs : Int) = e by omega] at spelled
      simpa [negative] using spelled
    · have spelled : PowerSpells (Decimal.ofDigits (Decimal.digits e.natAbs)) (['+'] ++ _) rest :=
        .positive (Or.inr rfl) some all
      rw [size, show (e.natAbs : Int) = e by omega] at spelled
      simpa [negative] using spelled

/-- What follows does not continue a number. -/
def NumberEnds (rest : List Char) : Prop :=
  ∀ c ∈ rest.head?, c.isDigit = false ∧ c ≠ '.' ∧ c ≠ 'e' ∧ c ≠ 'E'

theorem NumberEnds.endsBefore {rest : List Char} (ends : NumberEnds rest) (n : Numeral) : n.EndsBefore rest := by
  intro c first
  obtain ⟨digit, point, lower, upper⟩ := ends c first
  exact ⟨digit, fun _ => ⟨lower, upper, fun _ => point⟩⟩

/-- The characters of a numeral are a numeral as the grammar asks for. -/
theorem Numeral.chars_spells {n : Numeral} {rest : List Char} (proper : n.Proper) (ends : n.EndsBefore rest) :
    n.Spells (n.chars ++ rest) rest := by
  refine ⟨n.sizeChars ++ rest, ⟨proper, ends, _, exponentChars_spells n.exponent rest, ?_⟩, ?_⟩
  · simp [sizeChars]
  · simp [chars]

theorem digits_first {n : Nat} (more : List Char) (nonzero : n ≠ 0 ∨ more = []) :
    ∃ c rest, Decimal.digits n ++ more = c :: rest ∧ (c = '0' → rest = []) := by
  by_cases zero : n = 0
  · subst zero
    obtain rfl := nonzero.resolve_left (by simp)
    exact ⟨'0', [], rfl, fun _ => rfl⟩
  · have first := Decimal.head_digits_ne_zero zero
    obtain ⟨c, rest, split⟩ := List.exists_cons_of_ne_nil (Decimal.digits_ne_nil n)
    rw [split] at first ⊢
    exact ⟨c, rest ++ more, rfl, fun same => absurd (congrArg some same) first⟩

/-- The numeral that is written for an integer. -/
def wholeNumeral (n : Int) : Numeral := ⟨n < 0, Decimal.digits n.natAbs, none, none⟩

theorem wholeNumeral_proper (n : Int) : (wholeNumeral n).Proper where
  whole_digits _ := Decimal.isDigit_of_mem_digits
  whole_first := by
    have first := digits_first (n := n.natAbs) [] (Or.inr rfl)
    rwa [List.append_nil] at first
  fraction_digits _ fraction := by cases fraction

/-- An integer is written as its numeral. -/
theorem writeWhole_numeral (n : Int) : writeNumber (.whole n) = (wholeNumeral n).chars := by
  cases n with
  | ofNat n => simp [writeNumber, Decimal.integerText, wholeNumeral, Numeral.chars, Numeral.sizeChars]
  | negSucc n =>
    simp [writeNumber, Decimal.integerText, wholeNumeral, Numeral.chars, Numeral.sizeChars,
      Int.negSucc_lt_zero]

/-- Digits whose number fits in 64 bits are all read. -/
theorem fill64_eq {n : Nat} {cs : List Char} (fits : Decimal.ofDigitsFrom n cs ≤ Decimal.max64) :
    fill64 n cs = (Decimal.ofDigitsFrom n cs, []) := by
  induction cs generalizing n with
  | nil => rfl
  | cons c cs ih =>
    have next : n * 10 + (Decimal.digit? c).getD 0 ≤ Decimal.max64 :=
      (Decimal.le_ofDigitsFrom _ cs).trans fits
    simp only [fill64, if_pos next]
    exact ih fits

theorem fill64_digits {n : Nat} (fits : n ≤ 0xFFFFFFFFFFFFFFFF) :
    fill64 0 (Decimal.digits n) = (n, []) := by
  have same : Decimal.ofDigitsFrom 0 (Decimal.digits n) = n := Decimal.ofDigits_digits n
  rw [fill64_eq (same.le.trans fits), same]

/-- An integer of 64 bits is the value of what is written for it. -/
theorem wholeNumeral_value {n : Int} (range : Number.InRange (.whole n)) :
    (wholeNumeral n).value? = some (.whole n) := by
  obtain ⟨low, high⟩ := range
  have read := fill64_digits (n := n.natAbs) (by omega)
  have integer : (wholeNumeral n).integer? = some n := by
    simp only [Numeral.integer?, wholeNumeral, read]
    by_cases negative : n < 0
    · have size : n.natAbs ≠ 0 ∧ n.natAbs ≤ 0x8000000000000000 := ⟨by omega, by omega⟩
      simp only [negative, decide_true, Bool.not_true, Bool.false_eq_true, if_false, if_pos size]
      exact congrArg some (by omega)
    · simp only [negative, decide_false, Bool.not_false, if_true]
      exact congrArg some (by omega)
  rw [Numeral.value?, integer]

/-- A decimal that is not zero is laid out as a numeral. -/
theorem positionalText_numeral (negative : Bool) {d : Decimal.Dec} (nonzero : d.digits ≠ 0) :
    ∃ n : Numeral, n.Proper ∧ n.negative = negative ∧
      Decimal.positionalText numberLayout d = n.sizeChars := by
  have all : ∀ c ∈ Decimal.digits d.digits, c.isDigit = true := fun c => Decimal.isDigit_of_mem_digits
  have zeros (k : Nat) : ∀ c ∈ List.replicate k '0', c.isDigit = true := by
    intro c member
    rw [List.eq_of_mem_replicate member]
    rfl
  have long : (Decimal.digits d.digits).length ≠ 0 := by
    simpa using Decimal.digits_ne_nil d.digits
  obtain ⟨width, size⟩ : ∃ width, width = ((Decimal.digits d.digits).length : Int) + d.scale := ⟨_, rfl⟩
  unfold Decimal.positionalText
  simp only [← size]
  split
  · refine ⟨⟨negative, Decimal.digits d.digits ++ List.replicate d.scale.toNat '0', some ['0'], none⟩,
      ⟨?_, digits_first _ (Or.inl nonzero), ?_⟩, rfl, ?_⟩
    · intro c member
      rcases List.mem_append.mp member with digit | zero
      · exact all c digit
      · exact zeros _ c zero
    · rintro ds ⟨⟩
      exact ⟨by simp, by simp⟩
    · simp [Numeral.sizeChars, numberLayout]
  · split
    · rename_i fractional inside
      refine ⟨⟨negative, (Decimal.digits d.digits).take width.toNat,
        some ((Decimal.digits d.digits).drop width.toNat), none⟩,
        ⟨fun c member => all c (List.mem_of_mem_take member), ?_, ?_⟩, rfl, by simp [Numeral.sizeChars]⟩
      · have first := Decimal.head_digits_ne_zero nonzero
        obtain ⟨c, rest, split⟩ := List.exists_cons_of_ne_nil (Decimal.digits_ne_nil d.digits)
        obtain ⟨k, count⟩ : ∃ k, width.toNat = k + 1 := ⟨width.toNat - 1, by omega⟩
        rw [split] at first
        rw [split, count]
        exact ⟨c, rest.take k, rfl, fun same => absurd (congrArg some same) first⟩
      · rintro ds ⟨⟩
        refine ⟨?_, fun c member => all c (List.mem_of_mem_drop member)⟩
        rw [Ne, List.drop_eq_nil_iff]
        omega
    · refine ⟨⟨negative, ['0'], some (List.replicate (-width).toNat '0' ++ Decimal.digits d.digits), none⟩,
        ⟨by simp, ⟨'0', [], rfl, fun _ => rfl⟩, ?_⟩, rfl, by simp [Numeral.sizeChars]⟩
      rintro ds ⟨⟩
      refine ⟨by simp [Decimal.digits_ne_nil], fun c member => ?_⟩
      rcases List.mem_append.mp member with zero | digit
      · exact zeros _ c zero
      · exact all c digit

theorem exponentText_numeral (negative : Bool) (d : Decimal.Dec) :
    ∃ n : Numeral, n.Proper ∧ n.negative = negative ∧
      Decimal.exponentText numberLayout d = n.sizeChars := by
  have all : ∀ c ∈ Decimal.digits d.digits, c.isDigit = true := fun c => Decimal.isDigit_of_mem_digits
  obtain ⟨power, size⟩ : ∃ power, power = ((Decimal.digits d.digits).length : Int) + d.scale - 1 :=
    ⟨_, rfl⟩
  obtain ⟨c, rest, split⟩ := List.exists_cons_of_ne_nil (Decimal.digits_ne_nil d.digits)
  unfold Decimal.exponentText
  simp only [← size, numberLayout, if_true]
  rw [split] at all ⊢
  have digit : ∀ e ∈ [c], e.isDigit = true := by
    intro e member
    exact all e (List.mem_cons.mpr (Or.inl (List.mem_singleton.mp member)))
  have sign : (if power < 0 then ['-'] else ['+']) ++ Decimal.digits power.natAbs =
      (if power < 0 then '-' else '+') :: Decimal.digits power.natAbs := by
    split <;> rfl
  cases rest with
  | nil =>
    refine ⟨⟨negative, [c], none, some power⟩, ⟨digit, ⟨c, [], rfl, fun _ => rfl⟩, ?_⟩, rfl, ?_⟩
    · rintro ds ⟨⟩
    · simp only [Numeral.sizeChars, Option.elim_none, Option.elim_some, exponentChars, ← sign]
      rfl
  | cons c' rest =>
    refine ⟨⟨negative, [c], some (c' :: rest), some power⟩,
      ⟨digit, ⟨c, [], rfl, fun _ => rfl⟩, ?_⟩, rfl, ?_⟩
    · rintro ds ⟨⟩
      exact ⟨by simp, fun e member => all e (List.mem_cons_of_mem _ member)⟩
    · simp only [Numeral.sizeChars, Option.elim_some, exponentChars, ← sign]
      simp

theorem decimalText_numeral (negative : Bool) {d : Decimal.Dec} (nonzero : d.digits ≠ 0) :
    ∃ n : Numeral, n.Proper ∧ n.negative = negative ∧
      Decimal.decimalText numberLayout d = n.sizeChars := by
  unfold Decimal.decimalText
  by_cases near : -5 ≤ ((Decimal.digits d.digits).length : Int) + d.scale - 1 ∧
      ((Decimal.digits d.digits).length : Int) + d.scale - 1 < 16
  · have chosen := positionalText_numeral negative nonzero
    simpa only [numberLayout, if_pos near] using chosen
  · have chosen := exponentText_numeral negative d
    simpa only [numberLayout, if_neg near] using chosen

/-- A floating-point number that is neither infinite nor no number is written as a numeral. -/
theorem render_numeral {x : Float} {size : Decimal.Binary} (finite : Decimal.magnitude x = .finite size) :
    ∃ n : Numeral, n.Proper ∧ (Decimal.render numberLayout x).toList = n.chars := by
  unfold Decimal.render
  rw [finite]
  simp only
  split
  · refine ⟨⟨Decimal.isNegative x, ['0'], some ['0'], none⟩,
      ⟨by simp, ⟨'0', [], rfl, fun _ => rfl⟩, ?_⟩, ?_⟩
    · rintro ds ⟨⟩
      exact ⟨by simp, by simp⟩
    · simp [Numeral.chars, Numeral.sizeChars, numberLayout]
  · rename_i nonzero
    have digits := Decimal.Binary.shortest_ne_zero numberLayout.tie nonzero
    obtain ⟨n, proper, sign, text⟩ := decimalText_numeral (Decimal.isNegative x) digits
    refine ⟨n, proper, ?_⟩
    rw [text, Numeral.chars, sign]
    simp

end VehicleLink.Json
