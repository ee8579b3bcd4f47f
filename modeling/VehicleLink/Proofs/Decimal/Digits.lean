import Mathlib.Algebra.Group.Nat.Defs
import VehicleLink.Decimal.Digits

namespace VehicleLink.Decimal

theorem isDigit_of_mem_digits {n : Nat} {c : Char} (member : c ∈ digits n) : c.isDigit = true :=
  Nat.isDigit_of_mem_toDigits (by decide) (by decide) member

theorem digits_ne_nil (n : Nat) : digits n ≠ [] := Nat.toDigits_ne_nil

theorem digits_of_lt {n : Nat} (small : n < 10) : digits n = [n.digitChar] :=
  Nat.toDigits_of_lt_base small

theorem digits_of_le {n : Nat} (large : 10 ≤ n) : digits n = digits (n / 10) ++ [(n % 10).digitChar] :=
  Nat.toDigits_of_base_le (by decide) large

theorem digitChar_ne_zero : ∀ n, n < 10 → n ≠ 0 → n.digitChar ≠ '0' := by decide

/-- There is no zero in front of a number other than zero. -/
theorem head_digits_ne_zero {n : Nat} (positive : n ≠ 0) : (digits n).head? ≠ some '0' := by
  induction n using Nat.strongRecOn with
  | _ n ih =>
    by_cases small : n < 10
    · rw [digits_of_lt small]
      simpa using digitChar_ne_zero n small positive
    · have large : 10 ≤ n := Nat.not_lt.mp small
      have quotient : n / 10 ≠ 0 := by omega
      obtain ⟨c, rest, first⟩ := List.exists_cons_of_ne_nil (digits_ne_nil (n / 10))
      have later := ih (n / 10) (by omega) quotient
      rw [digits_of_le large, first]
      simpa [first] using later

/-- Digits continue a number as their places say. -/
theorem ofDigitsFrom_eq {n : Nat} {cs : List Char} (all : ∀ c ∈ cs, c.isDigit = true) :
    ofDigitsFrom n cs = Nat.ofDigitChars 10 cs n := by
  induction cs generalizing n with
  | nil => rfl
  | cons c cs ih =>
    have first : (digit? c).getD 0 = c.toNat - '0'.toNat := by
      simp [digit?, all c List.mem_cons_self]
    have rest := ih (n := n * 10 + (digit? c).getD 0) fun d member => all d (List.mem_cons_of_mem _ member)
    rw [Nat.ofDigitChars_cons, ← first, Nat.mul_comm 10 n, ← rest]
    rfl

/-- A text writes a number up to a limit: in digits, perhaps behind a plus sign. -/
def Writes (limit : Nat) (cs : List Char) (n : Nat) : Prop :=
  n ≤ limit ∧ ∃ ds, ds ≠ [] ∧ (∀ d ∈ ds, d.isDigit = true) ∧ (cs = ds ∨ cs = '+' :: ds) ∧ Nat.ofDigitChars 10 ds 0 = n

/-- Without a sign in front, a text writes a number by its digits alone. -/
theorem writes_digits {limit n : Nat} {ds : List Char} (first : ds.head? ≠ some '+') :
    Writes limit ds n ↔ n ≤ limit ∧ ds ≠ [] ∧ (∀ d ∈ ds, d.isDigit = true) ∧ Nat.ofDigitChars 10 ds 0 = n := by
  constructor
  · rintro ⟨fits, ds', some, all, rfl | rfl, value⟩
    · exact ⟨fits, some, all, value⟩
    · exact absurd rfl first
  · rintro ⟨fits, some, all, value⟩
    exact ⟨fits, ds, some, all, .inl rfl, value⟩

/-- A plus sign in front makes no difference. -/
theorem writes_plus {limit n : Nat} {ds : List Char} :
    Writes limit ('+' :: ds) n ↔ n ≤ limit ∧ ds ≠ [] ∧ (∀ d ∈ ds, d.isDigit = true) ∧ Nat.ofDigitChars 10 ds 0 = n := by
  constructor
  · rintro ⟨fits, ds', some, all, rfl | same, value⟩
    · cases all '+' List.mem_cons_self
    · cases same
      exact ⟨fits, some, all, value⟩
  · rintro ⟨fits, some, all, value⟩
    exact ⟨fits, ds, some, all, .inr rfl, value⟩

/-- Digits are read exactly if the number that they write is within the limit. -/
theorem readDigits_eq_some_iff {limit n : Nat} {ds : List Char} :
    (if ds.isEmpty || ds.any (!·.isDigit) then none
      else if ofDigits ds ≤ limit then some (ofDigits ds) else none) = some n ↔
      n ≤ limit ∧ ds ≠ [] ∧ (∀ d ∈ ds, d.isDigit = true) ∧ Nat.ofDigitChars 10 ds 0 = n := by
  have plain : (ds.isEmpty || ds.any (!·.isDigit)) = false ↔ ds ≠ [] ∧ ∀ d ∈ ds, d.isDigit = true := by simp
  by_cases digits : ds ≠ [] ∧ ∀ d ∈ ds, d.isDigit = true
  · have number : ofDigits ds = Nat.ofDigitChars 10 ds 0 := ofDigitsFrom_eq digits.2
    rw [plain.mpr digits, if_neg (by decide), number, Option.ite_none_right_eq_some]
    constructor
    · rintro ⟨fits, same⟩
      cases same
      exact ⟨fits, digits.1, digits.2, rfl⟩
    · rintro ⟨fits, _, _, rfl⟩
      exact ⟨fits, rfl⟩
  · have wrong : (ds.isEmpty || ds.any (!·.isDigit)) = true := by
      rw [← Bool.not_eq_false]
      exact fun none => digits (plain.mp none)
    rw [wrong, if_pos rfl]
    exact iff_of_false nofun fun ⟨_, nonempty, all, _⟩ => digits ⟨nonempty, all⟩

/-- A text is read as a number exactly if it writes it. -/
theorem readNat?_eq_some_iff {limit n : Nat} {cs : List Char} : readNat? limit cs = some n ↔ Writes limit cs n := by
  unfold readNat?
  split
  · exact readDigits_eq_some_iff.trans writes_plus.symm
  · rename_i other
    refine readDigits_eq_some_iff.trans (writes_digits ?_).symm
    cases cs with
    | nil => nofun
    | cons c rest =>
      intro plus
      cases plus
      exact other rest rfl

/-- The digits of a number read back to it. -/
theorem ofDigits_digits (n : Nat) : ofDigits (digits n) = n := by
  rw [ofDigits, ofDigitsFrom_eq fun c => isDigit_of_mem_digits]
  exact Nat.ofDigitChars_ten_toDigits

theorem le_ofDigitsFrom (n : Nat) (cs : List Char) : n ≤ ofDigitsFrom n cs := by
  induction cs generalizing n with
  | nil => exact Nat.le_refl n
  | cons c cs ih =>
    have later := ih (n * 10 + (digit? c).getD 0)
    simp only [ofDigitsFrom, List.foldl_cons] at later ⊢
    omega

theorem isDigit_of_mem_padded {width n : Nat} {c : Char} (member : c ∈ padded width n) :
    c.isDigit = true := by
  rcases List.mem_append.mp member with zero | digit
  · rw [List.eq_of_mem_replicate zero]
    rfl
  · exact isDigit_of_mem_digits digit

theorem padded_ne_nil (width n : Nat) : padded width n ≠ [] := by
  simp [padded, digits_ne_nil]

theorem padded_eq_cons (width n : Nat) : ∃ c ds, padded width n = c :: ds ∧ c.isDigit = true := by
  obtain ⟨c, ds, shape⟩ := List.exists_cons_of_ne_nil (padded_ne_nil width n)
  exact ⟨c, ds, shape, isDigit_of_mem_padded (shape ▸ List.mem_cons_self)⟩

/-- Zeros in front do not change the number. -/
theorem ofDigits_padded (width n : Nat) : ofDigits (padded width n) = n := by
  have zeros (k : Nat) : ofDigitsFrom 0 (List.replicate k '0') = 0 := by
    induction k with
    | zero => rfl
    | succ k ih => simpa [List.replicate_succ, ofDigitsFrom, digit?] using ih
  calc ofDigits (padded width n)
      = ofDigitsFrom (ofDigitsFrom 0 (List.replicate (width - (digits n).length) '0')) (digits n) :=
        List.foldl_append
    _ = ofDigits (digits n) := by rw [zeros]; rfl
    _ = n := ofDigits_digits n

/-- A number that fits has exactly the width. -/
theorem length_padded {width n : Nat} (positive : 0 < width) (small : n < 10 ^ width) :
    (padded width n).length = width := by
  have short : (digits n).length ≤ width := (Nat.length_toDigits_le_iff (by decide) positive).mpr small
  rw [padded, List.length_append, List.length_replicate]
  omega

/-- Digits are read up to the width, or up to what is no digit. -/
theorem takeDigits_append {most : Nat} {ds rest : List Char} (all : ∀ c ∈ ds, c.isDigit = true)
    (short : ds.length ≤ most) (ends : ds.length = most ∨ ∀ c ∈ rest.head?, c.isDigit = false) :
    takeDigits most (ds ++ rest) = (ds, rest) := by
  have nothing : (rest.take (most - ds.length)).takeWhile Char.isDigit = [] := by
    rcases ends with full | stops
    · rw [full, Nat.sub_self, List.take_zero, List.takeWhile_nil]
    · cases rest with
      | nil => rw [List.take_nil, List.takeWhile_nil]
      | cons c rest =>
        cases most - ds.length with
        | zero => rfl
        | succ k => simp [stops c rfl]
  have taken : ((ds ++ rest).take most).takeWhile Char.isDigit = ds := by
    rw [List.take_append, List.take_of_length_le short, List.takeWhile_append_of_pos all, nothing, List.append_nil]
  simp [takeDigits, taken]

section Order

variable {width m n : Nat} {c d : Char} {cs ds : List Char}

theorem digit?_eq (digit : c.isDigit = true) : (digit? c).getD 0 + 48 = c.toNat ∧ c.toNat ≤ 57 := by
  obtain ⟨lower, upper⟩ := Char.isDigit_iff_toNat.mp digit
  have zero : '0'.toNat = 48 := rfl
  have nine : '9'.toNat = 57 := rfl
  have value : (digit? c).getD 0 = c.toNat - 48 := by simp [digit?, digit]
  omega

theorem ofDigitsFrom_cons (n : Nat) (c : Char) (cs : List Char) :
    ofDigitsFrom n (c :: cs) = ofDigitsFrom (n * 10 + (digit? c).getD 0) cs := rfl

/-- What the digits before have given decides, whatever comes behind them. -/
theorem ofDigitsFrom_lt (less : m < n) (same : cs.length = ds.length) (all : ∀ c ∈ cs, c.isDigit = true) :
    ofDigitsFrom m cs < ofDigitsFrom n ds := by
  induction cs generalizing m n ds with
  | nil =>
    have empty : ds = [] := List.length_eq_zero_iff.mp same.symm
    rwa [empty]
  | cons c cs ih =>
    obtain ⟨d, ds, rfl⟩ := List.exists_cons_of_length_eq_add_one same.symm
    obtain ⟨first, later⟩ := List.forall_mem_cons.mp all
    have value := digit?_eq first
    have less' : m * 10 + (digit? c).getD 0 < n * 10 + (digit? d).getD 0 := by omega
    rw [ofDigitsFrom_cons, ofDigitsFrom_cons]
    exact ih less' (Nat.succ.inj same) later

theorem lt_of_ofDigitsFrom_lt (same : cs.length = ds.length) (all : ∀ c ∈ cs, c.isDigit = true)
    (all' : ∀ d ∈ ds, d.isDigit = true) (less : ofDigitsFrom n cs < ofDigitsFrom n ds) : cs < ds := by
  induction cs generalizing n ds with
  | nil =>
    have empty : ds = [] := List.length_eq_zero_iff.mp same.symm
    rw [empty] at less
    exact absurd less (Nat.lt_irrefl _)
  | cons c cs ih =>
    obtain ⟨d, ds, rfl⟩ := List.exists_cons_of_length_eq_add_one same.symm
    obtain ⟨first, later⟩ := List.forall_mem_cons.mp all
    obtain ⟨first', later'⟩ := List.forall_mem_cons.mp all'
    have same' : cs.length = ds.length := Nat.succ.inj same
    have value := digit?_eq first
    have value' := digit?_eq first'
    rw [ofDigitsFrom_cons, ofDigitsFrom_cons] at less
    rw [List.cons_lt_cons_iff]
    rcases Nat.lt_trichotomy c.toNat d.toNat with before | equal | behind
    · exact .inl before
    · have head : c = d := Char.toNat_inj.mp equal
      rw [head] at less
      exact .inr ⟨head, ih same' later later' less⟩
    · have greater : n * 10 + (digit? d).getD 0 < n * 10 + (digit? c).getD 0 := by omega
      exact absurd less (Nat.lt_asymm (ofDigitsFrom_lt greater same'.symm later'))

/-- Numbers of one width stand in the order of their digits. -/
theorem padded_lt (positive : 0 < width) (less : m < n) (small : n < 10 ^ width) :
    padded width m < padded width n := by
  have length : (padded width m).length = width := length_padded positive (Nat.lt_trans less small)
  have length' : (padded width n).length = width := length_padded positive small
  have number : ofDigitsFrom 0 (padded width m) = m := ofDigits_padded width m
  have number' : ofDigitsFrom 0 (padded width n) = n := ofDigits_padded width n
  have less' : ofDigitsFrom 0 (padded width m) < ofDigitsFrom 0 (padded width n) := by rwa [number, number']
  exact lt_of_ofDigitsFrom_lt (Eq.trans length length'.symm) (fun c => isDigit_of_mem_padded)
    (fun c => isDigit_of_mem_padded) less'

end Order

end VehicleLink.Decimal
