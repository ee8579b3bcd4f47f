import Mathlib.Data.List.TakeWhile
import VehicleLink.Text.Blank
import VehicleLink.Text.Split

namespace VehicleLink.Text

section Cut

variable {α : Type} {p : α → Bool} {cs a b : List α}

/-- A text is cut at the first character of the class, which belongs to neither part. -/
theorem cutAt_append {c : α} (absent : ∀ d ∈ a, p d = false) (here : p c = true) :
    cutAt p (a ++ c :: b) = some (a, b) := by
  induction a with
  | nil => simp [cutAt, here]
  | cons d a ih =>
    obtain ⟨first, later⟩ := List.forall_mem_cons.mp absent
    simp [cutAt, first, ih later]

/-- Where a text has been cut there was a character of the class, and none before it. -/
theorem exists_of_cutAt (cut : cutAt p cs = some (a, b)) :
    ∃ c, cs = a ++ c :: b ∧ p c = true ∧ ∀ d ∈ a, p d = false := by
  induction cs generalizing a with
  | nil => cases cut
  | cons c cs ih =>
    rw [cutAt] at cut
    split at cut
    · rename_i here
      cases cut
      exact ⟨c, rfl, here, by simp⟩
    · rename_i other
      obtain ⟨⟨front, back⟩, inner, same⟩ := Option.map_eq_some_iff.mp cut
      cases same
      obtain ⟨d, whole, here, absent⟩ := ih inner
      exact ⟨d, by rw [whole, List.cons_append], here, List.forall_mem_cons.mpr ⟨by simpa using other, absent⟩⟩

/-- A text cannot be cut exactly if it has no character of the class. -/
theorem cutAt_eq_none_iff : cutAt p cs = none ↔ ∀ c ∈ cs, p c = false := by
  induction cs with
  | nil => simp [cutAt]
  | cons c cs ih =>
    rw [List.forall_mem_cons, ← ih]
    cases here : p c <;> simp [cutAt, here]

end Cut

/-- Behind a word there is what has to be added to it to get the text. -/
theorem after?_eq_some_iff {start cs rest : List Char} :
    after? start cs = some rest ↔ cs = start ++ rest := by
  induction start generalizing cs with
  | nil => simp [after?]
  | cons a start ih =>
    cases cs with
    | nil => simp [after?]
    | cons c cs =>
      rw [after?]
      by_cases same : a = c
      · simp [same, ih]
      · have differs : c ≠ a := Ne.symm same
        simp [same, differs]

section Blanks

variable {cs front back : List Char}

/-- A text has no blank at either end. -/
def Bare (cs : List Char) : Prop :=
  (∀ c rest, cs = c :: rest → isBlank c = false) ∧ ∀ front c, cs = front ++ [c] → isBlank c = false

theorem isBlank_of_isDigit {c : Char} (digit : c.isDigit = true) : isBlank c = false := by
  have range : 48 ≤ c.toNat ∧ c.toNat ≤ 57 := by
    simpa [Char.isDigit, UInt32.le_iff_toNat_le] using digit
  simp only [isBlank, Bool.or_eq_false_iff, Bool.and_eq_false_iff, decide_eq_false_iff_not, beq_eq_false_iff_ne]
  omega

/-- A text without any blank has none at its ends. -/
theorem bare_of_forall (visible : ∀ c ∈ cs, isBlank c = false) : Bare cs := by
  constructor
  · rintro c rest rfl
    exact visible c List.mem_cons_self
  · rintro front c rfl
    exact visible c (List.mem_append_right front (List.mem_singleton_self c))

/-- Only the ends count: what stands between two such texts may be blank. -/
theorem Bare.around {ds : List Char} (bare : Bare cs) (bare' : Bare ds) (nonempty : cs ≠ []) (nonempty' : ds ≠ [])
    (between : List Char) : Bare (cs ++ between ++ ds) := by
  obtain ⟨c, rest, rfl⟩ := List.exists_cons_of_ne_nil nonempty
  obtain ⟨front, d, rfl⟩ : ∃ front d, ds = front ++ [d] := ⟨_, _, (List.dropLast_concat_getLast nonempty').symm⟩
  constructor
  · intro x more begins
    have same : c = x := (List.cons.inj begins).1
    exact same ▸ bare.1 c rest rfl
  · intro start x ends
    rw [← List.append_assoc] at ends
    have same : [d] = [x] := (List.append_inj' ends rfl).2
    cases same
    exact bare'.2 front d rfl

theorem dropBlanks_pad (blanks : ∀ c ∈ front, isBlank c = true) : dropBlanks (front ++ cs) = dropBlanks cs :=
  List.dropWhile_append_of_pos blanks

theorem dropBlanks_blanks (blanks : ∀ c ∈ cs, isBlank c = true) : dropBlanks cs = [] :=
  List.dropWhile_eq_nil_iff.mpr blanks

theorem dropBlanks_cons {c : Char} (visible : isBlank c = false) (rest : List Char) :
    dropBlanks (c :: rest) = c :: rest :=
  List.dropWhile_cons_of_neg (by simp [visible])

theorem dropBlanks_first (first : ∀ c rest, cs = c :: rest → isBlank c = false) : dropBlanks cs = cs := by
  cases cs with
  | nil => rfl
  | cons c rest => exact dropBlanks_cons (first c rest rfl) rest

/-- Only blanks are taken away, and only in front. -/
theorem dropBlanks_split (cs : List Char) : ∃ front, cs = front ++ dropBlanks cs ∧ ∀ c ∈ front, isBlank c = true :=
  ⟨cs.takeWhile isBlank, List.takeWhile_append_dropWhile.symm, fun _ member => List.mem_takeWhile_imp member⟩

theorem isBlank_of_dropBlanks {c : Char} {rest : List Char} (begins : dropBlanks cs = c :: rest) :
    isBlank c = false := by
  have stopped : cs.dropWhile isBlank = c :: rest := begins
  have nonempty : cs.dropWhile isBlank ≠ [] := by simp [stopped]
  have head := List.head_dropWhile_not isBlank nonempty
  simpa only [stopped, List.head_cons] using head

/-- Trimming takes blanks away from both ends, and nothing else. -/
theorem trimChars_split (cs : List Char) : ∃ front back, cs = front ++ trimChars cs ++ back ∧
    (∀ c ∈ front, isBlank c = true) ∧ ∀ c ∈ back, isBlank c = true := by
  obtain ⟨front, whole, blanks⟩ := dropBlanks_split cs
  obtain ⟨back, reversed, blanks'⟩ := dropBlanks_split (dropBlanks cs).reverse
  have rest : dropBlanks cs = trimChars cs ++ back.reverse := by
    have again := congrArg List.reverse reversed
    rwa [List.reverse_reverse, List.reverse_append] at again
  refine ⟨front, back.reverse, ?_, blanks, fun c member => blanks' c (List.mem_reverse.mp member)⟩
  rw [List.append_assoc, ← rest]
  exact whole

theorem dropBlanks_subset (cs : List Char) : dropBlanks cs ⊆ cs := (List.dropWhile_sublist isBlank).subset

theorem dropBlanksEnd_subset (cs : List Char) : dropBlanksEnd cs ⊆ cs := fun _ member =>
  List.mem_reverse.mp (dropBlanks_subset _ (List.mem_reverse.mp member))

theorem trimChars_subset (cs : List Char) : trimChars cs ⊆ cs :=
  List.Subset.trans (dropBlanksEnd_subset _) (dropBlanks_subset cs)

/-- What is left after trimming has no blanks at its ends. -/
theorem trimChars_bare (cs : List Char) : Bare (trimChars cs) := by
  constructor
  · intro c rest begins
    -- What trimming leaves at the front is what dropping the blanks there left.
    obtain ⟨back, reversed, _⟩ := dropBlanks_split (dropBlanks cs).reverse
    have whole := congrArg List.reverse reversed
    rw [List.reverse_reverse, List.reverse_append] at whole
    have first : dropBlanks cs = c :: (rest ++ back.reverse) := by
      rw [whole]
      exact congrArg (· ++ back.reverse) begins
    exact isBlank_of_dropBlanks first
  · intro front c ends
    have reversed : dropBlanks (dropBlanks cs).reverse = c :: front.reverse := by
      have again := congrArg List.reverse ends
      rwa [trimChars, dropBlanksEnd, List.reverse_reverse, List.reverse_append] at again
    exact isBlank_of_dropBlanks reversed

/-- A text without blanks at its ends is what trimming leaves of it with blanks around it. -/
theorem trimChars_pad (bare : Bare cs) (blanks : ∀ c ∈ front, isBlank c = true)
    (blanks' : ∀ c ∈ back, isBlank c = true) : trimChars (front ++ cs ++ back) = cs := by
  obtain ⟨first, last⟩ := bare
  have reversed : ∀ c ∈ back.reverse, isBlank c = true := fun c member => blanks' c (List.mem_reverse.mp member)
  rw [trimChars, List.append_assoc, dropBlanks_pad blanks]
  cases cs with
  | nil =>
    rw [List.nil_append, dropBlanks_blanks blanks']
    rfl
  | cons c rest =>
    have kept : dropBlanks (c :: rest ++ back) = c :: rest ++ back := dropBlanks_cons (first c rest rfl) _
    have end_kept : dropBlanks (c :: rest).reverse = (c :: rest).reverse := by
      refine dropBlanks_first fun d more begins => last more.reverse d ?_
      rw [← List.reverse_reverse (c :: rest), begins, List.reverse_cons]
    rw [kept, dropBlanksEnd, List.reverse_append, dropBlanks_pad reversed, end_kept, List.reverse_reverse]

theorem dropBlanks_visible {c : Char} (visible : isBlank c = false) (front back : List Char) :
    dropBlanks (front ++ c :: back) = dropBlanks front ++ c :: back := by
  induction front with
  | nil => exact dropBlanks_cons visible back
  | cons d front ih =>
    cases blank : isBlank d with
    | true => simpa [dropBlanks, blank] using ih
    | false => simp [dropBlanks, blank]

theorem dropBlanksEnd_visible {c : Char} (visible : isBlank c = false) (front back : List Char) :
    dropBlanksEnd (front ++ c :: back) = front ++ c :: dropBlanksEnd back := by
  have reversed := dropBlanks_visible visible back.reverse front.reverse
  rw [dropBlanksEnd, List.reverse_append, List.reverse_cons, List.append_assoc, List.singleton_append, reversed,
    List.reverse_append, List.reverse_cons, List.reverse_reverse, List.append_assoc, List.singleton_append]
  rfl

/-- Trimming does not go beyond a character that is not blank. -/
theorem trimChars_visible {c : Char} (visible : isBlank c = false) (front back : List Char) :
    trimChars (front ++ c :: back) = dropBlanks front ++ c :: dropBlanksEnd back := by
  rw [trimChars, dropBlanks_visible visible, dropBlanksEnd_visible visible]

theorem trimChars_append_blanks (blanks : ∀ c ∈ back, isBlank c = true) (cs : List Char) :
    trimChars (cs ++ back) = trimChars cs := by
  obtain ⟨front, behind, whole, blanks', blanks''⟩ := trimChars_split cs
  have blank : ∀ c ∈ behind ++ back, isBlank c = true := by
    intro c member
    exact (List.mem_append.mp member).elim (blanks'' c) (blanks c)
  have padded : trimChars (front ++ trimChars cs ++ (behind ++ back)) = trimChars cs :=
    trimChars_pad (trimChars_bare cs) blanks' blank
  rwa [← List.append_assoc, ← whole] at padded

theorem trimChars_dropBlanksEnd (cs : List Char) : trimChars (dropBlanksEnd cs) = trimChars cs := by
  obtain ⟨back, reversed, blanks⟩ := dropBlanks_split cs.reverse
  have whole : cs = dropBlanksEnd cs ++ back.reverse := by
    have again := congrArg List.reverse reversed
    rwa [List.reverse_reverse, List.reverse_append] at again
  have same := trimChars_append_blanks (fun c member => blanks c (List.mem_reverse.mp member)) (dropBlanksEnd cs)
  rw [← whole] at same
  exact same.symm

/-- A text without blanks at its ends is left as it is. -/
theorem trimChars_of_bare (bare : Bare cs) : trimChars cs = cs := by
  have padded : trimChars ([] ++ cs ++ []) = cs := trimChars_pad bare (by simp) (by simp)
  rwa [List.nil_append, List.append_nil] at padded

theorem trimChars_ne_nil {c : Char} (member : c ∈ cs) (here : isBlank c = false) : trimChars cs ≠ [] := by
  intro none
  obtain ⟨front, back, whole, blanks, blanks'⟩ := trimChars_split cs
  rw [none, List.append_nil] at whole
  rw [whole] at member
  have blank : isBlank c = true := (List.mem_append.mp member).elim (blanks c) (blanks' c)
  cases here.symm.trans blank

end Blanks

end VehicleLink.Text
