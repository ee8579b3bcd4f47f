import Mathlib.Data.List.Infix
import VehicleLink.Text.Split

namespace VehicleLink.Text

section Words

variable {word front back : List Char} {c : Char}

theorem prefix_append_cons (outside : c ∉ word) : word <+: front ++ c :: back ↔ word <+: front := by
  induction front generalizing word with
  | nil =>
    cases word with
    | nil => simp
    | cons a word =>
      have differs : a ≠ c := fun same => outside (same ▸ List.mem_cons_self)
      simp [List.cons_prefix_cons, differs]
  | cons b front ih =>
    cases word with
    | nil => simp
    | cons a word =>
      have later : c ∉ word := fun member => outside (List.mem_cons_of_mem _ member)
      rw [List.cons_append, List.cons_prefix_cons, List.cons_prefix_cons, ih later]

/-- A word stands on one side of any character that it does not have. -/
theorem infix_append_cons (outside : c ∉ word) :
    word <:+: front ++ c :: back ↔ word <:+: front ∨ word <:+: back := by
  induction front with
  | nil =>
    rw [List.nil_append, List.infix_cons_iff, ← List.nil_append (c :: back), prefix_append_cons outside,
      List.prefix_nil, List.infix_nil]
  | cons a front ih =>
    have first : word <+: a :: front ++ c :: back ↔ word <+: a :: front := prefix_append_cons outside
    rw [List.cons_append, List.infix_cons_iff, ih, List.infix_cons_iff, ← List.cons_append, first, or_assoc]

end Words

variable {old new : List Char}

theorem replaceFrom_drop (skip : Nat) (cs : List Char) :
    replaceFrom old new skip cs = replaceFrom old new 0 (cs.drop skip) := by
  induction skip generalizing cs with
  | zero => rfl
  | succ skip ih =>
    cases cs with
    | nil => rfl
    | cons c cs => exact ih cs

theorem replaceChars_eq (some : old ≠ []) (cs : List Char) :
    replaceChars old new cs = replaceFrom old new 0 cs := by
  rw [replaceChars, if_neg (by simpa using some)]

theorem replaceChars_nil (some : old ≠ []) : replaceChars old new [] = [] := by
  rw [replaceChars_eq some, replaceFrom]

theorem replaceChars_found (some : old ≠ []) (rest : List Char) :
    replaceChars old new (old ++ rest) = new ++ replaceChars old new rest := by
  rw [replaceChars_eq some, replaceChars_eq some]
  cases old with
  | nil => exact absurd rfl some
  | cons a old =>
    have here : (a :: old).isPrefixOf (a :: (old ++ rest)) = true :=
      List.isPrefixOf_iff_prefix.mpr ⟨rest, rfl⟩
    rw [List.cons_append, replaceFrom, if_pos here, replaceFrom_drop]
    simp

theorem replaceChars_other (some : old ≠ []) {c : Char} {rest : List Char} (other : ¬old <+: c :: rest) :
    replaceChars old new (c :: rest) = c :: replaceChars old new rest := by
  rw [replaceChars_eq some, replaceChars_eq some, replaceFrom,
    if_neg fun here => other (List.isPrefixOf_iff_prefix.mp here)]

/-- Induction along the search for a word: it is found in front, or else the first character is passed. -/
theorem search_induction (some : old ≠ []) {motive : List Char → Prop} (nil : motive [])
    (found : ∀ rest, motive rest → motive (old ++ rest))
    (other : ∀ c rest, ¬old <+: c :: rest → motive rest → motive (c :: rest)) (cs : List Char) :
    motive cs := by
  match cs with
  | [] => exact nil
  | c :: rest =>
    by_cases here : old <+: c :: rest
    · obtain ⟨later, split⟩ := here
      have shorter : later.length < (c :: rest).length := by
        have positive := List.length_pos_iff.mpr some
        rw [← split, List.length_append]
        omega
      rw [← split]
      exact found later (search_induction some nil found other later)
    · exact other c rest here (search_induction some nil found other rest)
termination_by cs.length
decreasing_by
  · exact shorter
  · exact Nat.lt_succ_self _

/-- What stands in front of the first replacement stood there before. -/
theorem prefix_of_prefix_replaceChars (some : old ≠ []) (some' : new ≠ []) {word cs : List Char}
    (fresh : ∀ c ∈ word, c ∉ new) (before : word <+: replaceChars old new cs) : word <+: cs := by
  induction cs using search_induction some generalizing word with
  | nil => rwa [replaceChars_nil some] at before
  | found rest _ =>
    cases word with
    | nil => exact List.nil_prefix
    | cons a word =>
      obtain ⟨b, new, rfl⟩ := List.exists_cons_of_ne_nil some'
      rw [replaceChars_found some, List.cons_append, List.cons_prefix_cons] at before
      exact absurd (before.1 ▸ List.mem_cons_self) (fresh a List.mem_cons_self)
  | other c rest absent ih =>
    cases word with
    | nil => exact List.nil_prefix
    | cons a word =>
      rw [replaceChars_other some absent, List.cons_prefix_cons] at before
      refine List.cons_prefix_cons.mpr ⟨before.1, ih (fun d member => ?_) before.2⟩
      exact fresh d (List.mem_cons_of_mem _ member)

/-- A word that has been replaced by one without any of its characters does not occur any more. -/
theorem not_infix_replaceChars (some : old ≠ []) (some' : new ≠ []) (fresh : ∀ c ∈ old, c ∉ new)
    (cs : List Char) : ¬old <:+: replaceChars old new cs := by
  have outside (part : List Char) (inside : part <:+: new) (inOld : part <+: old) : part = [] := by
    cases part with
    | nil => rfl
    | cons a part =>
      exact absurd (inside.mem List.mem_cons_self) (fresh a (inOld.mem List.mem_cons_self))
  induction cs using search_induction some with
  | nil => simpa [replaceChars_nil some] using some
  | found rest ih =>
    rw [replaceChars_found some]
    intro occurs
    rcases List.infix_append_iff.mp occurs with inNew | later | ⟨part, left, split, inNew, begins⟩
    · exact some (outside old inNew List.prefix_rfl)
    · exact ih later
    · have nothing := outside part inNew.isInfix ⟨left, split.symm⟩
      rw [nothing, List.nil_append] at split
      exact ih (split ▸ begins.isInfix)
  | other c rest absent ih =>
    rw [replaceChars_other some absent]
    intro occurs
    rcases List.infix_cons_iff.mp occurs with first | later
    · rw [← replaceChars_other some absent] at first
      exact absent (prefix_of_prefix_replaceChars some some' fresh first)
    · exact ih later

/-- Where the word occurs, the new one does afterwards. -/
theorem infix_replaceChars (some : old ≠ []) {cs : List Char} (occurs : old <:+: cs) :
    new <:+: replaceChars old new cs := by
  induction cs using search_induction some with
  | nil => exact absurd (List.infix_nil.mp occurs) some
  | found rest _ =>
    rw [replaceChars_found some]
    exact (List.prefix_append _ _).isInfix
  | other c rest absent ih =>
    rw [replaceChars_other some absent]
    exact List.infix_cons (ih ((List.infix_cons_iff.mp occurs).resolve_left absent))

/-- A text without the word stays as it is. -/
theorem replaceChars_of_not_infix (some : old ≠ []) {cs : List Char} (absent : ¬old <:+: cs) :
    replaceChars old new cs = cs := by
  induction cs with
  | nil => exact replaceChars_nil some
  | cons c rest ih =>
    rw [List.infix_cons_iff, not_or] at absent
    rw [replaceChars_other some absent.1, ih absent.2]

/-- The word does not begin in a text without its first character. -/
theorem replaceChars_append_of_absent {a : Char} {word front back : List Char} (absent : a ∉ front) :
    replaceChars (a :: word) new (front ++ back) = front ++ replaceChars (a :: word) new back := by
  induction front with
  | nil => rfl
  | cons c front ih =>
    obtain ⟨differs, later⟩ := not_or.mp (List.mem_cons.not.mp absent)
    have other : ¬a :: word <+: c :: (front ++ back) := fun here => differs (List.cons_prefix_cons.mp here).1
    rw [List.cons_append, replaceChars_other (List.cons_ne_nil a word) other, ih later, List.cons_append]

/-- A character outside the word divides a text into parts in which the word is replaced one by one. -/
theorem replaceChars_append_cons (some : old ≠ []) {front back : List Char} {c : Char} (outside : c ∉ old) :
    replaceChars old new (front ++ c :: back) = replaceChars old new front ++ c :: replaceChars old new back := by
  induction front using search_induction some with
  | nil =>
    have absent : ¬old <+: c :: back := by
      rw [← List.nil_append (c :: back), prefix_append_cons outside, List.prefix_nil]
      exact some
    rw [List.nil_append, replaceChars_other some absent, replaceChars_nil some, List.nil_append]
  | found rest ih =>
    rw [List.append_assoc, replaceChars_found some, replaceChars_found some, ih, List.append_assoc]
  | other a rest absent ih =>
    have absent' : ¬old <+: (a :: rest) ++ c :: back := by rwa [prefix_append_cons outside]
    rw [List.cons_append] at absent'
    rw [List.cons_append, replaceChars_other some absent', replaceChars_other some absent, ih,
      List.cons_append]

end VehicleLink.Text
