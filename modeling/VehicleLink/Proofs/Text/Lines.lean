import VehicleLink.Proofs.Text.Cutting

namespace VehicleLink.Text

/-- Something that is written as lines: each of them with a feed behind it or with a return and a feed, but the last
one with nothing behind it where it is not empty. -/
inductive Lined {α : Type} (isFeed isReturn : α → Bool) : List α → List (List α) → Prop
  | nothing : Lined isFeed isReturn [] []
  | last {line} (some : line ≠ []) (whole : ∀ c ∈ line, isFeed c = false) : Lined isFeed isReturn line [line]
  | feed {line f rest lines} (whole : ∀ c ∈ line, isFeed c = false)
      (bare : ∀ c ∈ line.getLast?, isReturn c = false) (feeds : isFeed f = true)
      (behind : Lined isFeed isReturn rest lines) :
      Lined isFeed isReturn (line ++ f :: rest) (line :: lines)
  | returnFeed {line r f rest lines} (whole : ∀ c ∈ line ++ [r], isFeed c = false) (returns : isReturn r = true)
      (feeds : isFeed f = true) (behind : Lined isFeed isReturn rest lines) :
      Lined isFeed isReturn (line ++ r :: f :: rest) (line :: lines)

/-- Something that is empty or has a feed as its last member. -/
def Ended {α : Type} (isFeed : α → Bool) (cs : List α) : Prop := ∀ c ∈ cs.getLast?, isFeed c = true

instance {α : Type} (isFeed : α → Bool) (cs : List α) : Decidable (Ended isFeed cs) :=
  inferInstanceAs (Decidable (∀ c ∈ cs.getLast?, isFeed c = true))

variable {α : Type} {p isFeed isReturn : α → Bool} {cs front back line : List α} {lines : List (List α)}

/-- A text is split at its first divider, and then what is behind it. -/
theorem splitAll_append {c : α} (absent : ∀ d ∈ front, p d = false) (here : p c = true) :
    splitAll p (front ++ c :: back) = front :: splitAll p back := by
  induction front with
  | nil => simp [splitAll, here]
  | cons d front ih =>
    obtain ⟨first, later⟩ := List.forall_mem_cons.mp absent
    simp [splitAll, first, ih later]

/-- A text without dividers has one part. -/
theorem splitAll_of_absent (absent : ∀ c ∈ cs, p c = false) : splitAll p cs = [cs] := by
  induction cs with
  | nil => rfl
  | cons c cs ih =>
    obtain ⟨first, later⟩ := List.forall_mem_cons.mp absent
    simp [splitAll, first, ih later]

theorem splitAll_ne_nil (p : α → Bool) (cs : List α) : splitAll p cs ≠ [] := by
  cases cs with
  | nil => simp [splitAll]
  | cons c cs =>
    rw [splitAll]
    split
    · simp
    · split <;> simp

theorem splitAll_cons_here {c : α} (here : p c = true) (cs : List α) : splitAll p (c :: cs) = [] :: splitAll p cs := by
  rw [splitAll, if_pos here]

theorem splitAll_cons_other {c : α} (other : p c = false) (cs : List α) :
    ∃ part parts, splitAll p cs = part :: parts ∧ splitAll p (c :: cs) = (c :: part) :: parts := by
  obtain ⟨part, parts, whole⟩ := List.exists_cons_of_ne_nil (splitAll_ne_nil p cs)
  refine ⟨part, parts, whole, ?_⟩
  rw [splitAll, whole, if_neg (by simp [other])]

/-- A part has only characters of the text, and none that divides it. -/
theorem of_mem_splitAll {part : List α} (member : part ∈ splitAll p cs) : ∀ c ∈ part, c ∈ cs ∧ p c = false := by
  induction cs generalizing part with
  | nil => simp [List.mem_singleton.mp member]
  | cons c cs ih =>
    have later {part : List α} (inside : part ∈ splitAll p cs) : ∀ d ∈ part, d ∈ c :: cs ∧ p d = false :=
      fun d here => ⟨List.mem_cons_of_mem c (ih inside d here).1, (ih inside d here).2⟩
    cases here : p c with
    | true =>
      rw [splitAll_cons_here here] at member
      rcases List.mem_cons.mp member with rfl | inside
      · simp
      · exact later inside
    | false =>
      obtain ⟨first, others, whole, split⟩ := splitAll_cons_other here cs
      rw [split] at member
      rcases List.mem_cons.mp member with rfl | inside
      · exact List.forall_mem_cons.mpr ⟨⟨List.mem_cons_self, here⟩, later (whole ▸ List.mem_cons_self)⟩
      · exact later (whole ▸ List.mem_cons_of_mem first inside)

theorem dropReturn_bare (bare : ∀ c ∈ line.getLast?, isReturn c = false) : dropReturn isReturn line = line := by
  rcases List.eq_nil_or_concat line with rfl | ⟨front, c, rfl⟩
  · rfl
  · have kept : isReturn c = false := bare c (by simp)
    simp [dropReturn, kept]

theorem dropReturn_return {c : α} (returns : isReturn c = true) : dropReturn isReturn (line ++ [c]) = line := by
  simp [dropReturn, returns]

/-- Up to the first feed there is one line, without a return at its end. -/
theorem linesBy_feed {f : α} (whole : ∀ c ∈ line, isFeed c = false) (feeds : isFeed f = true) :
    linesBy isFeed isReturn (line ++ f :: back) =
      dropReturn isReturn line :: linesBy isFeed isReturn back := by
  obtain ⟨before, last, parts⟩ : ∃ before last, splitAll isFeed back = before ++ [last] :=
    ⟨_, _, (List.dropLast_concat_getLast (splitAll_ne_nil isFeed back)).symm⟩
  rw [linesBy, linesBy, splitAll_append whole feeds, parts]
  cases none : last.isEmpty <;> simp [none]

/-- What has no feed behind it is a line if there is something. -/
theorem linesBy_last (some : line ≠ []) (whole : ∀ c ∈ line, isFeed c = false) :
    linesBy isFeed isReturn line = [line] := by
  simp [linesBy, splitAll_of_absent whole, some]

/-- The lines as which something is written are found. -/
theorem Lined.linesBy_eq (lined : Lined isFeed isReturn cs lines) : linesBy isFeed isReturn cs = lines := by
  induction lined with
  | nothing => rfl
  | last some whole => exact linesBy_last some whole
  | feed whole bare feeds _ ih => rw [linesBy_feed whole feeds, dropReturn_bare bare, ih]
  | @returnFeed line r f rest lines whole returns feeds _ ih =>
    rw [List.append_cons, linesBy_feed whole feeds, dropReturn_return returns, ih]

theorem Lined.cons {f : α} (whole : ∀ c ∈ line, isFeed c = false) (feeds : isFeed f = true)
    (behind : Lined isFeed isReturn cs lines) :
    Lined isFeed isReturn (line ++ f :: cs) (dropReturn isReturn line :: lines) := by
  rcases List.eq_nil_or_concat line with rfl | ⟨front, r, rfl⟩
  · exact .feed whole (by simp) feeds behind
  · rw [List.concat_eq_append] at whole ⊢
    cases returns : isReturn r with
    | true =>
      rw [dropReturn_return returns, ← List.append_cons]
      exact .returnFeed whole returns feeds behind
    | false =>
      have bare : ∀ c ∈ (front ++ [r]).getLast?, isReturn c = false := by simpa using returns
      rw [dropReturn_bare bare]
      exact .feed whole bare feeds behind

theorem exists_lined (isFeed isReturn : α → Bool) (cs : List α) : ∃ lines, Lined isFeed isReturn cs lines := by
  induction long : cs.length using Nat.strong_induction_on generalizing cs with
  | h n ih =>
    cases cut : cutAt isFeed cs with
    | none =>
      by_cases some : cs = []
      · exact ⟨[], some ▸ .nothing⟩
      · exact ⟨[cs], .last some (cutAt_eq_none_iff.mp cut)⟩
    | some sides =>
      obtain ⟨line, rest⟩ := sides
      obtain ⟨f, rfl, feeds, whole⟩ := exists_of_cutAt cut
      obtain ⟨lines, behind⟩ := ih rest.length (by rw [← long]; simp; omega) rest rfl
      exact ⟨_, .cons whole feeds behind⟩

/-- Lines are found exactly where something is written as these lines. -/
theorem linesBy_eq_iff : linesBy isFeed isReturn cs = lines ↔ Lined isFeed isReturn cs lines := by
  constructor
  · rintro rfl
    obtain ⟨lines, lined⟩ := exists_lined isFeed isReturn cs
    rwa [lined.linesBy_eq]
  · exact Lined.linesBy_eq

theorem Lined.subset (lined : Lined isFeed isReturn cs lines) (member : line ∈ lines) : line ⊆ cs := by
  induction lined with
  | nothing => cases member
  | last => exact List.mem_singleton.mp member ▸ List.Subset.refl line
  | feed _ _ _ _ ih =>
    rcases List.mem_cons.mp member with rfl | later
    · exact List.subset_append_left ..
    · intro c inside
      exact List.mem_append_right _ (List.mem_cons_of_mem _ (ih later inside))
  | returnFeed _ _ _ _ ih =>
    rcases List.mem_cons.mp member with rfl | later
    · exact List.subset_append_left ..
    · intro c inside
      exact List.mem_append_right _ (List.mem_cons_of_mem _ (List.mem_cons_of_mem _ (ih later inside)))

/-- A line has no characters of its own. -/
theorem linesBy_subset (member : line ∈ linesBy isFeed isReturn cs) : line ⊆ cs :=
  (linesBy_eq_iff.mp rfl).subset member

theorem Ended.of_append (ended : Ended isFeed (front ++ back)) : Ended isFeed back := by
  intro c last
  refine ended c ?_
  rw [List.getLast?_append, Option.mem_def.mp last]
  rfl

theorem not_ended (some : line ≠ []) (whole : ∀ c ∈ line, isFeed c = false) : ¬Ended isFeed line := by
  intro ended
  have feeds := ended _ (List.getLast?_eq_some_getLast some)
  cases feeds.symm.trans (whole _ (List.getLast_mem some))

/-- Behind the end of a line everything begins anew. -/
theorem linesBy_append (ended : Ended isFeed front) (back : List α) :
    linesBy isFeed isReturn (front ++ back) = linesBy isFeed isReturn front ++ linesBy isFeed isReturn back := by
  -- Induction on how the front is written. A line that nothing ends can only stand at the end of all.
  obtain ⟨lines, lined⟩ := exists_lined isFeed isReturn front
  induction lined with
  | nothing => rfl
  | last some whole => exact absurd ended (not_ended some whole)
  | feed whole _ feeds _ ih =>
    rw [List.append_cons] at ended
    rw [List.append_assoc, List.cons_append, linesBy_feed whole feeds, linesBy_feed whole feeds,
      ih ended.of_append, List.cons_append]
  | @returnFeed line r f rest lines whole _ feeds _ ih =>
    rw [List.append_cons, List.append_cons] at ended
    rw [List.append_cons, List.append_assoc, List.cons_append, linesBy_feed whole feeds, linesBy_feed whole feeds,
      ih ended.of_append, List.cons_append]

/-- Nothing is lost when a text is cut. -/
theorem cutBehindLast_append (p : α → Bool) (cs : List α) :
    (cutBehindLast p cs).1 ++ (cutBehindLast p cs).2 = cs := by
  rw [cutBehindLast, ← List.reverse_append, List.takeWhile_append_dropWhile, List.reverse_reverse]

theorem cutBehindLast_ended (p : α → Bool) (cs : List α) : Ended p (cutBehindLast p cs).1 := by
  intro c last
  have stopped := List.head?_dropWhile_not (fun c => !p c) cs.reverse
  rw [cutBehindLast, List.getLast?_reverse, Option.mem_def] at last
  rw [last] at stopped
  simpa using stopped

end VehicleLink.Text
