import VehicleLink.Proofs.Charging.TimeView

namespace VehicleLink

/-- A written time has a colon, and the number stands on the side of the part, perhaps between blanks. -/
def TimePart.StandsIn (part : TimePart) (text : Option String) (n : Nat) : Prop :=
  ∃ s sides, text = some s ∧ Text.cutAt (· == ':') s.toList = some sides ∧
    Decimal.readNat? Decimal.max32 (Text.trimChars (part.side sides)) = some n

theorem TimePart.standsIn_of_cut {part : TimePart} {n : Nat} {s : String} {sides : List Char × List Char}
    (cut : Text.cutAt (· == ':') s.toList = some sides) (read : part.read? (some s) = some n) :
    part.StandsIn (some s) n := by
  have same : timeSides (some s) = sides := by
    rw [timeSides, Option.bind_some, cut]
    rfl
  rw [TimePart.read?, same] at read
  exact ⟨s, sides, rfl, cut, read⟩

namespace ChargeProfile

variable {p : ChargeProfile} {f : TimeField} {n : Nat} {es : List ChargeEdit}

/-- A time that can be read as a whole has a colon, with both of its parts beside it. -/
theorem standsIn_of_times (known : p.plan.times f = some n) :
    f.part.StandsIn (p.plan.timeText? f.slot) n := by
  have part := read?_of_times known
  obtain ⟨time, read, _⟩ := Option.map_eq_some_iff.mp known
  obtain ⟨s, text, whole⟩ := Option.bind_eq_some_iff.mp read
  rw [text] at part ⊢
  cases cut : Text.cutAt (· == ':') s.toList with
  | none =>
    rw [readTime?, cut] at whole
    cases whole
  | some sides => exact TimePart.standsIn_of_cut cut part

/-- Whatever is noted of an hour or a minute stands in the written time. -/
theorem Followed.standsIn (now : p.Followed es f) (times : p.times = p.plan.times)
    (noted : (p.edits es).times f = some n) :
    f.part.StandsIn ((p.edits es).plan.timeText? f.slot) n := by
  have known : (lastSet es f).or (p.plan.times f) = some n := by
    rw [← times, ← now.noted, noted]
  have read : f.part.read? ((p.edits es).plan.timeText? f.slot) = some n := by
    rw [now.written]
    cases mine : lastSet es f with
    | some value =>
      rw [mine, Option.some_or] at known
      rw [Option.some_or, known]
    | none =>
      rw [mine, Option.none_or] at known
      rw [Option.none_or, read?_of_times known]
  -- Either part being set puts a colon between them. Where neither was, the time is the one that was read.
  by_cases touched : (lastSet es f).isSome ∨ (lastSet es f.counterpart).isSome
  · obtain ⟨s, sides, text, cut⟩ := now.divided touched
    rw [text] at read ⊢
    exact TimePart.standsIn_of_cut cut read
  · obtain ⟨mine, yours⟩ := not_or.mp touched
    have unset : lastSet es f = none := Option.not_isSome_iff_eq_none.mp mine
    have unset' : lastSet es f.counterpart = none := Option.not_isSome_iff_eq_none.mp yours
    rw [unset, Option.none_or] at known
    rw [now.untouched unset unset']
    exact standsIn_of_times known

theorem time_eq_natCast_iff : p.time f = (n : Int) ↔ n < 0x80000000 ∧ p.times f = some n := by
  unfold time time?
  cases noted : p.times f with
  | none => simp
  | some m =>
    by_cases small : m < 0x80000000
    · have shown : (some m).filter (· < 0x80000000) = some m := by simp [small]
      rw [shown]
      refine ⟨fun same => ?_, fun ⟨_, same⟩ => by rw [Option.some.inj same]⟩
      have equal : m = n := Int.ofNat.inj same
      exact ⟨equal ▸ small, congrArg some equal⟩
    · have hidden : (some m).filter (· < 0x80000000) = none := by simpa using small
      rw [hidden]
      refine ⟨fun same => ?_, fun ⟨bound, same⟩ => absurd (Option.some.inj same ▸ bound) small⟩
      have negative : (-1 : Int) = n := same
      omega

theorem exists_of_time_ne (shown : p.time f ≠ -1) : ∃ n : Nat, p.time f = n := by
  unfold time at shown ⊢
  cases known : p.time? f with
  | none =>
    rw [known] at shown
    exact absurd rfl shown
  | some n => exact ⟨n, rfl⟩

/-- An hour or a minute has what was set last, or else what was read, where the planner has a place for it. -/
theorem times_edits_iff (times : p.times = p.plan.times)
    (fits : ∀ g value, .time g value ∈ es → value ≤ Decimal.max32) :
    (p.edits es).times f = some n ↔
      p.plan.hasSlot f.slot = true ∧ (lastSet es f).or (p.plan.times f) = some n := by
  by_cases place : p.plan.hasSlot f.slot
  · have now : p.Followed es f := followed place fits
    rw [now.noted, times]
    exact (and_iff_right place).symm
  · have nothing : p.plan.times f = none := by
      rw [Plan.times, Plan.timeText?_of_not_hasSlot place]
      rfl
    have noted : (p.edits es).times f = none := by
      rw [(unplaced place es).2, times, nothing]
    rw [noted]
    exact iff_of_false (Option.some_ne_none n).symm fun both => place both.1

/-- The hours and minutes that are shown of a profile that has been read and edited. Each of them is the number of
32 bits that is read from the written time, on its side of the first colon and without the blanks around it. Those
that are shown are the ones that were set last, or else were read, and that an integer of 32 bits can hold. What is
sent is read back with the same written times. -/
theorem shown_times_written {s : String} {p : ChargeProfile} (read : ofText s = .ok p) {es : List ChargeEdit}
    (fits : ∀ f value, .time f value ∈ es → value ≤ Decimal.max32) :
    (∀ f, (p.edits es).time f ≠ -1 → ∃ text sides n,
      (p.edits es).plan.timeText? f.slot = some text ∧ Text.cutAt (· == ':') text.toList = some sides ∧
        Decimal.readNat? Decimal.max32 (Text.trimChars (f.part.side sides)) = some n ∧
        (p.edits es).time f = n) ∧
    (∀ f (n : Nat), (p.edits es).time f = n ↔ n < 0x80000000 ∧ p.plan.hasSlot f.slot = true ∧
      (lastSet es f).or (p.plan.times f) = some n) ∧
    ((∀ x, .real x ∈ p.toJson.parts → Number.ReadsBack (.real x)) → ∃ q, ofText (p.edits es).toText = .ok q ∧
      ∀ slot, q.plan.timeText? slot = (p.edits es).plan.timeText? slot) := by
  obtain ⟨_, _, fine, same, _⟩ := ofText_spec read
  have times : p.times = p.plan.times := congrArg ChargeProfile.times same
  refine ⟨fun f shown => ?_, fun f n => ?_, fun reals => ?_⟩
  · obtain ⟨n, number⟩ := exists_of_time_ne shown
    have noted := (time_eq_natCast_iff.mp number).2
    have place := ((times_edits_iff times fits).mp noted).1
    obtain ⟨text, sides, written, cut, part⟩ := (followed place fits).standsIn times noted
    exact ⟨text, sides, n, written, cut, part, number⟩
  · rw [time_eq_natCast_iff, times_edits_iff times fits]
  · have edited := (fine.readsBack reals).edits es
    exact ⟨_, edited.ofText_toText, fun slot => rfl⟩

/-- The minute that was read is still shown after the hour has been set, and stands behind the new hour. -/
theorem shown_times_written_sample :
    let es : List ChargeEdit := [.time ⟨.departure .timer1, .hour⟩ 6]
    let minute : TimeField := ⟨.departure .timer1, .minute⟩
    ofText sampleText = .ok sample ∧ (∀ f value, .time f value ∈ es → value ≤ Decimal.max32) ∧
      (sample.edits es).time minute = 30 ∧ ∃ text sides n,
        (sample.edits es).plan.timeText? minute.slot = some text ∧
        Text.cutAt (· == ':') text.toList = some sides ∧
        Decimal.readNat? Decimal.max32 (Text.trimChars (minute.part.side sides)) = some n ∧
        (sample.edits es).time minute = n := by
  intro es minute
  have fits : ∀ f value, .time f value ∈ es → value ≤ Decimal.max32 := by
    intro f value member
    cases List.mem_singleton.mp member
    decide
  have shown : (sample.edits es).time minute = 30 := by decide
  have written := (shown_times_written sample_read fits).1 minute (by rw [shown]; decide)
  exact ⟨sample_read, fits, shown, written⟩

end ChargeProfile

end VehicleLink
