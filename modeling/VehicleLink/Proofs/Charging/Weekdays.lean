import VehicleLink.Proofs.Charging.Locality

namespace VehicleLink

/-- The weekdays of a timer once a day has been selected or deselected. -/
def chooseDay (day : Weekday) (selected : Bool) (days : Option (List String)) : Option (List String) :=
  if selected then some (selectDay day (days.getD [])) else days.map (deselectDay day)

theorem Timer.setDay_eq (day : Weekday) (selected : Bool) (t : Timer) :
    t.setDay day selected = { t with weekdays := chooseDay day selected t.weekdays } := by
  cases selected <;> rfl

section Lists

variable {day other : Weekday} {days : List String}

theorem Weekday.not_named_name (differs : other ≠ day) : other.named day.name = false := by
  by_contra named
  exact differs (eq_of_named (by simpa using named) day.named_name)

/-- A day that is selected is not put in a second time. -/
theorem selectDay_of_any (present : days.any day.named = true) : selectDay day days = days := if_pos present

theorem selectDay_of_not_any (absent : days.any day.named = false) : selectDay day days = days ++ [day.name] :=
  if_neg (by simp [absent])

/-- Selecting a day twice is selecting it once. -/
theorem selectDay_selectDay : selectDay day (selectDay day days) = selectDay day days :=
  selectDay_of_any (by simp [any_selectDay])

/-- Deselecting a day twice is deselecting it once. -/
theorem deselectDay_deselectDay : deselectDay day (deselectDay day days) = deselectDay day days := by
  rw [deselectDay, deselectDay, List.filter_filter]
  simp

/-- To select a day leaves the texts that name other days, or none, as they are. -/
theorem deselectDay_selectDay : deselectDay day (selectDay day days) = deselectDay day days := by
  cases present : days.any day.named with
  | true => rw [selectDay_of_any present]
  | false => simp [selectDay_of_not_any present, deselectDay, day.named_name]

theorem not_named_of_mem_deselectDay {text : String} (member : text ∈ deselectDay day days) :
    day.named text = false := by
  simpa using (List.mem_filter.mp member).2

end Lists

theorem Plan.mapTimer_mapTimer {plan : Plan} {timer : TimerId} (f g : Timer → Timer) :
    (plan.mapTimer f timer).mapTimer g timer = plan.mapTimer (g ∘ f) timer := by
  cases plan <;> cases timer <;> simp [mapTimer]

theorem chooseDay_chooseDay (day : Weekday) (selected : Bool) (days : Option (List String)) :
    chooseDay day selected (chooseDay day selected days) = chooseDay day selected days := by
  cases selected with
  | true => exact congrArg some selectDay_selectDay
  | false =>
    cases days with
    | none => rfl
    | some days => exact congrArg some deselectDay_deselectDay

namespace ChargeProfile

variable {p : ChargeProfile} {timer : TimerId} {day : Weekday} {selected : Bool}

/-- The weekdays of a timer, as they are written. -/
def weekdays (p : ChargeProfile) (timer : TimerId) : List String :=
  ((p.plan.timer? timer).bind Timer.weekdays).getD []

theorem daySelected_eq (chosen : p.plan.hasWeekdays timer) :
    p.daySelected timer day = (p.weekdays timer).any day.named := by
  rw [daySelected, chosen, Bool.true_and, weekdays]

/-- An edit of a day selects or deselects it in the list of its timer. -/
theorem weekdays_edit (supported : p.plan.Supports (.day timer day selected)) :
    (p.edit (.day timer day selected)).weekdays timer =
      if selected then selectDay day (p.weekdays timer) else deselectDay day (p.weekdays timer) := by
  obtain ⟨weekly, numbered, present⟩ := supported
  obtain ⟨t, held⟩ := Option.isSome_iff_exists.mp present
  rw [edit_day (Plan.hasWeekdays_iff.mpr ⟨weekly, numbered⟩), weekdays, weekdays, mapPlan,
    Plan.timer?_mapTimer, if_pos rfl, held, Option.map_some, Option.bind_some, Option.bind_some, Timer.setDay_eq]
  cases selected with
  | true => rfl
  | false => cases t.weekdays <;> rfl

/-- The same edit of a day, made a second time, changes nothing. -/
theorem edit_day_twice (p : ChargeProfile) (timer : TimerId) (day : Weekday) (selected : Bool) :
    (p.edit (.day timer day selected)).edit (.day timer day selected) = p.edit (.day timer day selected) := by
  by_cases chosen : p.plan.hasWeekdays timer
  · have chosen' : (p.plan.mapTimer (Timer.setDay day selected) timer).hasWeekdays timer := by simpa using chosen
    have twice : Timer.setDay day selected ∘ Timer.setDay day selected = Timer.setDay day selected := by
      funext t
      simp only [Function.comp_apply, Timer.setDay_eq, chooseDay_chooseDay]
    rw [edit_day chosen, edit_day chosen', mapPlan, mapPlan, Plan.mapTimer_mapTimer, twice]
  · have same : p.edit (.day timer day selected) = p := if_neg chosen
    rw [same, same]

theorem daySelected_of_not_supports (unsupported : ¬p.plan.Supports (.day timer day selected)) :
    p.daySelected timer day = false := by
  by_cases chosen : p.plan.hasWeekdays timer
  · obtain ⟨weekly, numbered⟩ := Plan.hasWeekdays_iff.mp chosen
    have missing : p.plan.timer? timer = none :=
      Option.not_isSome_iff_eq_none.mp fun present => unsupported ⟨weekly, numbered, present⟩
    simp [daySelected, missing]
  · simp [daySelected, chosen]

/-- A day of a timer that is selected or deselected. Where the planner is a weekly one and has the timer as a
numbered one, the day is selected afterwards as it was asked for and every other day of every timer as before;
of the texts of the list only those that name the day come or go, at most one that was missing when it is
selected and all of them when it is deselected; and once more changes nothing. Elsewhere nothing changes, and
no day is selected. -/
theorem edit_weekdays (p : ChargeProfile) (timer : TimerId) (day : Weekday) (selected : Bool) :
    let q := p.edit (.day timer day selected)
    (p.plan.Supports (.day timer day selected) →
      q.daySelected timer day = selected ∧
      (∀ timer' day', (timer', day') ≠ (timer, day) → q.daySelected timer' day' = p.daySelected timer' day') ∧
      (q.weekdays timer).filter (fun text => !day.named text) =
        (p.weekdays timer).filter (fun text => !day.named text) ∧
      (selected = true →
        q.weekdays timer = p.weekdays timer ++ if p.daySelected timer day then [] else [day.name]) ∧
      (selected = false → ∀ text ∈ q.weekdays timer, day.named text = false) ∧
      q.edit (.day timer day selected) = q) ∧
    (¬p.plan.Supports (.day timer day selected) → q = p ∧ p.daySelected timer day = false) := by
  intro q
  refine ⟨fun supported => ?_, fun unsupported =>
    ⟨edit_unsupported unsupported, daySelected_of_not_supports unsupported⟩⟩
  have list : q.weekdays timer =
      if selected then selectDay day (p.weekdays timer) else deselectDay day (p.weekdays timer) :=
    weekdays_edit supported
  have chosen : p.plan.hasWeekdays timer := Plan.hasWeekdays_iff.mpr ⟨supported.1, supported.2.1⟩
  -- What is selected afterwards is what is known of edits in general; the list is a matter of its own.
  have own : q.daySelected timer day = selected := by
    have read := reading_edit supported trivial
    simpa [ChargeEdit.target, ChargeEdit.reading, reading] using read
  have others (timer' : TimerId) (day' : Weekday) (differs : (timer', day') ≠ (timer, day)) :
      q.daySelected timer' day' = p.daySelected timer' day' := by
    have other : ChargeTarget.day timer' day' ≠ .day timer day := by
      rintro ⟨⟩
      exact differs rfl
    have read := reading_edit_other (p := p) (e := .day timer day selected) other
    simpa [reading] using read
  refine ⟨own, others, ?_, fun select => ?_, fun deselect => ?_, edit_day_twice p timer day selected⟩
  · rw [list]
    cases selected with
    | true => exact deselectDay_selectDay
    | false => exact deselectDay_deselectDay
  · subst select
    rw [list, if_pos rfl, daySelected_eq chosen]
    cases present : (p.weekdays timer).any day.named with
    | true => simp [selectDay_of_any present]
    | false => simp [selectDay_of_not_any present]
  · subst deselect
    rw [list, if_neg (by decide)]
    exact fun text => not_named_of_mem_deselectDay

/-- Monday stands in the list twice, in two spellings, beside a text that names no day. -/
theorem edit_weekdays_sample :
    let p := ofPlan (.weekly { timer1 := some { weekdays := some ["Monday", "FUNDAY", "monday"] } }) []
    let q := p.edit (.day .timer1 .monday false)
    p.plan.Supports (.day .timer1 .monday false) ∧ p.daySelected .timer1 .monday = true ∧
      q.daySelected .timer1 .monday = false ∧ q.weekdays .timer1 = ["FUNDAY"] ∧
      q.edit (.day .timer1 .monday false) = q ∧ ¬p.plan.Supports (.day .override .monday true) ∧
      p.edit (.day .override .monday true) = p := by
  intro p q
  have supported : p.plan.Supports (.day .timer1 .monday false) := ⟨rfl, by decide, rfl⟩
  have unsupported : ¬p.plan.Supports (.day .override .monday true) := fun both => both.2.1 rfl
  obtain ⟨own, _, _, _, _, twice⟩ := (edit_weekdays p .timer1 .monday false).1 supported
  exact ⟨supported, by decide, own, by decide, twice, unsupported,
    ((edit_weekdays p .override .monday true).2 unsupported).1⟩

end ChargeProfile

end VehicleLink
