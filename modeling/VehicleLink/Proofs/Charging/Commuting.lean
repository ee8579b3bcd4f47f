import VehicleLink.Proofs.Charging.Weekdays

namespace VehicleLink

/-- A change of every setting of a planner by itself. -/
@[ext]
structure PlanChange where
  time : TimeSlot → Option String → Option String
  enabled : TimerId → Option Bool → Option Bool
  weekdays : TimerId → Option (List String) → Option (List String)
  climate : Option Bool → Option Bool
  mode : Option String → Option String
  preference : Option String → Option String

namespace PlanChange

def none : PlanChange := ⟨fun _ => id, fun _ => id, fun _ => id, id, id, id⟩

/-- One change after another. -/
def after (d c : PlanChange) : PlanChange where
  time slot := d.time slot ∘ c.time slot
  enabled timer := d.enabled timer ∘ c.enabled timer
  weekdays timer := d.weekdays timer ∘ c.weekdays timer
  climate := d.climate ∘ c.climate
  mode := d.mode ∘ c.mode
  preference := d.preference ∘ c.preference

/-- What a change is for timers that do not know days of the week. -/
def exceptWeekdays (c : PlanChange) : PlanChange := { c with weekdays := fun _ => id }

end PlanChange

def Timer.change (c : PlanChange) (timer : TimerId) (t : Timer) : Timer :=
  { t with
    departureTime := c.time (.departure timer) t.departureTime
    enabled := c.enabled timer t.enabled
    weekdays := c.weekdays timer t.weekdays }

def ChargingWindow.change (c : PlanChange) (w : ChargingWindow) : ChargingWindow :=
  { w with startTime := c.time .windowStart w.startTime, endTime := c.time .windowEnd w.endTime }

namespace Plan

/-- The planner with its settings changed, where it has them. -/
def change (c : PlanChange) : Plan → Plan
  | .weekly p => .weekly {
      climateEnabled := c.climate p.climateEnabled
      chargingMode := c.mode p.chargingMode
      chargingPreference := c.preference p.chargingPreference
      timer1 := p.timer1.map (Timer.change c .timer1)
      timer2 := p.timer2.map (Timer.change c .timer2)
      timer3 := p.timer3.map (Timer.change c .timer3)
      overrideTimer := p.overrideTimer.map (Timer.change c .override)
      window := p.window.map (ChargingWindow.change c)
      extra := p.extra }
  | .twoTimes p => .twoTimes {
      timer1 := p.timer1.map (Timer.change c.exceptWeekdays .timer1)
      timer2 := p.timer2.map (Timer.change c.exceptWeekdays .timer2)
      window := p.window.map (ChargingWindow.change c)
      extra := p.extra }
  | .empty => .empty

variable {plan : Plan} {c d : PlanChange}

/-- Two changes are one change, setting by setting. -/
theorem change_change : (plan.change c).change d = plan.change (d.after c) := by
  cases plan <;> simp only [change, Option.map_map] <;> rfl

@[simp] theorem hasSlot_change (slot : TimeSlot) : (plan.change c).hasSlot slot = plan.hasSlot slot := by
  cases plan with
  | weekly p | twoTimes p =>
    cases slot with
    | windowStart | windowEnd => simp [change, hasSlot, window?]
    | departure timer => cases timer <;> simp [change, hasSlot, timer?]
  | empty => rfl

/-- Mapping one timer is a change of that timer alone. -/
theorem mapTimer_eq_change {f : Timer → Timer} {timer : TimerId} (here : Timer.change c timer = f)
    (others : ∀ other, other ≠ timer → Timer.change c other = id)
    (weekdays : plan.weekly? = none → c.exceptWeekdays = c) (window : ChargingWindow.change c = id)
    (settings : c.climate = id ∧ c.mode = id ∧ c.preference = id) : plan.mapTimer f timer = plan.change c := by
  obtain ⟨climate, mode, preference⟩ := settings
  have timers (other : TimerId) (t : Option Timer) :
      t.map (Timer.change c other) = if other = timer then t.map f else t := by
    by_cases same : other = timer
    · rw [if_pos same, same, here]
    · rw [if_neg same, others other same, Option.map_id, id]
  cases plan with
  | weekly p => cases timer <;> simp [mapTimer, change, timers, window, climate, mode, preference]
  | twoTimes p => cases timer <;> simp [mapTimer, change, timers, window, weekdays rfl]
  | empty => cases timer <;> rfl

theorem mapWindow_eq_change {f : ChargingWindow → ChargingWindow} (here : ChargingWindow.change c = f)
    (timers : ∀ timer, Timer.change c timer = id) (weekdays : c.exceptWeekdays = c)
    (settings : c.climate = id ∧ c.mode = id ∧ c.preference = id) : plan.mapWindow f = plan.change c := by
  obtain ⟨climate, mode, preference⟩ := settings
  cases plan with
  | weekly p => simp [mapWindow, change, here, timers, climate, mode, preference]
  | twoTimes p => simp [mapWindow, change, here, timers, weekdays]
  | empty => rfl

theorem mapWeekly_eq_change {f : WeeklyPlanner → WeeklyPlanner}
    (here : ∀ p, f p = { p with
      climateEnabled := c.climate p.climateEnabled
      chargingMode := c.mode p.chargingMode
      chargingPreference := c.preference p.chargingPreference })
    (timers : ∀ timer, Timer.change c timer = id) (weekdays : c.exceptWeekdays = c)
    (window : ChargingWindow.change c = id) : plan.mapWeekly f = plan.change c := by
  cases plan with
  | weekly p => simp [mapWeekly, change, here, timers, window]
  | twoTimes p => simp [mapWeekly, change, timers, weekdays, window]
  | empty => rfl

theorem mapWindow_of_none (missing : plan.window? = none) (f : ChargingWindow → ChargingWindow) :
    plan.mapWindow f = plan := by
  cases plan with
  | weekly p | twoTimes p =>
    dsimp only [window?] at missing
    rw [mapWindow, missing, Option.map_none, ← missing]
  | empty => rfl

theorem change_none (plan : Plan) : plan.change .none = plan := by
  have settings : plan.mapWeekly id = plan := by cases plan <;> rfl
  rw [← mapWeekly_eq_change (f := id) (fun _ => rfl) (fun _ => rfl) rfl rfl, settings]

end Plan

/-- What an edit changes. -/
def ChargeEdit.change : ChargeEdit → PlanChange
  | .time f value => { PlanChange.none with
      time := fun slot text => if slot = f.slot then some (spliceTime f.part value text) else text }
  | .enabled timer on => { PlanChange.none with
      enabled := fun other before => if other = timer then some on else before }
  | .day timer weekday selected => { PlanChange.none with
      weekdays := fun other days =>
        if other = timer ∧ timer ≠ .override then chooseDay weekday selected days else days }
  | .climate on => { PlanChange.none with climate := fun _ => some on }
  | .mode text => { PlanChange.none with mode := fun _ => some text }
  | .preference text => { PlanChange.none with preference := fun _ => some text }

namespace Plan

variable {plan : Plan}

theorem mapTimer_congr {f g : Timer → Timer} {timer : TimerId}
    (same : ∀ t, plan.timer? timer = some t → f t = g t) : plan.mapTimer f timer = plan.mapTimer g timer := by
  have inner : (plan.timer? timer).map f = (plan.timer? timer).map g := Option.map_congr same
  cases plan with
  | weekly p =>
    cases timer <;>
    · dsimp only [timer?] at inner
      rw [mapTimer, mapTimer, inner]
  | twoTimes p =>
    cases timer with
    | timer1 | timer2 =>
      dsimp only [timer?] at inner
      rw [mapTimer, mapTimer, inner]
    | timer3 | override => rfl
  | empty => cases timer <;> rfl

theorem mapTimer_id (plan : Plan) (timer : TimerId) : plan.mapTimer id timer = plan := by
  cases plan <;> cases timer <;> simp [mapTimer]

/-- Splicing a written time is a change of its slot. -/
theorem mapTimeText_eq_change (f : TimeField) (value : Nat) :
    plan.mapTimeText (spliceTime f.part value) f.slot = plan.change (ChargeEdit.time f value).change := by
  obtain ⟨slot, part⟩ := f
  cases slot with
  | windowStart | windowEnd => exact mapWindow_eq_change rfl (fun _ => rfl) rfl ⟨rfl, rfl, rfl⟩
  | departure timer =>
    refine mapTimer_eq_change ?_ (fun other differs => ?_) (fun _ => rfl) rfl ⟨rfl, rfl, rfl⟩
    · funext t
      simp [Timer.change, ChargeEdit.change, PlanChange.none]
    · funext t
      simp [Timer.change, ChargeEdit.change, PlanChange.none, differs]

theorem mapTimeText_of_not_hasSlot {slot : TimeSlot} (missing : ¬plan.hasSlot slot)
    (f : Option String → String) : plan.mapTimeText f slot = plan := by
  cases slot with
  | windowStart | windowEnd => exact mapWindow_of_none (by simpa [hasSlot] using missing) _
  | departure timer => exact mapTimer_of_none (by simpa [hasSlot] using missing) _

end Plan

namespace ChargeProfile

variable {p : ChargeProfile} {e e' : ChargeEdit}

/-- What an edit does to the planner is its change. -/
theorem edit_plan (p : ChargeProfile) (e : ChargeEdit) : (p.edit e).plan = p.plan.change e.change := by
  cases e with
  | time f value =>
    rw [← Plan.mapTimeText_eq_change]
    by_cases place : p.plan.hasSlot f.slot
    · rw [edit_time place]
    · rw [edit_unsupported (mt Plan.supports_time.mp place), Plan.mapTimeText_of_not_hasSlot place]
  | enabled timer on =>
    refine Plan.mapTimer_eq_change ?_ (fun other differs => ?_) (fun _ => rfl) rfl ⟨rfl, rfl, rfl⟩
    · funext t
      simp [Timer.change, ChargeEdit.change, PlanChange.none]
    · funext t
      simp [Timer.change, ChargeEdit.change, PlanChange.none, differs]
  | day timer weekday selected =>
    by_cases weekdays : p.plan.hasWeekdays timer
    · obtain ⟨weekly, numbered⟩ := Plan.hasWeekdays_iff.mp weekdays
      rw [edit_day weekdays]
      refine Plan.mapTimer_eq_change ?_ (fun other differs => ?_) (fun none => ?_) rfl ⟨rfl, rfl, rfl⟩
      · funext t
        simp [Timer.change, ChargeEdit.change, PlanChange.none, Timer.setDay_eq, numbered]
      · funext t
        simp [Timer.change, ChargeEdit.change, PlanChange.none, differs]
      · simp [none] at weekly
    · have nothing : p.plan.change (ChargeEdit.day timer weekday selected).change = p.plan.change .none := by
        cases plan : p.plan with
        | weekly planner =>
          have override : timer = .override := by simpa [plan, Plan.hasWeekdays] using weekdays
          subst override
          simp only [ChargeEdit.change, ne_eq, not_true, and_false, if_false]
          rfl
        | twoTimes planner | empty => rfl
      rw [nothing, Plan.change_none, edit, setDay, if_neg weekdays]
  | climate on | mode text | preference text =>
    exact Plan.mapWeekly_eq_change (fun _ => rfl) (fun _ => rfl) rfl rfl

/-- An edit takes a note of the hour or the minute that it sets, where the planner has the slot. -/
theorem edit_times (p : ChargeProfile) (e : ChargeEdit) : (p.edit e).times = fun f =>
    if p.plan.hasSlot f.slot then (e.sets f).or (p.times f) else p.times f := by
  funext f
  rcases edit_cases p e with ⟨g, value, rfl, place, -, times⟩ | ⟨-, times, unset⟩
  · rw [times, ChargeEdit.sets]
    by_cases same : f = g
    · subst same
      simp [place]
    · simp [same, Ne.symm same]
  · rw [times]
    split
    · rw [unset f ‹_›, Option.none_or]
    · rfl

/-- An edit changes every setting by itself, where the planner has it, and takes a note of an hour or a
minute. -/
theorem edit_eq (p : ChargeProfile) (e : ChargeEdit) : p.edit e = {
    plan := p.plan.change e.change
    extra := p.extra
    times := fun f => if p.plan.hasSlot f.slot then (e.sets f).or (p.times f) else p.times f } := by
  rw [← edit_plan, ← edit_times, ← (edit_sameFrame p e).2]

end ChargeProfile

section Times

/-- An edit of a time replaces one of its two sides. -/
theorem spliceTime_eq (part : TimePart) (value : Nat) (text : Option String) :
    spliceTime part value text = String.ofList (match part with
      | .hour => Decimal.padded 2 value ++ ':' :: (timeSides text).2
      | .minute => (timeSides text).1 ++ ':' :: Decimal.padded 2 value) := rfl

/-- Of two values for one side of a time the last one is written. -/
theorem spliceTime_spliceTime (part : TimePart) (value last : Nat) (text : Option String) :
    spliceTime part last (some (spliceTime part value text)) = spliceTime part last text := by
  rw [spliceTime_eq, timeSides_spliceTime, spliceTime_eq]
  cases part <;> rfl

/-- The two sides of a time can be written in either order. -/
theorem spliceTime_comm {part other : TimePart} (differs : part ≠ other) (value value' : Nat)
    (text : Option String) : spliceTime other value' (some (spliceTime part value text)) =
      spliceTime part value (some (spliceTime other value' text)) := by
  rw [spliceTime_eq other, timeSides_spliceTime, spliceTime_eq part, timeSides_spliceTime]
  cases part <;> cases other <;> first | rfl | exact absurd rfl differs

end Times

section Days

variable {day other : Weekday} {days : List String}

theorem deselectDay_comm : deselectDay other (deselectDay day days) = deselectDay day (deselectDay other days) := by
  simp only [deselectDay, List.filter_filter, Bool.and_comm]

theorem deselectDay_selectDay_comm (differs : other ≠ day) :
    deselectDay other (selectDay day days) = selectDay day (deselectDay other days) := by
  have kept : (deselectDay other days).any day.named = days.any day.named := by
    simp [any_deselectDay, Ne.symm differs]
  cases present : days.any day.named with
  | true => rw [selectDay_of_any present, selectDay_of_any (kept.trans present)]
  | false =>
    rw [selectDay_of_not_any present, selectDay_of_not_any (kept.trans present), deselectDay, deselectDay,
      List.filter_append]
    simp [Weekday.not_named_name differs]

/-- Two days that are selected stand in the list in the order in which they were. -/
theorem selectDay_selectDay_perm (days : List String) :
    (selectDay other (selectDay day days)).Perm (selectDay day (selectDay other days)) := by
  by_cases same : other = day
  · rw [same]
  · have kept : (selectDay day days).any other.named = days.any other.named := by simp [any_selectDay, same]
    have kept' : (selectDay other days).any day.named = days.any day.named := by
      simp [any_selectDay, Ne.symm same]
    cases here : days.any day.named with
    | true => rw [selectDay_of_any here, selectDay_of_any (kept'.trans here)]
    | false =>
      cases there : days.any other.named with
      | true => rw [selectDay_of_any (kept.trans there), selectDay_of_any there]
      | false =>
        rw [selectDay_of_not_any (kept.trans there), selectDay_of_not_any (kept'.trans here),
          selectDay_of_not_any here, selectDay_of_not_any there, List.append_assoc, List.append_assoc]
        exact (List.Perm.swap _ _ []).append_left days

/-- Two days can be chosen in either order unless both are selected. -/
theorem chooseDay_comm (differs : day ≠ other) {selected selected' : Bool}
    (deselects : ¬(selected = true ∧ selected' = true)) (days : Option (List String)) :
    chooseDay other selected' (chooseDay day selected days) =
      chooseDay day selected (chooseDay other selected' days) := by
  have unset (day : Weekday) : (days.map (deselectDay day)).getD [] = deselectDay day (days.getD []) := by
    cases days <;> rfl
  cases selected with
  | true =>
    cases selected' with
    | true => exact absurd ⟨rfl, rfl⟩ deselects
    | false =>
      simp only [chooseDay, if_true, Bool.false_eq_true, if_false, unset, Option.map_some]
      rw [deselectDay_selectDay_comm differs.symm]
  | false =>
    cases selected' with
    | true =>
      simp only [chooseDay, if_true, Bool.false_eq_true, if_false, unset, Option.map_some]
      rw [deselectDay_selectDay_comm differs]
    | false =>
      simp only [chooseDay, Bool.false_eq_true, if_false, Option.map_map]
      exact congrArg (Option.map · days) (funext fun days => deselectDay_comm)

end Days

namespace ChargeEdit

variable {e e' : ChargeEdit}

/-- Edits that select a day of one timer both. -/
def BothSelect (timer : TimerId) (e e' : ChargeEdit) : Prop :=
  (∃ day, e = .day timer day true) ∧ ∃ day, e' = .day timer day true

theorem time_parts {f g : TimeField} (apart : f ≠ g) (slot : f.slot = g.slot) : f.part ≠ g.part := by
  intro part
  obtain ⟨_, _⟩ := f
  obtain ⟨_, _⟩ := g
  exact apart (congr (congrArg TimeField.mk slot) part)

/-- Changes of different settings can be made in either order. -/
theorem change_comm (apart : e.target ≠ e'.target) (deselects : ∀ timer, ¬BothSelect timer e e') :
    e'.change.after e.change = e.change.after e'.change := by
  -- Edits of two kinds change different parts of a planner.
  cases e with
  | time f value =>
    cases e' with
    | time g value' =>
      refine PlanChange.ext (funext fun slot => funext fun text => ?_) rfl rfl rfl rfl rfl
      simp only [PlanChange.after, change, Function.comp_apply]
      by_cases here : slot = f.slot
      · by_cases there : slot = g.slot
        · have parts := time_parts (fun same => apart (congrArg ChargeTarget.time same)) (here.symm.trans there)
          rw [if_pos here, if_pos here, if_pos there, if_pos there, spliceTime_comm parts]
        · rw [if_neg there, if_neg there]
      · rw [if_neg here, if_neg here]
    | _ => rfl
  | enabled timer on =>
    cases e' with
    | enabled timer' on' =>
      refine PlanChange.ext rfl (funext fun other => funext fun before => ?_) rfl rfl rfl rfl
      simp only [PlanChange.after, change, Function.comp_apply]
      by_cases here : other = timer
      · have there : other ≠ timer' := by
          rintro rfl
          exact apart (congrArg ChargeTarget.enabled here.symm)
        rw [if_neg there, if_neg there]
      · rw [if_neg here, if_neg here]
    | _ => rfl
  | day timer weekday selected =>
    cases e' with
    | day timer' weekday' selected' =>
      refine PlanChange.ext rfl rfl (funext fun other => funext fun days => ?_) rfl rfl rfl
      simp only [PlanChange.after, change, Function.comp_apply]
      by_cases here : other = timer ∧ timer ≠ .override
      · by_cases there : other = timer' ∧ timer' ≠ .override
        · have same : timer = timer' := here.1.symm.trans there.1
          subst same
          have differs : weekday ≠ weekday' := fun same => apart (congrArg (ChargeTarget.day timer) same)
          have either : ¬(selected = true ∧ selected' = true) := by
            rintro ⟨rfl, rfl⟩
            exact deselects timer ⟨⟨weekday, rfl⟩, weekday', rfl⟩
          rw [if_pos here, if_pos here, if_pos there, if_pos there, chooseDay_comm differs either]
        · rw [if_neg there, if_neg there]
      · rw [if_neg here, if_neg here]
    | _ => rfl
  | climate on =>
    cases e' with
    | climate on' => exact absurd rfl apart
    | _ => rfl
  | mode text =>
    cases e' with
    | mode text' => exact absurd rfl apart
    | _ => rfl
  | preference text =>
    cases e' with
    | preference text' => exact absurd rfl apart
    | _ => rfl

/-- Of two changes of one setting the last one counts; the days of a timer are another matter. -/
theorem change_last (same : e'.target = e.target) (other : ∀ timer day selected, e ≠ .day timer day selected) :
    e'.change.after e.change = e'.change := by
  cases e with
  | time f value =>
    cases e' with
    | time g value' =>
      obtain rfl : g = f := by simpa [target] using same
      refine PlanChange.ext (funext fun slot => funext fun text => ?_) rfl rfl rfl rfl rfl
      simp only [PlanChange.after, change, Function.comp_apply]
      split
      · rw [spliceTime_spliceTime]
      · rfl
    | _ => cases same
  | enabled timer on =>
    cases e' with
    | enabled timer' on' =>
      obtain rfl : timer' = timer := by simpa [target] using same
      refine PlanChange.ext rfl (funext fun other => funext fun before => ?_) rfl rfl rfl rfl
      simp only [PlanChange.after, change, Function.comp_apply]
      split <;> rfl
    | _ => cases same
  | day timer weekday selected => exact absurd rfl (other timer weekday selected)
  | climate on =>
    cases e' with
    | climate on' => rfl
    | _ => cases same
  | mode text =>
    cases e' with
    | mode text' => rfl
    | _ => cases same
  | preference text =>
    cases e' with
    | preference text' => rfl
    | _ => cases same

theorem isSome_sets {f : TimeField} : (e.sets f).isSome ↔ e.target = .time f := by
  cases e with
  | time g value =>
    by_cases same : g = f
    · simp [sets, target, same]
    · simp [sets, target, same]
  | _ => simp [sets, target]

/-- Only one of two edits of different settings sets an hour or a minute. -/
theorem sets_comm (apart : e.target ≠ e'.target) (f : TimeField) (noted : Option Nat) :
    (e'.sets f).or ((e.sets f).or noted) = (e.sets f).or ((e'.sets f).or noted) := by
  cases here : e.sets f with
  | none => rw [Option.none_or, Option.none_or]
  | some value =>
    have own : e.target = .time f := isSome_sets.mp (by simp [here])
    have none : e'.sets f = none :=
      Option.not_isSome_iff_eq_none.mp fun there => apart (own.trans (isSome_sets.mp there).symm)
    rw [none, Option.none_or, Option.none_or]

theorem sets_last (same : e'.target = e.target) (f : TimeField) (noted : Option Nat) :
    (e'.sets f).or ((e.sets f).or noted) = (e'.sets f).or noted := by
  cases here : e.sets f with
  | none => rw [Option.none_or]
  | some value =>
    have own : e.target = .time f := isSome_sets.mp (by simp [here])
    obtain ⟨last, there⟩ := Option.isSome_iff_exists.mp (isSome_sets.mpr (same.trans own))
    rw [there, Option.some_or, Option.some_or]

end ChargeEdit

/-- Two timers that are the same but for the order of their weekdays. -/
def Timer.SameButOrder (t t' : Timer) : Prop :=
  t' = t ∨ ∃ days days' : List String, days.Perm days' ∧ t.weekdays = some days ∧
    t' = { t with weekdays := some days' }

namespace ChargeProfile

variable {p : ChargeProfile} {e e' : ChargeEdit}

theorem edit_edit_eq (p : ChargeProfile) (e e' : ChargeEdit) : (p.edit e).edit e' = {
    plan := p.plan.change (e'.change.after e.change)
    extra := p.extra
    times := fun f =>
      if p.plan.hasSlot f.slot then (e'.sets f).or ((e.sets f).or (p.times f)) else p.times f } := by
  rw [edit_eq (p.edit e), edit_plan, edit_times, Plan.change_change, (edit_sameFrame p e).2]
  simp only [Plan.hasSlot_change]
  congr 1
  funext f
  split <;> rfl

/-- Two profiles that are the same but for the order of the weekdays of a timer. -/
def SameButOrder (timer : TimerId) (p q : ChargeProfile) : Prop :=
  ∃ f : Timer → Timer, q = p.mapPlan (Plan.mapTimer f timer) ∧
    ∀ t, p.plan.timer? timer = some t → t.SameButOrder (f t)

/-- Two days of a timer are selected, one after the other. -/
theorem edit_select_select (p : ChargeProfile) (timer : TimerId) (day other : Weekday) :
    SameButOrder timer ((p.edit (.day timer day true)).edit (.day timer other true))
      ((p.edit (.day timer other true)).edit (.day timer day true)) := by
  have both (day other : Weekday) (chosen : p.plan.hasWeekdays timer) :
      (p.edit (.day timer day true)).edit (.day timer other true) =
        p.mapPlan (Plan.mapTimer (Timer.setDay other true ∘ Timer.setDay day true) timer) := by
    have chosen' : (p.plan.mapTimer (Timer.setDay day true) timer).hasWeekdays timer := by simpa using chosen
    rw [edit_day chosen, edit_day chosen', mapPlan, mapPlan, Plan.mapTimer_mapTimer, mapPlan]
  by_cases chosen : p.plan.hasWeekdays timer
  -- One way or the other the timer holds the same days, so it is enough to put them in the other order.
  · rw [both day other chosen, both other day chosen]
    refine ⟨fun t => { t with weekdays := some (selectDay day (selectDay other (p.weekdays timer))) }, ?_, ?_⟩
    · rw [mapPlan, mapPlan, mapPlan, Plan.mapTimer_mapTimer]
      refine congrArg (fun plan => { p with plan := plan }) (Plan.mapTimer_congr fun t held => ?_)
      simp [Timer.setDay_eq, chooseDay, weekdays, held]
    · intro t held
      obtain ⟨before, here, rfl⟩ : ∃ before, p.plan.timer? timer = some before ∧
          (Timer.setDay other true ∘ Timer.setDay day true) before = t := by
        simpa [mapPlan] using held
      refine Or.inr ⟨_, _, selectDay_selectDay_perm (p.weekdays timer), ?_, rfl⟩
      simp [Timer.setDay_eq, chooseDay, weekdays, here]
  · have same (day : Weekday) : p.edit (.day timer day true) = p := if_neg chosen
    rw [same, same, same]
    refine ⟨id, ?_, fun t _ => Or.inl rfl⟩
    rw [mapPlan, Plan.mapTimer_id]

/-- Edits of different settings can be made in either order, with the same result; only two days of one timer
that are both selected may stand in its list in another order. Of two edits of one setting, other than the
days of a timer, the last one counts. -/
theorem edit_edit (p : ChargeProfile) (e e' : ChargeEdit) :
    (e.target ≠ e'.target →
      ((∀ timer, ¬ChargeEdit.BothSelect timer e e') → (p.edit e).edit e' = (p.edit e').edit e) ∧
      ∀ timer, ChargeEdit.BothSelect timer e e' →
        SameButOrder timer ((p.edit e).edit e') ((p.edit e').edit e)) ∧
    (e'.target = e.target → (∀ timer day selected, e ≠ .day timer day selected) →
      (p.edit e).edit e' = p.edit e') := by
  refine ⟨fun apart => ⟨fun deselects => ?_, fun timer select => ?_⟩, fun same other => ?_⟩
  · rw [edit_edit_eq, edit_edit_eq, ChargeEdit.change_comm apart deselects]
    simp only [ChargeEdit.sets_comm apart]
  · obtain ⟨⟨day, rfl⟩, other, rfl⟩ := select
    exact edit_select_select p timer day other
  · rw [edit_edit_eq, edit_eq p e', ChargeEdit.change_last same other]
    simp only [ChargeEdit.sets_last same]

/-- An hour and a minute, two days, and an hour that is set twice. -/
theorem edit_edit_sample :
    let p := ofPlan (.weekly { timer1 := some { departureTime := some "noon" } }) []
    let hour (value : Nat) : ChargeEdit := .time ⟨.departure .timer1, .hour⟩ value
    let minute : ChargeEdit := .time ⟨.departure .timer1, .minute⟩ 5
    let monday : ChargeEdit := .day .timer1 .monday true
    let sunday : ChargeEdit := .day .timer1 .sunday true
    (hour 7).target ≠ minute.target ∧ (p.edit (hour 7)).edit minute = (p.edit minute).edit (hour 7) ∧
      monday.target ≠ sunday.target ∧
      SameButOrder .timer1 ((p.edit monday).edit sunday) ((p.edit sunday).edit monday) ∧
      (hour 23).target = (hour 7).target ∧ (p.edit (hour 7)).edit (hour 23) = p.edit (hour 23) := by
  intro p hour minute monday sunday
  have parts : (hour 7).target ≠ minute.target := by decide
  have days : monday.target ≠ sunday.target := by decide
  have alone (timer : TimerId) : ¬ChargeEdit.BothSelect timer (hour 7) minute := by
    rintro ⟨⟨day, none⟩, -⟩
    cases none
  exact ⟨parts, ((edit_edit p (hour 7) minute).1 parts).1 alone, days,
    ((edit_edit p monday sunday).1 days).2 .timer1 ⟨⟨.monday, rfl⟩, .sunday, rfl⟩, rfl,
    (edit_edit p (hour 7) (hour 23)).2 rfl fun _ _ _ => ChargeEdit.noConfusion⟩

end ChargeProfile

end VehicleLink
