import VehicleLink.Bridge.Target
import VehicleLink.Proofs.Charging.TimeView
import VehicleLink.Proofs.Json.Difference

namespace VehicleLink

open Json (SameBut)

/-- The member of a planner that holds a timer. -/
def TimerId.key : TimerId → String
  | .timer1 => "timer1"
  | .timer2 => "timer2"
  | .timer3 => "timer3"
  | .override => "overrideTimer"

/-- Where a time stands in a planner. -/
def TimeSlot.path : TimeSlot → List String
  | .windowStart => ["preferredChargingWindow", "startTime"]
  | .windowEnd => ["preferredChargingWindow", "endTime"]
  | .departure timer => [timer.key, "departureTime"]

/-- What is read of a profile. -/
inductive Reading where
  | number (n : Int)
  | flag (on : Bool)
  | text (s : Option String)

namespace ChargeEdit

/-- Where the setting that an edit is for stands in a planner. -/
def path : ChargeEdit → List String
  | .time f _ => f.slot.path
  | .enabled timer _ => [timer.key, "timerEnabled"]
  | .day timer _ _ => [timer.key, "weekdays"]
  | .climate _ => ["climatizationEnabled"]
  | .mode _ => ["chargingMode"]
  | .preference _ => ["chargingPreferences"]

def target : ChargeEdit → ChargeTarget
  | .time f _ => .time f
  | .enabled timer _ => .enabled timer
  | .day timer weekday _ => .day timer weekday
  | .climate _ => .climate
  | .mode _ => .mode
  | .preference _ => .preference

def reading : ChargeEdit → Reading
  | .time _ value => .number value
  | .enabled _ on => .flag on
  | .day _ _ selected => .flag selected
  | .climate on => .flag on
  | .mode text => .text (some text)
  | .preference text => .text (some text)

/-- An hour or a minute that is set can be shown: an integer of 32 bits can hold it. -/
def Shown : ChargeEdit → Prop
  | .time _ value => value ≤ 0x7FFFFFFF
  | _ => True

end ChargeEdit

namespace Plan

/-- The member of a document that holds the planner; it says of which kind the planner is. -/
def key? : Plan → Option String
  | .weekly _ => some ChargeProfile.weeklyKey
  | .twoTimes _ => some ChargeProfile.twoTimesKey
  | .empty => none

/-- The planner has the setting that an edit is for. Climate, mode, preference and weekdays are settings of a
weekly planner, weekdays of its numbered timers. A timer or a window has settings if it is there. -/
def Supports (plan : Plan) : ChargeEdit → Prop
  | .time ⟨.departure timer, _⟩ _ => (plan.timer? timer).isSome
  | .time _ _ => plan.window?.isSome
  | .enabled timer _ => (plan.timer? timer).isSome
  | .day timer _ _ => plan.weekly?.isSome ∧ timer ≠ .override ∧ (plan.timer? timer).isSome
  | .climate _ | .mode _ | .preference _ => plan.weekly?.isSome

/-- The members of the planner that nobody declared. -/
def extra : Plan → List (String × Json)
  | .weekly p => p.extra
  | .twoTimes p => p.extra
  | .empty => []

end Plan

/-- What can be read of a profile. -/
def ChargeProfile.reading (p : ChargeProfile) : ChargeTarget → Option Reading
  | .time f => some (.number (p.time f))
  | .enabled timer => some (.flag (p.timerEnabled timer))
  | .day timer day => some (.flag (p.daySelected timer day))
  | .climate => some (.flag p.climateEnabled)
  | .mode => some (.text p.mode)
  | .preference => some (.text p.preference)
  | .send => none

section Documents

variable {slots slots' : List (String × Option Json)} {others : List (String × Json)} {key : String}
  {path : List String} {u v : Json}

theorem lookup_setMembers_append (distinct : (slots.map Prod.fst).Nodup) (k : String) :
    (setMembers slots ++ others).lookup k = (slots.lookup k).join.or (others.lookup k) := by
  rw [List.lookup_append, lookup_setMembers distinct]

/-- A record with another value in one slot differs in that member only. -/
theorem sameBut_slot (distinct : (slots.map Prod.fst).Nodup)
    (keys : slots'.map Prod.fst = slots.map Prod.fst)
    (rest : ∀ k, k ≠ key → slots'.lookup k = slots.lookup k) :
    SameBut [key] (.object (setMembers slots ++ others)) (.object (setMembers slots' ++ others)) := by
  have distinct' : (slots'.map Prod.fst).Nodup := keys ▸ distinct
  refine .member key fun k other => ?_
  rw [lookup_setMembers_append distinct, lookup_setMembers_append distinct', rest k other]

/-- What differs inside a slot differs at a path that begins with the key of the slot. -/
theorem sameBut_inside_slot (distinct : (slots.map Prod.fst).Nodup)
    (keys : slots'.map Prod.fst = slots.map Prod.fst)
    (rest : ∀ k, k ≠ key → slots'.lookup k = slots.lookup k) (before : slots.lookup key = some (some u))
    (after : slots'.lookup key = some (some v)) (inner : SameBut path u v) :
    SameBut (key :: path) (.object (setMembers slots ++ others)) (.object (setMembers slots' ++ others)) := by
  have distinct' : (slots'.map Prod.fst).Nodup := keys ▸ distinct
  refine .inside key (fun k other => ?_) ?_ ?_ inner
  · rw [lookup_setMembers_append distinct, lookup_setMembers_append distinct', rest k other]
  · rw [lookup_setMembers_append distinct, before, Option.join_some, Option.some_or]
  · rw [lookup_setMembers_append distinct', after, Option.join_some, Option.some_or]

theorem sameBut_cons (inner : SameBut path u v) :
    SameBut (key :: path) (.object ((key, u) :: others)) (.object ((key, v) :: others)) := by
  refine .inside key (fun k other => ?_) List.lookup_cons_self List.lookup_cons_self inner
  rw [Json.lookup_cons_ite, Json.lookup_cons_ite, if_neg other, if_neg other]

theorem Timer.sameBut_departureTime (t : Timer) (text : Option String) :
    SameBut ["departureTime"] t.toJson { t with departureTime := text }.toJson :=
  sameBut_slot (by simp) rfl fun k other => by simp [Json.lookup_cons_ite, other]

theorem Timer.sameBut_enabled (t : Timer) (on : Option Bool) :
    SameBut ["timerEnabled"] t.toJson { t with enabled := on }.toJson :=
  sameBut_slot (by simp) rfl fun k other => by simp [Json.lookup_cons_ite, other]

theorem Timer.sameBut_weekdays (t : Timer) (days : Option (List String)) :
    SameBut ["weekdays"] t.toJson { t with weekdays := days }.toJson :=
  sameBut_slot (by simp) rfl fun k other => by simp [Json.lookup_cons_ite, other]

/-- A day of a timer is in the list of its weekdays and nowhere else. -/
theorem Timer.sameBut_setDay (t : Timer) (day : Weekday) (selected : Bool) :
    SameBut ["weekdays"] t.toJson (t.setDay day selected).toJson := by
  unfold setDay
  split <;> exact t.sameBut_weekdays _

theorem ChargingWindow.sameBut_startTime (w : ChargingWindow) (text : Option String) :
    SameBut ["startTime"] w.toJson { w with startTime := text }.toJson :=
  sameBut_slot (by simp) rfl fun k other => by simp [Json.lookup_cons_ite, other]

theorem ChargingWindow.sameBut_endTime (w : ChargingWindow) (text : Option String) :
    SameBut ["endTime"] w.toJson { w with endTime := text }.toJson :=
  sameBut_slot (by simp) rfl fun k other => by simp [Json.lookup_cons_ite, other]

end Documents

section Weekdays

variable (day other : Weekday) (days : List String)

/-- A day is named by its own name. -/
theorem Weekday.named_name : day.named day.name = true := by
  cases day <;> decide

/-- No text names two days. -/
theorem Weekday.eq_of_named {day other : Weekday} {text : String} (here : day.named text = true)
    (there : other.named text = true) : day = other := by
  have lower : day.name.toList.map Char.toLower = other.name.toList.map Char.toLower :=
    (eq_of_beq here).symm.trans (eq_of_beq there)
  cases day <;> cases other <;> first | rfl | exact absurd lower (by decide)

/-- Selecting a day selects that day and keeps the others as they are. -/
theorem any_selectDay :
    (selectDay day days).any other.named = (decide (other = day) || days.any other.named) := by
  unfold selectDay
  by_cases same : other = day
  · subst same
    split
    · simp [*]
    · simp [other.named_name]
  · have differs : other.named day.name = false := by
      by_contra both
      exact same (Weekday.eq_of_named (by simpa using both) day.named_name)
    split
    · simp [same]
    · simp [same, differs]

/-- Deselecting a day takes it away, however it is written, and keeps the others as they are. -/
theorem any_deselectDay :
    (deselectDay day days).any other.named = (decide (other ≠ day) && days.any other.named) := by
  rw [deselectDay, List.any_filter]
  by_cases same : other = day
  · simp [same]
  · have kept (text : String) : (!day.named text && other.named text) = other.named text := by
      cases here : day.named text with
      | false => rfl
      | true =>
        by_contra there
        exact same (Weekday.eq_of_named (by simpa using there) here)
    simp [same, kept]

/-- A day of a timer that is selected or deselected leaves the other days as they were. -/
theorem Timer.any_setDay (t : Timer) (selected : Bool) :
    ((t.setDay day selected).weekdays.getD []).any other.named =
      if other = day then selected else (t.weekdays.getD []).any other.named := by
  cases selected with
  | true =>
    rw [setDay, if_pos rfl, Option.getD_some, any_selectDay]
    by_cases same : other = day <;> simp [same]
  | false =>
    rw [setDay, if_neg (by decide)]
    cases t.weekdays with
    | none => simp
    | some days =>
      rw [Option.map_some, Option.getD_some, any_deselectDay]
      by_cases same : other = day <;> simp [same]

end Weekdays

namespace Plan

variable {plan : Plan} {timer : TimerId}

/-- An hour or a minute can be set exactly where the planner has the time. -/
theorem supports_time {f : TimeField} {value : Nat} :
    plan.Supports (.time f value) ↔ plan.hasSlot f.slot := by
  obtain ⟨slot, part⟩ := f
  cases slot <;> exact Iff.rfl

theorem hasWeekdays_iff : plan.hasWeekdays timer ↔ plan.weekly?.isSome ∧ timer ≠ .override := by
  cases plan <;> simp [hasWeekdays, weekly?]

theorem mapTimer_of_none (missing : plan.timer? timer = none) (f : Timer → Timer) :
    plan.mapTimer f timer = plan := by
  cases plan with
  | weekly planner =>
    cases timer <;>
    · dsimp only [timer?] at missing
      rw [mapTimer, missing, Option.map_none, ← missing]
  | twoTimes planner =>
    cases timer with
    | timer1 | timer2 =>
      dsimp only [timer?] at missing
      rw [mapTimer, missing, Option.map_none, ← missing]
    | timer3 | override => rfl
  | empty => cases timer <;> rfl

theorem mapWeekly_of_none (missing : plan.weekly? = none) (f : WeeklyPlanner → WeeklyPlanner) :
    plan.mapWeekly f = plan := by
  cases plan with
  | weekly planner => cases missing
  | twoTimes planner | empty => rfl

@[simp] theorem hasWeekdays_mapTimer (f : Timer → Timer) (other : TimerId) :
    (plan.mapTimer f timer).hasWeekdays other = plan.hasWeekdays other := by
  cases plan <;> cases timer <;> rfl

@[simp] theorem hasWeekdays_mapWindow (f : ChargingWindow → ChargingWindow) (other : TimerId) :
    (plan.mapWindow f).hasWeekdays other = plan.hasWeekdays other := by
  cases plan <;> rfl

/-- The climate, the mode and the preference of the planner. -/
def settings (plan : Plan) : Option Bool × Option String × Option String :=
  (plan.weekly?.bind WeeklyPlanner.climateEnabled, plan.weekly?.bind WeeklyPlanner.chargingMode,
    plan.weekly?.bind WeeklyPlanner.chargingPreference)

theorem settings_mapTimer (f : Timer → Timer) : (plan.mapTimer f timer).settings = plan.settings := by
  cases plan <;> cases timer <;> rfl

theorem settings_mapWindow (f : ChargingWindow → ChargingWindow) :
    (plan.mapWindow f).settings = plan.settings := by
  cases plan <;> rfl

/-- Two planners are of one kind and have the same timers and the same window, as far as members go that
nobody declared. -/
structure SameFrame (before after : Plan) : Prop where
  kind : after.key? = before.key?
  extra : after.extra = before.extra
  timers : ∀ timer, (after.timer? timer).map Timer.extra = (before.timer? timer).map Timer.extra
  window : after.window?.map ChargingWindow.extra = before.window?.map ChargingWindow.extra

theorem SameFrame.refl (plan : Plan) : SameFrame plan plan := ⟨rfl, rfl, fun _ => rfl, rfl⟩

theorem sameFrame_mapTimer {f : Timer → Timer} (keeps : ∀ t, (f t).extra = t.extra) (timer : TimerId) :
    SameFrame plan (plan.mapTimer f timer) where
  kind := by cases plan <;> cases timer <;> rfl
  extra := by cases plan <;> cases timer <;> rfl
  timers other := by
    rw [timer?_mapTimer]
    split
    · rw [Option.map_map]
      exact congrArg (Option.map · (plan.timer? other)) (funext keeps)
    · rfl
  window := by rw [window?_mapTimer]

theorem sameFrame_mapWindow {f : ChargingWindow → ChargingWindow} (keeps : ∀ w, (f w).extra = w.extra) :
    SameFrame plan (plan.mapWindow f) where
  kind := by cases plan <;> rfl
  extra := by cases plan <;> rfl
  timers timer := by rw [timer?_mapWindow]
  window := by
    rw [window?_mapWindow, Option.map_map]
    exact congrArg (Option.map · plan.window?) (funext keeps)

end Plan

namespace ChargeProfile

variable {p q : ChargeProfile} {path : List String}

theorem edit_time {f : TimeField} {value : Nat} (place : p.plan.hasSlot f.slot) :
    p.edit (.time f value) = { p with
      plan := p.plan.mapTimeText (spliceTime f.part value) f.slot
      times := fun g => if g = f then some value else p.times g } := if_pos place

theorem edit_day {timer : TimerId} {weekday : Weekday} {selected : Bool}
    (weekdays : p.plan.hasWeekdays timer) : p.edit (.day timer weekday selected) =
      p.mapPlan (Plan.mapTimer (Timer.setDay weekday selected) timer) := if_pos weekdays

/-- Where a timer differs at a path, the document differs at that path inside the member of the timer. -/
theorem sameBut_mapTimer {timer : TimerId} {t : Timer} {f : Timer → Timer}
    (held : p.plan.timer? timer = some t) (plan : q.plan = p.plan.mapTimer f timer)
    (extra : q.extra = p.extra) (inner : SameBut path t.toJson (f t).toJson) :
    SameBut (p.plan.key?.toList ++ timer.key :: path) p.toJson q.toJson := by
  obtain ⟨before, members, times⟩ := p
  obtain ⟨after, members', times'⟩ := q
  dsimp only at held plan extra
  subst plan extra
  cases before with
  | weekly planner =>
    cases timer <;>
    · dsimp only [Plan.timer?] at held
      refine sameBut_cons (sameBut_inside_slot (by simp) rfl (fun k other => ?_) ?_ ?_ inner)
      · rw [TimerId.key] at other
        simp [Json.lookup_cons_ite, other]
      · simp [Json.lookup_cons_ite, TimerId.key, held]
      · simp [Json.lookup_cons_ite, TimerId.key, held]
  | twoTimes planner =>
    cases timer with
    | timer1 | timer2 =>
      dsimp only [Plan.timer?] at held
      refine sameBut_cons (sameBut_inside_slot (by simp) rfl (fun k other => ?_) ?_ ?_ inner)
      · rw [TimerId.key] at other
        simp [Json.lookup_cons_ite, other]
      · simp [Json.lookup_cons_ite, TimerId.key, held]
      · simp [Json.lookup_cons_ite, TimerId.key, held]
    -- There are two timers in a planner of this kind.
    | timer3 | override => cases held
  | empty => cases held

/-- Where the charging window differs at a path, the document differs at that path inside the member of the window. -/
theorem sameBut_mapWindow {w : ChargingWindow} {f : ChargingWindow → ChargingWindow}
    (held : p.plan.window? = some w) (plan : q.plan = p.plan.mapWindow f) (extra : q.extra = p.extra)
    (inner : SameBut path w.toJson (f w).toJson) :
    SameBut (p.plan.key?.toList ++ "preferredChargingWindow" :: path) p.toJson q.toJson := by
  obtain ⟨before, members, times⟩ := p
  obtain ⟨after, members', times'⟩ := q
  dsimp only at held plan extra
  subst plan extra
  cases before with
  | weekly planner | twoTimes planner =>
    dsimp only [Plan.window?] at held
    refine sameBut_cons (sameBut_inside_slot (by simp) rfl (fun k other => ?_) ?_ ?_ inner)
    · simp [Json.lookup_cons_ite, other]
    · simp [Json.lookup_cons_ite, held]
    · simp [Json.lookup_cons_ite, held]
  | empty => cases held

/-- Where a weekly planner differs at a path, the document differs at that path inside the member of the planner. -/
theorem sameBut_mapWeekly {f : WeeklyPlanner → WeeklyPlanner} (weekly : p.plan.weekly?.isSome)
    (inner : ∀ planner, SameBut path planner.toJson (f planner).toJson) :
    SameBut (p.plan.key?.toList ++ path) p.toJson (p.mapPlan (Plan.mapWeekly f)).toJson := by
  obtain ⟨plan, members, times⟩ := p
  cases plan with
  | weekly planner => exact sameBut_cons (inner planner)
  | twoTimes planner => cases weekly
  | empty => cases weekly

/-- Where an edit is supported, the document differs at most in the member of the setting. -/
theorem edit_sameBut {e : ChargeEdit} (supported : p.plan.Supports e) :
    SameBut (p.plan.key?.toList ++ e.path) p.toJson (p.edit e).toJson := by
  cases e with
  | time f value =>
    obtain ⟨slot, part⟩ := f
    rw [edit_time (Plan.supports_time.mp supported)]
    cases slot with
    | windowStart =>
      obtain ⟨w, held⟩ := Option.isSome_iff_exists.mp supported
      exact sameBut_mapWindow held rfl rfl (w.sameBut_startTime _)
    | windowEnd =>
      obtain ⟨w, held⟩ := Option.isSome_iff_exists.mp supported
      exact sameBut_mapWindow held rfl rfl (w.sameBut_endTime _)
    | departure timer =>
      obtain ⟨t, held⟩ := Option.isSome_iff_exists.mp supported
      exact sameBut_mapTimer held rfl rfl (t.sameBut_departureTime _)
  | enabled timer on =>
    obtain ⟨t, held⟩ := Option.isSome_iff_exists.mp supported
    exact sameBut_mapTimer held rfl rfl (t.sameBut_enabled _)
  | day timer weekday selected =>
    obtain ⟨weekly, numbered, present⟩ := supported
    obtain ⟨t, held⟩ := Option.isSome_iff_exists.mp present
    rw [edit_day (Plan.hasWeekdays_iff.mpr ⟨weekly, numbered⟩)]
    exact sameBut_mapTimer held rfl rfl (t.sameBut_setDay _ _)
  | climate on =>
    refine sameBut_mapWeekly supported fun planner => ?_
    exact sameBut_slot (by simp) rfl fun k other => by simp [Json.lookup_cons_ite, other]
  | mode text =>
    refine sameBut_mapWeekly supported fun planner => ?_
    exact sameBut_slot (by simp) rfl fun k other => by simp [Json.lookup_cons_ite, other]
  | preference text =>
    refine sameBut_mapWeekly supported fun planner => ?_
    exact sameBut_slot (by simp) rfl fun k other => by simp [Json.lookup_cons_ite, other]

/-- An edit of a setting that the planner does not have changes nothing. -/
theorem edit_unsupported {e : ChargeEdit} (unsupported : ¬p.plan.Supports e) : p.edit e = p := by
  have same {f : Plan → Plan} (plan : f p.plan = p.plan) : p.mapPlan f = p := by rw [mapPlan, plan]
  have absent {timer : TimerId} (missing : ¬(p.plan.timer? timer).isSome) (f : Timer → Timer) :
      p.mapPlan (Plan.mapTimer f timer) = p :=
    same (Plan.mapTimer_of_none (Option.not_isSome_iff_eq_none.mp missing) f)
  have other (missing : ¬p.plan.weekly?.isSome) (f : WeeklyPlanner → WeeklyPlanner) :
      p.mapPlan (Plan.mapWeekly f) = p :=
    same (Plan.mapWeekly_of_none (Option.not_isSome_iff_eq_none.mp missing) f)
  cases e with
  | time f value => exact if_neg fun place => unsupported (Plan.supports_time.mpr place)
  | enabled timer on => exact absent unsupported _
  | day timer weekday selected =>
    by_cases weekdays : p.plan.hasWeekdays timer
    · obtain ⟨weekly, numbered⟩ := Plan.hasWeekdays_iff.mp weekdays
      rw [edit_day weekdays]
      exact absent (fun present => unsupported ⟨weekly, numbered, present⟩) _
    · exact if_neg weekdays
  | climate on | mode text | preference text => exact other unsupported _

/-- A change of a timer is read in that timer only, and there only as far as it goes. -/
theorem reading_mapTimer {timer : TimerId} {f : Timer → Timer} {c : ChargeTarget}
    (plan : q.plan = p.plan.mapTimer f timer) (times : ∀ g, c = .time g → q.times g = p.times g)
    (enabled : c = .enabled timer → ∀ t, (f t).enabled = t.enabled)
    (days : ∀ day, c = .day timer day → ∀ t,
      ((f t).weekdays.getD []).any day.named = (t.weekdays.getD []).any day.named) :
    q.reading c = p.reading c := by
  have settings : q.plan.settings = p.plan.settings := plan ▸ Plan.settings_mapTimer f
  cases c with
  | time g => rw [reading, reading, time, time, time?, time?, times g rfl]
  | enabled other =>
    have same : (q.plan.timer? other).bind Timer.enabled = (p.plan.timer? other).bind Timer.enabled := by
      rw [plan, Plan.timer?_mapTimer]
      split
      · rename_i here
        cases p.plan.timer? other with
        | none => rfl
        | some t => exact enabled (congrArg _ here) t
      · rfl
    rw [reading, reading, timerEnabled, timerEnabled, same]
  | day other day =>
    have same : (((q.plan.timer? other).bind Timer.weekdays).getD []).any day.named =
        (((p.plan.timer? other).bind Timer.weekdays).getD []).any day.named := by
      rw [plan, Plan.timer?_mapTimer]
      split
      · rename_i here
        cases p.plan.timer? other with
        | none => rfl
        | some t => exact days day (here ▸ rfl) t
      · rfl
    rw [reading, reading, daySelected, daySelected, same, plan, Plan.hasWeekdays_mapTimer]
  | climate => exact congrArg (fun s => some (Reading.flag (s.1.getD false))) settings
  | mode => exact congrArg (fun s => some (Reading.text s.2.1)) settings
  | preference => exact congrArg (fun s => some (Reading.text s.2.2)) settings
  | send => rfl

/-- A change of the charging window is read in its times only. -/
theorem reading_mapWindow {f : ChargingWindow → ChargingWindow} {c : ChargeTarget}
    (plan : q.plan = p.plan.mapWindow f) (times : ∀ g, c = .time g → q.times g = p.times g) :
    q.reading c = p.reading c := by
  have settings : q.plan.settings = p.plan.settings := plan ▸ Plan.settings_mapWindow f
  cases c with
  | time g => rw [reading, reading, time, time, time?, time?, times g rfl]
  | enabled other => rw [reading, reading, timerEnabled, timerEnabled, plan, Plan.timer?_mapWindow]
  | day other day =>
    rw [reading, reading, daySelected, daySelected, plan, Plan.timer?_mapWindow,
      Plan.hasWeekdays_mapWindow]
  | climate => exact congrArg (fun s => some (Reading.flag (s.1.getD false))) settings
  | mode => exact congrArg (fun s => some (Reading.text s.2.1)) settings
  | preference => exact congrArg (fun s => some (Reading.text s.2.2)) settings
  | send => rfl

/-- All that is not the setting of an edit is read as before. -/
theorem reading_edit_other {e : ChargeEdit} {c : ChargeTarget} (other : c ≠ e.target) :
    (p.edit e).reading c = p.reading c := by
  cases e with
  | time f value =>
    by_cases place : p.plan.hasSlot f.slot
    · rw [edit_time place]
      have times (g : TimeField) (here : c = .time g) :
          (if g = f then some value else p.times g) = p.times g :=
        if_neg fun (same : g = f) => other (same ▸ here)
      obtain ⟨slot, part⟩ := f
      cases slot with
      | windowStart | windowEnd => exact reading_mapWindow rfl times
      | departure timer => exact reading_mapTimer rfl times (fun _ _ => rfl) fun _ _ _ => rfl
    · rw [show p.edit (.time f value) = p from if_neg place]
  | enabled timer on =>
    exact reading_mapTimer rfl (fun _ _ => rfl) (fun here => absurd here other) fun _ _ _ => rfl
  | day timer weekday selected =>
    by_cases weekdays : p.plan.hasWeekdays timer
    · rw [edit_day weekdays]
      -- The list of the timer is another one, but the other days are in it as they were.
      refine reading_mapTimer rfl (fun _ _ => rfl) (fun _ t => ?_) fun day here t => ?_
      · unfold Timer.setDay
        split <;> rfl
      · have differs : day ≠ weekday := fun same => other (same ▸ here)
        rw [Timer.any_setDay, if_neg differs]
    · rw [show p.edit (.day timer weekday selected) = p from if_neg weekdays]
  | climate on | mode text | preference text =>
    obtain ⟨plan, extra, times⟩ := p
    cases plan with
    | weekly planner =>
      cases c with
      | enabled timer | day timer weekday => cases timer <;> rfl
      | time | climate | mode | preference | send => first | rfl | exact absurd rfl other
    | twoTimes planner | empty => rfl

/-- The setting of an edit is read as it was set. -/
theorem reading_edit {e : ChargeEdit} (supported : p.plan.Supports e) (shown : e.Shown) :
    (p.edit e).reading e.target = some e.reading := by
  cases e with
  | time f value =>
    have small : value < 0x80000000 := Nat.lt_succ_of_le shown
    rw [edit_time (Plan.supports_time.mp supported)]
    simp [ChargeEdit.target, ChargeEdit.reading, reading, time, time?, Option.filter, small]
  | enabled timer on =>
    obtain ⟨t, held⟩ := Option.isSome_iff_exists.mp supported
    simp [ChargeEdit.target, ChargeEdit.reading, reading, edit, setEnabled, mapPlan, timerEnabled, held]
  | day timer weekday selected =>
    obtain ⟨weekly, numbered, present⟩ := supported
    obtain ⟨t, held⟩ := Option.isSome_iff_exists.mp present
    have weekdays := Plan.hasWeekdays_iff.mpr ⟨weekly, numbered⟩
    have chosen := Timer.any_setDay weekday weekday t selected
    rw [if_pos rfl] at chosen
    simp [ChargeEdit.target, ChargeEdit.reading, reading, edit_day weekdays, mapPlan, daySelected, weekdays,
      held, chosen]
  | climate on | mode text | preference text =>
    obtain ⟨plan, extra, times⟩ := p
    cases plan with
    | weekly planner => rfl
    | twoTimes planner | empty => cases supported

/-- No edit makes another kind of planner, or changes what nobody declared. -/
theorem edit_sameFrame (p : ChargeProfile) (e : ChargeEdit) :
    p.plan.SameFrame (p.edit e).plan ∧ (p.edit e).extra = p.extra := by
  cases e with
  | time f value =>
    by_cases place : p.plan.hasSlot f.slot
    · rw [edit_time place]
      refine ⟨?_, rfl⟩
      obtain ⟨slot, part⟩ := f
      cases slot with
      | windowStart | windowEnd =>
        refine Plan.sameFrame_mapWindow ?_
        intro w
        rfl
      | departure timer =>
        refine Plan.sameFrame_mapTimer ?_ timer
        intro t
        rfl
    · rw [show p.edit (.time f value) = p from if_neg place]
      exact ⟨.refl _, rfl⟩
  | enabled timer on =>
    refine ⟨Plan.sameFrame_mapTimer ?_ timer, rfl⟩
    intro t
    rfl
  | day timer weekday selected =>
    by_cases weekdays : p.plan.hasWeekdays timer
    · rw [edit_day weekdays]
      refine ⟨Plan.sameFrame_mapTimer (fun t => ?_) timer, rfl⟩
      unfold Timer.setDay
      split <;> rfl
    · rw [show p.edit (.day timer weekday selected) = p from if_neg weekdays]
      exact ⟨.refl _, rfl⟩
  | climate on | mode text | preference text =>
    refine ⟨?_, rfl⟩
    obtain ⟨plan, extra, times⟩ := p
    cases plan with
    | weekly planner => exact ⟨rfl, rfl, fun timer => by cases timer <;> rfl, rfl⟩
    | twoTimes planner | empty => exact .refl _

/-- An edit of a profile that has been read and edited before. Where the planner has the setting, the documents
that are sent before and after it differ at most in the member of that setting, and the setting is read as it
was set. Where it has not, nothing changes. In either case all other settings are read as before, the planner
is of the same kind, and all members that nobody declared are the same. -/
theorem edit_changes_target {s : String} {p₀ : ChargeProfile} (read : ofText s = .ok p₀) (es : List ChargeEdit)
    (e : ChargeEdit) :
    let p := p₀.edits es
    let q := p.edit e
    (p.plan.Supports e →
      SameBut (p.plan.key?.toList ++ e.path) p.toJson.normal q.toJson.normal ∧
        (e.Shown → q.reading e.target = some e.reading)) ∧
      (¬p.plan.Supports e → q = p) ∧ (∀ c, c ≠ e.target → q.reading c = p.reading c) ∧
      p.plan.SameFrame q.plan ∧ q.extra = p.extra ∧
      ((∀ x, .real x ∈ p₀.toJson.parts → Number.ReadsBack (.real x)) →
        Json.ofText p.toText = .ok p.toJson.normal ∧ Json.ofText q.toText = .ok q.toJson.normal) := by
  intro p q
  obtain ⟨_, _, fine, _⟩ := ofText_spec read
  obtain ⟨frame, extra⟩ := edit_sameFrame p e
  have before : p.WellFormed Number.InRange := fine.edits es
  have after : q.WellFormed Number.InRange := before.edit e
  have sent (reals : ∀ x, .real x ∈ p₀.toJson.parts → Number.ReadsBack (.real x)) :
      Json.ofText p.toText = .ok p.toJson.normal ∧ Json.ofText q.toText = .ok q.toJson.normal := by
    have kept : p.WellFormed Number.ReadsBack := (fine.readsBack reals).edits es
    exact ⟨Json.ofText_toText kept.toJson_bounded, Json.ofText_toText (kept.edit e).toJson_bounded⟩
  refine ⟨fun supported => ⟨?_, reading_edit supported⟩, edit_unsupported, fun c => reading_edit_other, frame,
    extra, sent⟩
  exact (edit_sameBut supported).normal before.toJson_distinct after.toJson_distinct

/-- Monday is selected for a timer whose hour has been set before. -/
theorem edit_changes_target_sample :
    let edit : ChargeEdit := .day .timer1 .monday true
    let p := sample.edits [.time ⟨.departure .timer1, .hour⟩ 6]
    let q := p.edit edit
    ofText sampleText = .ok sample ∧ p.plan.Supports edit ∧
      SameBut ["weeklyPlanner", "timer1", "weekdays"] p.toJson.normal q.toJson.normal ∧
      q.reading (.day .timer1 .monday) = some (.flag true) ∧
      (∀ c, c ≠ .day .timer1 .monday → q.reading c = p.reading c) ∧ p.plan.SameFrame q.plan ∧
      q.extra = p.extra ∧ Json.ofText p.toText = .ok p.toJson.normal ∧
      Json.ofText q.toText = .ok q.toJson.normal := by
  intro edit p q
  have supported : p.plan.Supports edit := ⟨rfl, by decide, rfl⟩
  obtain ⟨changed, _, others, frame, extra, sent⟩ :=
    edit_changes_target sample_read [.time ⟨.departure .timer1, .hour⟩ 6] edit
  obtain ⟨document, shown⟩ := changed supported
  exact ⟨sample_read, supported, document, shown trivial, others, frame, extra, sent sample_reals⟩

/-- A weekly planner without the timer does not take a day of it. -/
theorem day_of_missing_timer :
    let p := ofPlan (.weekly {}) []
    ofText "\x7b\"weeklyPlanner\":\x7b\x7d\x7d" = .ok p ∧ p.plan.weekly?.isSome = true ∧
      (p.edit (.day .timer1 .monday true)).daySelected .timer1 .monday = false := by
  refine ⟨by cbv, by decide, by decide⟩

end ChargeProfile

end VehicleLink
