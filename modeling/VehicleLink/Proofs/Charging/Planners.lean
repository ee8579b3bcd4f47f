import Mathlib.Data.List.Forall2
import VehicleLink.Charging.Planner
import VehicleLink.Proofs.Json.Documents

namespace VehicleLink

open Json (Fields Need Shape Document Free)

variable {numbers : Number → Prop} {room : Nat} {fields : Fields} {u : Json}
  {slots : List (String × Option Json)} {others : List (String × Json)}

section Slots

/-- A member of a record that may be set, and what is declared of it. -/
def Slot (numbers : Number → Prop) (room : Nat) (slot : String × Option Json)
    (f : String × Need × Shape) : Prop :=
  slot.1 = f.1 ∧ ∀ v, slot.2 = some v → Document numbers room f.2.2 v

theorem setMembers_map (found : String → Option Json) (fields : Fields) :
    setMembers (fields.map fun f => (f.1, found f.1)) = Json.declared fields found := by
  rw [setMembers, Json.declared, List.filterMap_map]
  rfl

theorem keys_of_slots (pairs : List.Forall₂ (Slot numbers room) slots fields) :
    slots.map Prod.fst = fields.map Prod.fst := by
  induction pairs with
  | nil => rfl
  | cons pair rest ih => rw [List.map_cons, List.map_cons, pair.1, ih]

/-- Slots are told by what they hold at each key. -/
theorem slots_eq (found : String → Option Json) (pairs : List.Forall₂ (Slot numbers room) slots fields)
    (values : ∀ slot ∈ slots, found slot.1 = slot.2) : slots = fields.map fun f => (f.1, found f.1) := by
  induction pairs with
  | nil => rfl
  | cons pair rest ih =>
    obtain ⟨here, later⟩ := List.forall_mem_cons.mp values
    rw [List.map_cons, ← ih later, ← pair.1, here]

/-- A slot holds what is written of a value, where there is one. -/
theorem slot_map {α : Type} {f : α → Json} {held : Option α} {key : String} {shape : Shape}
    (each : ∀ a, held = some a → Document numbers room shape (f a)) :
    Slot numbers room (key, held.map f) (Json.field key shape) := by
  refine ⟨rfl, fun v value => ?_⟩
  obtain ⟨a, here, rfl⟩ := Option.map_eq_some_iff.mp value
  exact each a here

/-- The documents of an open record are those with a slot for each declared member. -/
theorem document_record (distinct : (fields.map Prod.fst).Nodup) :
    Document numbers (room + 1) (.record .opened fields) u ↔
      ∃ slots others, List.Forall₂ (Slot numbers room) slots fields ∧ Free numbers room fields others ∧
        u = .object (setMembers slots ++ others) := by
  constructor
  · intro document
    cases document with
    | @record _ _ found others each free =>
      refine ⟨fields.map fun f => (f.1, found f.1), others, ?_, free, by rw [setMembers_map]⟩
      rw [List.forall₂_map_left_iff, List.forall₂_same]
      exact fun f member => ⟨rfl, each f member⟩
  · rintro ⟨slots, others, pairs, free, rfl⟩
    have distinct' : (slots.map Prod.fst).Nodup := (keys_of_slots pairs).symm ▸ distinct
    obtain ⟨found, same⟩ : ∃ found : String → Option Json, slots = fields.map fun f => (f.1, found f.1) := by
      have values (slot : String × Option Json) (member : slot ∈ slots) :
          (slots.lookup slot.1).join = slot.2 := by
        rw [Json.lookup_of_mem distinct' member, Option.join_some]
      exact ⟨fun key => (slots.lookup key).join,
        slots_eq (fun key => (slots.lookup key).join) pairs values⟩
    rw [same] at pairs ⊢
    rw [List.forall₂_map_left_iff, List.forall₂_same] at pairs
    rw [setMembers_map]
    exact .record (fun f member => (pairs f member).2) free

/-- A slot that is not set leaves no member. -/
theorem lookup_setMembers (distinct : (slots.map Prod.fst).Nodup) (key : String) :
    (setMembers slots).lookup key = (slots.lookup key).join := by
  induction slots with
  | nil => rfl
  | cons slot rest ih =>
    obtain ⟨k, held⟩ := slot
    obtain ⟨unique, later⟩ := Json.distinct_cons.mp distinct
    have after := ih later
    simp only [setMembers, List.filterMap_cons] at after ⊢
    rw [Json.lookup_cons_ite]
    by_cases same : key = k
    · subst same
      rw [if_pos rfl]
      cases held with
      | none => simpa [unique] using after
      | some v => simp
    · rw [if_neg same, ← after]
      cases held with
      | none => rfl
      | some v => rw [Option.map_some, Json.lookup_cons_ite, if_neg same]

/-- At the key of a slot stands what it holds. -/
theorem get?_slot (distinct : (slots.map Prod.fst).Nodup) (free : Free numbers room fields others)
    {key : String} {value : Option Json} (declared : (fields.lookup key).isSome)
    (slot : slots.lookup key = some value) :
    Json.get? key (.object (setMembers slots ++ others)) = value := by
  rw [Json.get?, List.lookup_append, lookup_setMembers distinct, slot, Option.join_some,
    free.absent declared, Option.or_none]

/-- The other members of a record are those that stand behind its slots. -/
theorem otherMembers_setMembers (keys : slots.map Prod.fst = fields.map Prod.fst)
    (free : Free numbers room fields others) :
    otherMembers fields (.object (setMembers slots ++ others)) = others := by
  have dropped : (setMembers slots).filter (fun m => (fields.lookup m.1).isNone) = [] := by
    refine List.filter_eq_nil_iff.mpr fun m member => ?_
    obtain ⟨slot, inside, value⟩ := List.mem_filterMap.mp member
    obtain ⟨v, held, rfl⟩ := Option.map_eq_some_iff.mp value
    have key : slot.1 ∈ fields.map Prod.fst := keys ▸ List.mem_map_of_mem inside
    obtain ⟨f, declared, same⟩ := List.mem_map.mp key
    have found := Json.lookup_isSome.mpr ⟨f, declared, same⟩
    simpa using found
  have kept : others.filter (fun m => (fields.lookup m.1).isNone) = others := by
    refine List.filter_eq_self.mpr fun m member => ?_
    rw [free.undeclared m member]
    rfl
  show (setMembers slots ++ others).filter (fun m => (fields.lookup m.1).isNone) = others
  rw [List.filter_append, dropped, kept, List.nil_append]

end Slots

section Values

theorem exists_map_of_forall {α : Type} {f : α → Json} {value : Option Json}
    (each : ∀ v, value = some v → ∃ a, v = f a) : ∃ held : Option α, value = held.map f := by
  cases value with
  | none => exact ⟨none, rfl⟩
  | some v =>
    obtain ⟨a, rfl⟩ := each v rfl
    exact ⟨some a, rfl⟩

theorem exists_map_and {α : Type} {f : α → Json} {holds : α → Prop} {value : Option Json}
    (each : ∀ v, value = some v → ∃ a, holds a ∧ v = f a) :
    ∃ held : Option α, value = held.map f ∧ ∀ a, held = some a → holds a := by
  cases value with
  | none => exact ⟨none, rfl, fun a none => (nomatch none)⟩
  | some v =>
    obtain ⟨a, fine, rfl⟩ := each v rfl
    refine ⟨some a, rfl, ?_⟩
    rintro a' ⟨⟩
    exact fine

theorem document_text : Document numbers room .text u ↔ ∃ s, u = .text s := by
  constructor
  · intro document
    cases document with
    | text s => exact ⟨s, rfl⟩
  · rintro ⟨s, rfl⟩
    exact .text s

theorem document_flag : Document numbers room .flag u ↔ ∃ b, u = .flag b := by
  constructor
  · intro document
    cases document with
    | flag b => exact ⟨b, rfl⟩
  · rintro ⟨b, rfl⟩
    exact .flag b

theorem document_texts : Document numbers (room + 1) (.list .text) u ↔
    ∃ texts : List String, u = .list (texts.map .text) := by
  constructor
  · intro document
    cases document with
    | @list _ _ items each =>
      have texts : ∃ texts : List String, items = texts.map .text := by
        induction items with
        | nil => exact ⟨[], rfl⟩
        | cons v rest ih =>
          obtain ⟨here, later⟩ := List.forall_mem_cons.mp each
          obtain ⟨s, rfl⟩ := document_text.mp here
          obtain ⟨texts, rfl⟩ := ih later
          exact ⟨s :: texts, rfl⟩
      obtain ⟨texts, rfl⟩ := texts
      exact ⟨texts, rfl⟩
  · rintro ⟨texts, rfl⟩
    refine .list fun v member => ?_
    obtain ⟨s, _, rfl⟩ := List.mem_map.mp member
    exact .text s

end Values

/-- What a record holds at a key is read back from its document. -/
theorem recordAt_map {α : Type} {record : Json → α} {toJson : α → Json} {key : String} {held : Option α}
    (value : u.get? key = held.map toJson) (set : ∀ a, toJson a ≠ .null)
    (each : ∀ a, held = some a → record (toJson a) = a) : u.recordAt record key = held := by
  rw [Json.recordAt, value]
  cases held with
  | none => rfl
  | some a =>
    have here := each a rfl
    rw [Option.map_some]
    split
    · rename_i none
      cases none
    · rename_i null
      exact absurd (Option.some.inj null) (set a)
    · rename_i v _ same
      cases Option.some.inj same
      rw [here]

/-- The free members of a timer are as they are kept. -/
def Timer.WellFormed (numbers : Number → Prop) (room : Nat) (t : Timer) : Prop :=
  Free numbers (room + 1) Timer.fields t.extra

theorem Timer.fields_distinct : (Timer.fields.map Prod.fst).Nodup := by decide

theorem Timer.shape_open : Timer.shape.Open := by
  refine .record Timer.fields_distinct (by decide) ?_
  simp only [Timer.fields, Json.field, List.forall_mem_cons]
  exact ⟨.text, .flag, .list .text, by simp⟩

/-- The documents of the shape of a timer are those that a timer is written as. -/
theorem Timer.document_iff : Document numbers (room + 2) Timer.shape u ↔
    ∃ t : Timer, t.WellFormed numbers room ∧ u = t.toJson := by
  rw [Timer.shape, document_record Timer.fields_distinct]
  constructor
  · rintro ⟨slots, others, pairs, free, rfl⟩
    simp only [Timer.fields, Json.field, List.forall₂_cons_right_iff, List.forall₂_nil_right_iff] at pairs
    obtain ⟨⟨_, time⟩, _, ⟨rfl, times⟩, ⟨⟨_, enabled⟩, _, ⟨rfl, flags⟩, ⟨⟨_, weekdays⟩, _, ⟨rfl, lists⟩, rfl,
      rfl⟩, rfl⟩, rfl⟩ := pairs
    obtain ⟨time, rfl⟩ := exists_map_of_forall fun v held => document_text.mp (times v held)
    obtain ⟨enabled, rfl⟩ := exists_map_of_forall fun v held => document_flag.mp (flags v held)
    obtain ⟨weekdays, rfl⟩ := exists_map_of_forall fun v held => document_texts.mp (lists v held)
    exact ⟨⟨time, enabled, weekdays, others⟩, free, rfl⟩
  · rintro ⟨t, free, rfl⟩
    refine ⟨_, t.extra, ?_, free, rfl⟩
    exact .cons (slot_map fun s _ => .text s) (.cons (slot_map fun b _ => .flag b)
      (.cons (slot_map fun days _ => document_texts.mpr ⟨days, rfl⟩) .nil))

/-- A timer comes back from its document. -/
theorem Timer.ofJson_toJson {t : Timer} (free : t.WellFormed numbers room) : Timer.ofJson t.toJson = t := by
  have slot {key : String} {value : Option Json} (declared : (Timer.fields.lookup key).isSome)
      (held : List.lookup key [("departureTime", t.departureTime.map Json.text),
        ("timerEnabled", t.enabled.map Json.flag),
        ("weekdays", t.weekdays.map fun days => Json.list (days.map Json.text))] = some value) :
      t.toJson.get? key = value :=
    get?_slot (by simp) free declared held
  have time : t.toJson.textAt "departureTime" = t.departureTime := by
    rw [Json.textAt, slot rfl rfl]
    cases t.departureTime <;> rfl
  have enabled : t.toJson.flagAt "timerEnabled" = t.enabled := by
    rw [Json.flagAt, slot rfl rfl]
    cases t.enabled <;> rfl
  have weekdays : t.toJson.listAt (fun day => day.text?.getD "") "weekdays" = t.weekdays := by
    rw [Json.listAt, slot rfl rfl]
    cases t.weekdays with
    | none => rfl
    | some days => simp [Json.list?, Json.text?, Function.comp_def]
  have others : otherMembers Timer.fields t.toJson = t.extra := otherMembers_setMembers rfl free
  rw [Timer.ofJson, time, enabled, weekdays, others]

/-- The free members of a charging window are as they are kept. -/
def ChargingWindow.WellFormed (numbers : Number → Prop) (room : Nat) (w : ChargingWindow) : Prop :=
  Free numbers (room + 1) ChargingWindow.fields w.extra

theorem ChargingWindow.fields_distinct : (ChargingWindow.fields.map Prod.fst).Nodup := by decide

theorem ChargingWindow.shape_open : ChargingWindow.shape.Open := by
  refine .record ChargingWindow.fields_distinct (by decide) ?_
  simp only [ChargingWindow.fields, Json.field, List.forall_mem_cons]
  exact ⟨.text, .text, by simp⟩

/-- The documents of the shape of a charging window are those that a window is written as. -/
theorem ChargingWindow.document_iff : Document numbers (room + 2) ChargingWindow.shape u ↔
    ∃ w : ChargingWindow, w.WellFormed numbers room ∧ u = w.toJson := by
  rw [ChargingWindow.shape, document_record ChargingWindow.fields_distinct]
  constructor
  · rintro ⟨slots, others, pairs, free, rfl⟩
    simp only [ChargingWindow.fields, Json.field, List.forall₂_cons_right_iff,
      List.forall₂_nil_right_iff] at pairs
    obtain ⟨⟨_, start⟩, _, ⟨rfl, starts⟩, ⟨⟨_, stop⟩, _, ⟨rfl, stops⟩, rfl, rfl⟩, rfl⟩ := pairs
    obtain ⟨start, rfl⟩ := exists_map_of_forall fun v held => document_text.mp (starts v held)
    obtain ⟨stop, rfl⟩ := exists_map_of_forall fun v held => document_text.mp (stops v held)
    exact ⟨⟨start, stop, others⟩, free, rfl⟩
  · rintro ⟨w, free, rfl⟩
    refine ⟨_, w.extra, ?_, free, rfl⟩
    exact .cons (slot_map fun s _ => .text s) (.cons (slot_map fun s _ => .text s) .nil)

/-- A charging window comes back from its document. -/
theorem ChargingWindow.ofJson_toJson {w : ChargingWindow} (free : w.WellFormed numbers room) :
    ChargingWindow.ofJson w.toJson = w := by
  have slot {key : String} {value : Option Json} (declared : (ChargingWindow.fields.lookup key).isSome)
      (held : List.lookup key [("startTime", w.startTime.map Json.text),
        ("endTime", w.endTime.map Json.text)] = some value) : w.toJson.get? key = value :=
    get?_slot (by simp) free declared held
  have start : w.toJson.textAt "startTime" = w.startTime := by
    rw [Json.textAt, slot rfl rfl]
    cases w.startTime <;> rfl
  have stop : w.toJson.textAt "endTime" = w.endTime := by
    rw [Json.textAt, slot rfl rfl]
    cases w.endTime <;> rfl
  have others : otherMembers ChargingWindow.fields w.toJson = w.extra := otherMembers_setMembers rfl free
  rw [ChargingWindow.ofJson, start, stop, others]

/-- The free members of a weekly planner, its timers and its window are as they are kept. -/
structure WeeklyPlanner.WellFormed (numbers : Number → Prop) (room : Nat) (p : WeeklyPlanner) : Prop where
  free : Free numbers (room + 2) WeeklyPlanner.fields p.extra
  timer1 : ∀ t, p.timer1 = some t → t.WellFormed numbers room
  timer2 : ∀ t, p.timer2 = some t → t.WellFormed numbers room
  timer3 : ∀ t, p.timer3 = some t → t.WellFormed numbers room
  overrideTimer : ∀ t, p.overrideTimer = some t → t.WellFormed numbers room
  window : ∀ w, p.window = some w → w.WellFormed numbers room

theorem WeeklyPlanner.fields_distinct : (WeeklyPlanner.fields.map Prod.fst).Nodup := by decide

theorem WeeklyPlanner.shape_open : WeeklyPlanner.shape.Open := by
  refine .record WeeklyPlanner.fields_distinct (by decide) ?_
  simp only [WeeklyPlanner.fields, Json.field, List.forall_mem_cons]
  exact ⟨.flag, .text, .text, Timer.shape_open, Timer.shape_open, Timer.shape_open, Timer.shape_open,
    ChargingWindow.shape_open, by simp⟩

/-- The documents of the shape of a weekly planner are those that such a planner is written as. -/
theorem WeeklyPlanner.document_iff : Document numbers (room + 3) WeeklyPlanner.shape u ↔
    ∃ p : WeeklyPlanner, p.WellFormed numbers room ∧ u = p.toJson := by
  rw [WeeklyPlanner.shape, document_record WeeklyPlanner.fields_distinct]
  constructor
  · rintro ⟨slots, others, pairs, free, rfl⟩
    simp only [WeeklyPlanner.fields, Json.field, List.forall₂_cons_right_iff,
      List.forall₂_nil_right_iff] at pairs
    obtain ⟨⟨_, climate⟩, _, ⟨rfl, climates⟩, ⟨⟨_, mode⟩, _, ⟨rfl, modes⟩, ⟨⟨_, preference⟩, _,
      ⟨rfl, preferences⟩, ⟨⟨_, first⟩, _, ⟨rfl, firsts⟩, ⟨⟨_, second⟩, _, ⟨rfl, seconds⟩, ⟨⟨_, third⟩, _,
      ⟨rfl, thirds⟩, ⟨⟨_, fourth⟩, _, ⟨rfl, fourths⟩, ⟨⟨_, window⟩, _, ⟨rfl, windows⟩, rfl, rfl⟩, rfl⟩, rfl⟩,
      rfl⟩, rfl⟩, rfl⟩, rfl⟩, rfl⟩ := pairs
    obtain ⟨climate, rfl⟩ := exists_map_of_forall fun v held => document_flag.mp (climates v held)
    obtain ⟨mode, rfl⟩ := exists_map_of_forall fun v held => document_text.mp (modes v held)
    obtain ⟨preference, rfl⟩ := exists_map_of_forall fun v held => document_text.mp (preferences v held)
    obtain ⟨first, rfl, firstFine⟩ := exists_map_and fun v held => Timer.document_iff.mp (firsts v held)
    obtain ⟨second, rfl, secondFine⟩ := exists_map_and fun v held => Timer.document_iff.mp (seconds v held)
    obtain ⟨third, rfl, thirdFine⟩ := exists_map_and fun v held => Timer.document_iff.mp (thirds v held)
    obtain ⟨fourth, rfl, fourthFine⟩ := exists_map_and fun v held => Timer.document_iff.mp (fourths v held)
    obtain ⟨window, rfl, windowFine⟩ :=
      exists_map_and fun v held => ChargingWindow.document_iff.mp (windows v held)
    exact ⟨⟨climate, mode, preference, first, second, third, fourth, window, others⟩,
      ⟨free, firstFine, secondFine, thirdFine, fourthFine, windowFine⟩, rfl⟩
  · rintro ⟨p, fine, rfl⟩
    refine ⟨_, p.extra, ?_, fine.free, rfl⟩
    have timer (t : Timer) (free : t.WellFormed numbers room) :
        Document numbers (room + 2) Timer.shape t.toJson := Timer.document_iff.mpr ⟨t, free, rfl⟩
    exact .cons (slot_map fun b _ => .flag b) (.cons (slot_map fun s _ => .text s)
      (.cons (slot_map fun s _ => .text s)
      (.cons (slot_map fun t held => timer t (fine.timer1 t held))
      (.cons (slot_map fun t held => timer t (fine.timer2 t held))
      (.cons (slot_map fun t held => timer t (fine.timer3 t held))
      (.cons (slot_map fun t held => timer t (fine.overrideTimer t held))
      (.cons (slot_map fun w held => ChargingWindow.document_iff.mpr ⟨w, fine.window w held, rfl⟩)
      .nil)))))))

/-- A weekly planner comes back from its document with all that it holds. -/
theorem WeeklyPlanner.ofJson_toJson {p : WeeklyPlanner} (fine : p.WellFormed numbers room) :
    WeeklyPlanner.ofJson p.toJson = p := by
  have slot (key : String) {value : Option Json} (declared : (WeeklyPlanner.fields.lookup key).isSome)
      (held : List.lookup key [("climatizationEnabled", p.climateEnabled.map Json.flag),
        ("chargingMode", p.chargingMode.map Json.text),
        ("chargingPreferences", p.chargingPreference.map Json.text),
        ("timer1", p.timer1.map Timer.toJson), ("timer2", p.timer2.map Timer.toJson),
        ("timer3", p.timer3.map Timer.toJson), ("overrideTimer", p.overrideTimer.map Timer.toJson),
        ("preferredChargingWindow", p.window.map ChargingWindow.toJson)] = some value) :
      p.toJson.get? key = value :=
    get?_slot (by simp) fine.free declared held
  have climate : p.toJson.flagAt "climatizationEnabled" = p.climateEnabled := by
    rw [Json.flagAt, slot _ rfl rfl]
    cases p.climateEnabled <;> rfl
  have mode : p.toJson.textAt "chargingMode" = p.chargingMode := by
    rw [Json.textAt, slot _ rfl rfl]
    cases p.chargingMode <;> rfl
  have preference : p.toJson.textAt "chargingPreferences" = p.chargingPreference := by
    rw [Json.textAt, slot _ rfl rfl]
    cases p.chargingPreference <;> rfl
  have timer (t : Timer) (free : t.WellFormed numbers room) : Timer.ofJson t.toJson = t :=
    Timer.ofJson_toJson free
  have set (t : Timer) : t.toJson ≠ .null := Json.noConfusion
  have first := recordAt_map (slot "timer1" rfl rfl) set fun t held => timer t (fine.timer1 t held)
  have second := recordAt_map (slot "timer2" rfl rfl) set fun t held => timer t (fine.timer2 t held)
  have third := recordAt_map (slot "timer3" rfl rfl) set fun t held => timer t (fine.timer3 t held)
  have fourth := recordAt_map (slot "overrideTimer" rfl rfl) set
    fun t held => timer t (fine.overrideTimer t held)
  have window := recordAt_map (slot "preferredChargingWindow" rfl rfl) (fun _ => Json.noConfusion)
    fun w held => ChargingWindow.ofJson_toJson (fine.window w held)
  have others : otherMembers WeeklyPlanner.fields p.toJson = p.extra :=
    otherMembers_setMembers rfl fine.free
  rw [WeeklyPlanner.ofJson, climate, mode, preference, first, second, third, fourth, window, others]

/-- The free members of a planner with two timers, of the timers and of its window are as they are
kept. -/
structure TwoTimesTimer.WellFormed (numbers : Number → Prop) (room : Nat) (p : TwoTimesTimer) : Prop where
  free : Free numbers (room + 2) TwoTimesTimer.fields p.extra
  timer1 : ∀ t, p.timer1 = some t → t.WellFormed numbers room
  timer2 : ∀ t, p.timer2 = some t → t.WellFormed numbers room
  window : ∀ w, p.window = some w → w.WellFormed numbers room

theorem TwoTimesTimer.fields_distinct : (TwoTimesTimer.fields.map Prod.fst).Nodup := by decide

theorem TwoTimesTimer.shape_open : TwoTimesTimer.shape.Open := by
  refine .record TwoTimesTimer.fields_distinct (by decide) ?_
  simp only [TwoTimesTimer.fields, Json.field, List.forall_mem_cons]
  exact ⟨Timer.shape_open, Timer.shape_open, ChargingWindow.shape_open, by simp⟩

/-- The documents of the shape of a planner with two timers are those that such a planner is written as. -/
theorem TwoTimesTimer.document_iff : Document numbers (room + 3) TwoTimesTimer.shape u ↔
    ∃ p : TwoTimesTimer, p.WellFormed numbers room ∧ u = p.toJson := by
  rw [TwoTimesTimer.shape, document_record TwoTimesTimer.fields_distinct]
  constructor
  · rintro ⟨slots, others, pairs, free, rfl⟩
    simp only [TwoTimesTimer.fields, Json.field, List.forall₂_cons_right_iff,
      List.forall₂_nil_right_iff] at pairs
    obtain ⟨⟨_, first⟩, _, ⟨rfl, firsts⟩, ⟨⟨_, second⟩, _, ⟨rfl, seconds⟩, ⟨⟨_, window⟩, _, ⟨rfl, windows⟩, rfl,
      rfl⟩, rfl⟩, rfl⟩ := pairs
    obtain ⟨first, rfl, firstFine⟩ := exists_map_and fun v held => Timer.document_iff.mp (firsts v held)
    obtain ⟨second, rfl, secondFine⟩ := exists_map_and fun v held => Timer.document_iff.mp (seconds v held)
    obtain ⟨window, rfl, windowFine⟩ :=
      exists_map_and fun v held => ChargingWindow.document_iff.mp (windows v held)
    exact ⟨⟨first, second, window, others⟩, ⟨free, firstFine, secondFine, windowFine⟩, rfl⟩
  · rintro ⟨p, fine, rfl⟩
    refine ⟨_, p.extra, ?_, fine.free, rfl⟩
    exact .cons (slot_map fun t held => Timer.document_iff.mpr ⟨t, fine.timer1 t held, rfl⟩)
      (.cons (slot_map fun t held => Timer.document_iff.mpr ⟨t, fine.timer2 t held, rfl⟩)
      (.cons (slot_map fun w held => ChargingWindow.document_iff.mpr ⟨w, fine.window w held, rfl⟩)
      .nil))

/-- A planner with two timers comes back from its document with all that it holds. -/
theorem TwoTimesTimer.ofJson_toJson {p : TwoTimesTimer} (fine : p.WellFormed numbers room) :
    TwoTimesTimer.ofJson p.toJson = p := by
  have slot (key : String) {value : Option Json} (declared : (TwoTimesTimer.fields.lookup key).isSome)
      (held : List.lookup key [("timer1", p.timer1.map Timer.toJson),
        ("timer2", p.timer2.map Timer.toJson),
        ("preferredChargingWindow", p.window.map ChargingWindow.toJson)] = some value) :
      p.toJson.get? key = value :=
    get?_slot (by simp) fine.free declared held
  have set (t : Timer) : t.toJson ≠ .null := Json.noConfusion
  have first := recordAt_map (slot "timer1" rfl rfl) set
    fun t held => Timer.ofJson_toJson (fine.timer1 t held)
  have second := recordAt_map (slot "timer2" rfl rfl) set
    fun t held => Timer.ofJson_toJson (fine.timer2 t held)
  have window := recordAt_map (slot "preferredChargingWindow" rfl rfl) (fun _ => Json.noConfusion)
    fun w held => ChargingWindow.ofJson_toJson (fine.window w held)
  have others : otherMembers TwoTimesTimer.fields p.toJson = p.extra :=
    otherMembers_setMembers rfl fine.free
  rw [TwoTimesTimer.ofJson, first, second, window, others]

end VehicleLink
