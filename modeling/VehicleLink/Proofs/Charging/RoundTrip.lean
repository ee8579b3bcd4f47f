import VehicleLink.Charging.Edit
import VehicleLink.Proofs.Charging.Planners
import VehicleLink.Proofs.Json.Records

namespace VehicleLink

open Json (Ascending Document)

variable {numbers : Number → Prop}

/-- The room that is left inside the weekdays of a timer: the list, the timer, the planner and the document
are around it. -/
def innerRoom : Nat := 123

namespace Plan

/-- The free members of a planner are as they are kept. -/
def WellFormed (numbers : Number → Prop) : Plan → Prop
  | .weekly p => p.WellFormed numbers innerRoom
  | .twoTimes p => p.WellFormed numbers innerRoom
  | .empty => True

/-- The planner in use is not among the other members, and no planner there goes before it. -/
def Alone (members : List (String × Json)) : Plan → Prop
  | .weekly _ => members.lookup ChargeProfile.weeklyKey = none
  | .twoTimes _ => ChargeProfile.plannerAt? ChargeProfile.weeklyKey members = none ∧
      members.lookup ChargeProfile.twoTimesKey = none
  | .empty => ChargeProfile.plannerAt? ChargeProfile.weeklyKey members = none ∧
      ChargeProfile.plannerAt? ChargeProfile.twoTimesKey members = none

theorem WellFormed.mapTimer {plan : Plan} (fine : plan.WellFormed numbers) {f : Timer → Timer}
    (keeps : ∀ t, (f t).extra = t.extra) (timer : TimerId) :
    (plan.mapTimer f timer).WellFormed numbers := by
  have mapped {held : Option Timer} (each : ∀ t, held = some t → t.WellFormed numbers innerRoom) :
      ∀ t, held.map f = some t → t.WellFormed numbers innerRoom := by
    intro t value
    obtain ⟨old, here, rfl⟩ := Option.map_eq_some_iff.mp value
    rw [Timer.WellFormed, keeps]
    exact each old here
  cases plan with
  | weekly p =>
    obtain ⟨free, timer1, timer2, timer3, overrideTimer, window⟩ := fine
    cases timer with
    | timer1 => exact ⟨free, mapped timer1, timer2, timer3, overrideTimer, window⟩
    | timer2 => exact ⟨free, timer1, mapped timer2, timer3, overrideTimer, window⟩
    | timer3 => exact ⟨free, timer1, timer2, mapped timer3, overrideTimer, window⟩
    | override => exact ⟨free, timer1, timer2, timer3, mapped overrideTimer, window⟩
  | twoTimes p =>
    obtain ⟨free, timer1, timer2, window⟩ := fine
    cases timer with
    | timer1 => exact ⟨free, mapped timer1, timer2, window⟩
    | timer2 => exact ⟨free, timer1, mapped timer2, window⟩
    | timer3 | override => exact ⟨free, timer1, timer2, window⟩
  | empty => cases timer <;> exact trivial

theorem WellFormed.mapWindow {plan : Plan} (fine : plan.WellFormed numbers)
    {f : ChargingWindow → ChargingWindow} (keeps : ∀ w, (f w).extra = w.extra) :
    (plan.mapWindow f).WellFormed numbers := by
  have mapped {held : Option ChargingWindow} (each : ∀ w, held = some w → w.WellFormed numbers innerRoom) :
      ∀ w, held.map f = some w → w.WellFormed numbers innerRoom := by
    intro w value
    obtain ⟨old, here, rfl⟩ := Option.map_eq_some_iff.mp value
    rw [ChargingWindow.WellFormed, keeps]
    exact each old here
  cases plan with
  | weekly p => exact { fine with window := mapped fine.window }
  | twoTimes p => exact { fine with window := mapped fine.window }
  | empty => exact trivial

theorem WellFormed.mapTimeText {plan : Plan} (fine : plan.WellFormed numbers) (f : Option String → String)
    (slot : TimeSlot) : (plan.mapTimeText f slot).WellFormed numbers := by
  cases slot with
  | windowStart | windowEnd =>
    refine fine.mapWindow ?_
    intro w
    rfl
  | departure timer =>
    refine fine.mapTimer ?_ timer
    intro t
    rfl

theorem alone_mapTimer {members : List (String × Json)} {plan : Plan} (f : Timer → Timer)
    (timer : TimerId) : (plan.mapTimer f timer).Alone members ↔ plan.Alone members := by
  cases plan <;> cases timer <;> rfl

theorem alone_mapWindow {members : List (String × Json)} {plan : Plan}
    (f : ChargingWindow → ChargingWindow) : (plan.mapWindow f).Alone members ↔ plan.Alone members := by
  cases plan <;> rfl

theorem alone_mapWeekly {members : List (String × Json)} {plan : Plan} (f : WeeklyPlanner → WeeklyPlanner) :
    (plan.mapWeekly f).Alone members ↔ plan.Alone members := by
  cases plan <;> rfl

theorem alone_mapTimeText {members : List (String × Json)} {plan : Plan} (f : Option String → String)
    (slot : TimeSlot) : (plan.mapTimeText f slot).Alone members ↔ plan.Alone members := by
  cases slot with
  | windowStart => exact alone_mapWindow _
  | windowEnd => exact alone_mapWindow _
  | departure timer => exact alone_mapTimer _ timer

end Plan

namespace ChargeProfile

/-- What holds of every profile that is in use: its planner is as it is kept and stands alone, and the
other members are sorted and within bounds. -/
structure WellFormed (numbers : Number → Prop) (p : ChargeProfile) : Prop where
  plan : p.plan.WellFormed numbers
  alone : p.plan.Alone p.extra
  sorted : Ascending p.extra
  ascends : ∀ m ∈ p.extra, m.2.Ascends
  bounded : ∀ m ∈ p.extra, m.2.Bounded numbers (innerRoom + 3)

/-- An edit keeps a profile well-formed. -/
theorem WellFormed.edit {p : ChargeProfile} (fine : p.WellFormed numbers) (e : ChargeEdit) :
    (p.edit e).WellFormed numbers := by
  have mapPlan {f : Plan → Plan} (plan : (f p.plan).WellFormed numbers) (alone : (f p.plan).Alone p.extra) :
      (p.mapPlan f).WellFormed numbers := ⟨plan, alone, fine.sorted, fine.ascends, fine.bounded⟩
  cases e with
  | time f value =>
    show (setTime f value p).WellFormed numbers
    unfold setTime
    split
    · exact ⟨fine.plan.mapTimeText _ _, (Plan.alone_mapTimeText _ _).mpr fine.alone, fine.sorted,
        fine.ascends, fine.bounded⟩
    · exact fine
  | enabled timer on =>
    refine mapPlan (fine.plan.mapTimer ?_ timer) ((Plan.alone_mapTimer _ _).mpr fine.alone)
    intro t
    rfl
  | day timer day selected =>
    show (setDay timer day selected p).WellFormed numbers
    unfold setDay
    split
    · have keeps (t : Timer) : (t.setDay day selected).extra = t.extra := by
        unfold Timer.setDay
        split <;> rfl
      exact mapPlan (fine.plan.mapTimer keeps timer) ((Plan.alone_mapTimer _ _).mpr fine.alone)
    · exact fine
  | climate on | mode text | preference text =>
    refine mapPlan ?_ ((Plan.alone_mapWeekly _).mpr fine.alone)
    have plan := fine.plan
    cases kind : p.plan with
    | weekly planner =>
      rw [kind] at plan
      exact { plan with }
    | twoTimes planner =>
      rw [kind] at plan
      exact plan
    | empty => exact trivial

theorem WellFormed.edits {p : ChargeProfile} (fine : p.WellFormed numbers) (es : List ChargeEdit) :
    (p.edits es).WellFormed numbers := by
  induction es generalizing p with
  | nil => exact fine
  | cons e es ih => exact ih (fine.edit e)

section Rereading

variable {p : ChargeProfile} {members extra : List (String × Json)} {key : String} {v : Json}

/-- Sorted members without one of them, put back. -/
theorem erase_insert (sorted : Ascending extra) (absent : extra.lookup key = none) :
    Json.erase key (Json.insert key v extra) = extra := by
  refine Ascending.ext sorted.insert.erase sorted fun k => ?_
  rw [Json.lookup_erase, Json.lookup_insert]
  by_cases same : k = key
  · rw [if_pos same, same, absent]
  · rw [if_neg same, if_neg same]

theorem insert_erase (sorted : Ascending members) :
    Json.insert key v (Json.erase key members) = Json.insert key v members := by
  refine Ascending.ext sorted.erase.insert sorted.insert fun k => ?_
  rw [Json.lookup_insert, Json.lookup_insert, Json.lookup_erase]
  split <;> rfl

/-- The normal form of an object of sorted members with one more in front. -/
theorem normal_cons (sorted : Ascending extra) (ascends : ∀ m ∈ extra, m.2.Ascends)
    (absent : extra.lookup key = none) :
    (Json.object ((key, v) :: extra)).normal = .object (Json.insert key v.normal extra) := by
  have distinct : (((key, v) :: extra).map Prod.fst).Nodup := Json.distinct_cons.mpr ⟨absent, sorted.distinct⟩
  rw [Json.normal]
  refine congrArg Json.object (Ascending.ext (Ascending.insertAll List.Pairwise.nil) sorted.insert fun k => ?_)
  rw [Json.lookup_insertAll (by rwa [Json.keys_normalMembers]), Json.lookup_normalMembers,
    Json.lookup_cons_ite, Json.lookup_insert, List.lookup_nil, Option.or_none]
  split
  · rfl
  · exact Json.lookup_ascends ascends k

theorem plannerAt?_insert {w : Json} (set : w ≠ .null) : plannerAt? key (Json.insert key w extra) = some w := by
  unfold plannerAt?
  rw [Json.lookup_insert, if_pos rfl]
  split
  · rename_i none
    cases none
  · rename_i null
    exact absurd (Option.some.inj null) set
  · rename_i same
    exact same.symm

theorem plannerAt?_insert_other {k : String} {w : Json} (other : k ≠ key) :
    plannerAt? k (Json.insert key w extra) = plannerAt? k extra := by
  unfold plannerAt?
  rw [Json.lookup_insert, if_neg other]

/-- A planner is read back from the normal form of its document. -/
theorem readPlanner_normal {shape : Json.Shape} (opened : shape.Open)
    (document : Document numbers (innerRoom + 3) shape v) : readPlanner key shape v.normal = .ok v := by
  rw [readPlanner, Json.readValue, document.read opened (by decide)]
  rfl

/-- The members that a profile is read from once it has been sent. -/
theorem WellFormed.ofMembers_normal (fine : p.WellFormed numbers) :
    ∃ members, p.toJson.normal = .object members ∧ ofMembers members = .ok (ofPlan p.plan p.extra) := by
  obtain ⟨plan, extra, times⟩ := p
  obtain ⟨held, alone, sorted, ascends, bounded⟩ := fine
  dsimp only at sorted ascends alone
  cases plan with
  | weekly planner =>
    have document : Document numbers (innerRoom + 3) WeeklyPlanner.shape planner.toJson :=
      WeeklyPlanner.document_iff.mpr ⟨planner, held, rfl⟩
    refine ⟨_, normal_cons sorted ascends alone, ?_⟩
    rw [ofMembers, plannerAt?_insert document.normal_ne_null]
    simp only
    rw [readPlanner_normal WeeklyPlanner.shape_open document, erase_insert sorted alone, Except.map,
      WeeklyPlanner.ofJson_toJson held]
  | twoTimes planner =>
    have document : Document numbers (innerRoom + 3) TwoTimesTimer.shape planner.toJson :=
      TwoTimesTimer.document_iff.mpr ⟨planner, held, rfl⟩
    obtain ⟨first, alone⟩ := alone
    refine ⟨_, normal_cons sorted ascends alone, ?_⟩
    rw [ofMembers, plannerAt?_insert_other (by decide), first, plannerAt?_insert document.normal_ne_null]
    simp only
    rw [readPlanner_normal TwoTimesTimer.shape_open document, erase_insert sorted alone, Except.map,
      TwoTimesTimer.ofJson_toJson held]
  | empty =>
    have ascends : (Json.object extra).Ascends := Json.ascends_object.mpr ⟨sorted, ascends⟩
    refine ⟨extra, ascends.normal_eq, ?_⟩
    rw [ofMembers, alone.1, alone.2]

theorem WellFormed.toJson_bounded (fine : p.WellFormed numbers) :
    p.toJson.Bounded numbers Json.depthLimit := by
  obtain ⟨plan, extra, times⟩ := p
  obtain ⟨held, alone, sorted, ascends, bounded⟩ := fine
  cases plan with
  | weekly planner =>
    have document := WeeklyPlanner.document_iff.mpr ⟨planner, held, rfl⟩
    exact Json.bounded_object.mpr (List.forall_mem_cons.mpr ⟨document.bounded, bounded⟩)
  | twoTimes planner =>
    have document := TwoTimesTimer.document_iff.mpr ⟨planner, held, rfl⟩
    exact Json.bounded_object.mpr (List.forall_mem_cons.mpr ⟨document.bounded, bounded⟩)
  | empty => exact Json.bounded_object.mpr bounded

/-- No object of a profile that is sent has a repeated key. -/
theorem WellFormed.toJson_distinct (fine : p.WellFormed numbers) :
    ∀ members, .object members ∈ p.toJson.parts → (members.map Prod.fst).Nodup := by
  obtain ⟨plan, extra, times⟩ := p
  obtain ⟨held, alone, sorted, ascends, bounded⟩ := fine
  have inactive (m : String × Json) (member : m ∈ extra) (inner : List (String × Json))
      (part : .object inner ∈ m.2.parts) : (inner.map Prod.fst).Nodup :=
    (ascends m member inner part).distinct
  have planned {key : String} {v : Json} (absent : extra.lookup key = none)
      (active : ∀ inner, .object inner ∈ v.parts → (inner.map Prod.fst).Nodup) :
      ∀ members, .object members ∈ (Json.object ((key, v) :: extra)).parts →
        (members.map Prod.fst).Nodup := by
    intro members part
    rcases Json.mem_parts_object.mp part with same | ⟨m, member, part⟩
    · cases same
      exact Json.distinct_cons.mpr ⟨absent, sorted.distinct⟩
    · rcases List.mem_cons.mp member with rfl | member
      · exact active members part
      · exact inactive m member members part
  cases plan with
  | weekly planner =>
    exact planned alone (Document.distinct WeeklyPlanner.shape_open
      (WeeklyPlanner.document_iff.mpr ⟨planner, held, rfl⟩))
  | twoTimes planner =>
    exact planned alone.2 (Document.distinct TwoTimesTimer.shape_open
      (TwoTimesTimer.document_iff.mpr ⟨planner, held, rfl⟩))
  | empty =>
    intro members part
    rcases Json.mem_parts_object.mp part with same | ⟨m, member, part⟩
    · cases same
      exact sorted.distinct
    · exact inactive m member members part

/-- A well-formed profile whose numbers satisfy another condition as well. -/
theorem WellFormed.satisfies {numbers' : Number → Prop} (fine : p.WellFormed numbers)
    (satisfied : ∀ n, .number n ∈ p.toJson.parts → numbers' n) : p.WellFormed numbers' := by
  obtain ⟨plan, extra, times⟩ := p
  obtain ⟨held, alone, sorted, ascends, bounded⟩ := fine
  have inactive {members : List (String × Json)} (inside : ∀ m ∈ extra, m ∈ members)
      (satisfied : ∀ n, .number n ∈ (Json.object members).parts → numbers' n) :
      ∀ m ∈ extra, m.2.Bounded numbers' (innerRoom + 3) := by
    intro m member
    refine ⟨(bounded m member).1, fun n part => satisfied n ?_⟩
    exact Json.mem_parts_object.mpr (Or.inr ⟨m, inside m member, part⟩)
  cases plan with
  | weekly planner =>
    have document := (WeeklyPlanner.document_iff.mpr ⟨planner, held, rfl⟩).satisfies fun n part =>
      satisfied n (Json.mem_parts_object.mpr (Or.inr ⟨_, List.mem_cons_self, part⟩))
    obtain ⟨planner', held', same⟩ := WeeklyPlanner.document_iff.mp document
    have back := WeeklyPlanner.ofJson_toJson held
    rw [same, WeeklyPlanner.ofJson_toJson held'] at back
    exact ⟨back ▸ held', alone, sorted, ascends,
      inactive (fun m member => List.mem_cons_of_mem _ member) satisfied⟩
  | twoTimes planner =>
    have document := (TwoTimesTimer.document_iff.mpr ⟨planner, held, rfl⟩).satisfies fun n part =>
      satisfied n (Json.mem_parts_object.mpr (Or.inr ⟨_, List.mem_cons_self, part⟩))
    obtain ⟨planner', held', same⟩ := TwoTimesTimer.document_iff.mp document
    have back := TwoTimesTimer.ofJson_toJson held
    rw [same, TwoTimesTimer.ofJson_toJson held'] at back
    exact ⟨back ▸ held', alone, sorted, ascends,
      inactive (fun m member => List.mem_cons_of_mem _ member) satisfied⟩
  | empty => exact ⟨trivial, alone, sorted, ascends, inactive (fun m member => member) satisfied⟩

/-- What is sent for a well-formed profile is read back with the same planner and the same other
members. -/
theorem WellFormed.ofText_toText (fine : p.WellFormed Number.ReadsBack) :
    ofText p.toText = .ok (ofPlan p.plan p.extra) := by
  obtain ⟨members, normal, read⟩ := fine.ofMembers_normal
  rw [ofText, toText, Json.ofText_toText fine.toJson_bounded, normal]
  exact read

end Rereading

/-- The members of a document without those declared members of the planner in use that are `null`. -/
def withoutUnset (members : List (String × Json)) : List (String × Json) :=
  match plannerAt? weeklyKey members with
  | some v => Json.insert weeklyKey (v.dropUnset WeeklyPlanner.shape) members
  | none =>
    match plannerAt? twoTimesKey members with
    | some v => Json.insert twoTimesKey (v.dropUnset TwoTimesTimer.shape) members
    | none => members

section Reading

variable {p : ChargeProfile} {members : List (String × Json)} {key : String} {u v : Json}

theorem plannerAt?_eq_some : plannerAt? key members = some v ↔ members.lookup key = some v ∧ v ≠ .null :=
  Json.given_eq_some

theorem plannerAt?_erase_other {k : String} (other : k ≠ key) :
    plannerAt? k (Json.erase key members) = plannerAt? k members := by
  unfold plannerAt?
  rw [Json.lookup_erase, if_neg other]

/-- The planner at a member is read as a document: as it is, but for declared members that are `null`. -/
theorem readPlanner_document {shape : Json.Shape} (opened : shape.Open) (ascends : ∀ m ∈ members, m.2.Ascends)
    (bounded : ∀ m ∈ members, m.2.Bounded numbers (innerRoom + 3)) (here : plannerAt? key members = some v)
    (read : readPlanner key shape v = .ok u) :
    Document numbers (innerRoom + 3) shape u ∧ u.normal = v.dropUnset shape := by
  obtain ⟨found, set⟩ := plannerAt?_eq_some.mp here
  have member := Json.mem_of_lookup found
  have value : Json.readValue shape v = .ok u := by
    rw [readPlanner] at read
    cases value : Json.readValue shape v with
    | error problem =>
      rw [value] at read
      cases read
    | ok w =>
      rw [value] at read
      cases read
      rfl
  exact Json.read_toTree opened (by decide) (ascends _ member) (bounded _ member) set value

/-- A profile that is read from sorted members is well-formed and has the times of its planner. What is
sent for it has the members it was read from, but for declared ones of its planner that are `null`. -/
theorem ofMembers_spec (sorted : Ascending members) (ascends : ∀ m ∈ members, m.2.Ascends)
    (bounded : ∀ m ∈ members, m.2.Bounded numbers (innerRoom + 3)) (read : ofMembers members = .ok p) :
    p.WellFormed numbers ∧ p = ofPlan p.plan p.extra ∧ p.toJson.normal = .object (withoutUnset members) := by
  have without (key : String) : Ascending (Json.erase key members) ∧
      (∀ m ∈ Json.erase key members, m.2.Ascends) ∧
      ∀ m ∈ Json.erase key members, m.2.Bounded numbers (innerRoom + 3) :=
    ⟨sorted.erase, fun m member => ascends m (List.mem_of_mem_filter member),
      fun m member => bounded m (List.mem_of_mem_filter member)⟩
  have absent (key : String) : (Json.erase key members).lookup key = none := by
    rw [Json.lookup_erase, if_pos rfl]
  unfold ofMembers at read
  unfold withoutUnset
  cases weekly : plannerAt? weeklyKey members with
  | some v =>
    rw [weekly] at read
    simp only at read ⊢
    cases value : readPlanner weeklyKey WeeklyPlanner.shape v with
    | error problem =>
      rw [value] at read
      cases read
    | ok u =>
      rw [value] at read
      cases read
      obtain ⟨document, normal⟩ := readPlanner_document WeeklyPlanner.shape_open ascends bounded weekly value
      obtain ⟨planner, fine, rfl⟩ := WeeklyPlanner.document_iff.mp document
      obtain ⟨sorted', ascends', bounded'⟩ := without weeklyKey
      dsimp only
      rw [WeeklyPlanner.ofJson_toJson fine]
      refine ⟨⟨fine, absent weeklyKey, sorted', ascends', bounded'⟩, rfl, ?_⟩
      rw [← normal, ← insert_erase sorted]
      exact normal_cons sorted' ascends' (absent weeklyKey)
  | none =>
    rw [weekly] at read
    simp only at read ⊢
    cases twoTimes : plannerAt? twoTimesKey members with
    | some v =>
      rw [twoTimes] at read
      simp only at read ⊢
      cases value : readPlanner twoTimesKey TwoTimesTimer.shape v with
      | error problem =>
        rw [value] at read
        cases read
      | ok u =>
        rw [value] at read
        cases read
        obtain ⟨document, normal⟩ :=
          readPlanner_document TwoTimesTimer.shape_open ascends bounded twoTimes value
        obtain ⟨planner, fine, rfl⟩ := TwoTimesTimer.document_iff.mp document
        obtain ⟨sorted', ascends', bounded'⟩ := without twoTimesKey
        -- A weekly planner that is null stays among the members, and must not come first when read again.
        have first : plannerAt? weeklyKey (Json.erase twoTimesKey members) = none := by
          rw [plannerAt?_erase_other (by decide), weekly]
        dsimp only
        rw [TwoTimesTimer.ofJson_toJson fine]
        refine ⟨⟨fine, ⟨first, absent twoTimesKey⟩, sorted', ascends', bounded'⟩, rfl, ?_⟩
        rw [← normal, ← insert_erase sorted]
        exact normal_cons sorted' ascends' (absent twoTimesKey)
    | none =>
      rw [twoTimes] at read
      cases read
      refine ⟨⟨trivial, ⟨weekly, twoTimes⟩, sorted, ascends, bounded⟩, rfl, ?_⟩
      exact (Json.ascends_object.mpr ⟨sorted, ascends⟩).normal_eq

/-- Every profile that has been read is well-formed. -/
theorem ofText_spec {s : String} (read : ofText s = .ok p) :
    ∃ members, Json.ofText s = .ok (.object members) ∧ p.WellFormed Number.InRange ∧
      p = ofPlan p.plan p.extra ∧ p.toJson.normal = .object (withoutUnset members) := by
  unfold ofText at read
  split at read
  · cases read
  · rename_i members document
    obtain ⟨sorted, ascends⟩ := Json.ascends_object.mp (Json.ofText_ascends document)
    have bounded := Json.bounded_object.mp (Json.ofText_bounded document)
    exact ⟨members, document, ofMembers_spec sorted ascends bounded read⟩
  · cases read

/-- When the floating-point numbers of a profile are read back, so are all its numbers. -/
theorem WellFormed.readsBack (fine : p.WellFormed Number.InRange)
    (reals : ∀ x, .real x ∈ p.toJson.parts → Number.ReadsBack (.real x)) :
    p.WellFormed Number.ReadsBack := by
  refine fine.satisfies fun n part => ?_
  cases n with
  | whole n => exact Number.readsBack_whole (fine.toJson_bounded.2 _ part)
  | real x => exact reals x part

end Reading

/-- A weekly planner with one timer, in a document with a `null` of either kind. -/
def sample : ChargeProfile :=
  ofPlan (.weekly { timer1 := some { departureTime := some "07:30", extra := [("x", .real 1.5)] } })
    [(twoTimesKey, .null)]

/-- The members of the document of the sample, sorted. -/
def sampleMembers : List (String × Json) :=
  [(twoTimesKey, .null), (weeklyKey, .object [("timer1", .object [
    ("departureTime", .text "07:30"), ("weekdays", .null), ("x", .real 1.5)])])]

/-- The text that the sample comes from. -/
def sampleText : String :=
  "\x7b\"twoTimesTimer\":null,\"weeklyPlanner\":\x7b\"timer1\":" ++
    "\x7b\"departureTime\":\"07:30\",\"weekdays\":null,\"x\":1.5\x7d\x7d\x7d"

theorem sample_reals : ∀ x, .real x ∈ sample.toJson.parts → Number.ReadsBack (.real x) := by
  intro x part
  have only : x = 1.5 := by
    simpa [sample, ofPlan, toJson, WeeklyPlanner.toJson, Timer.toJson, setMembers, Json.parts,
      Json.partsOfMembers, Json.real] using part
  rw [only]
  exact Number.readsBack_three_halves

theorem sample_document : Json.ofText sampleText = .ok (.object sampleMembers) := by
  have text : (Json.object sampleMembers).toText = sampleText := by decide +kernel
  have bounded : (Json.object sampleMembers).Bounded Number.ReadsBack Json.depthLimit := by
    refine ⟨by decide, fun n part => ?_⟩
    have only : n = .real 1.5 := by
      simpa [sampleMembers, Json.parts, Json.partsOfMembers, Json.real] using part
    rw [only]
    exact Number.readsBack_three_halves
  rw [← text, Json.ofText_toText bounded]
  rfl

/-- The sample is what its text is read as. -/
theorem sample_read : ofText sampleText = .ok sample := by
  rw [ofText, sample_document]
  rfl

/-- What is sent for a profile, after whatever edits, is read back as the same profile: the same planner
with all that it holds, and the same other members. Nothing that is sent has a repeated key. -/
theorem ofText_toText_edits {s : String} {p : ChargeProfile} (read : ofText s = .ok p)
    (reals : ∀ x, .real x ∈ p.toJson.parts → Number.ReadsBack (.real x)) (es : List ChargeEdit) :
    (∃ q, ofText (p.edits es).toText = .ok q ∧ q.plan = (p.edits es).plan ∧ q.extra = (p.edits es).extra) ∧
      ∀ members, .object members ∈ (p.edits es).toJson.parts → (members.map Prod.fst).Nodup := by
  obtain ⟨_, _, fine, _⟩ := ofText_spec read
  have edited := (fine.readsBack reals).edits es
  exact ⟨⟨_, edited.ofText_toText, rfl, rfl⟩, edited.toJson_distinct⟩

/-- The sample is sent with an edit and read back. -/
theorem ofText_toText_edits_sample :
    ofText sampleText = .ok sample ∧ (∀ x, .real x ∈ sample.toJson.parts → Number.ReadsBack (.real x)) ∧
      let edited := sample.edits [.time ⟨.departure .timer1, .hour⟩ 6, .day .timer1 .monday true]
      (∃ q, ofText edited.toText = .ok q ∧ q.plan = edited.plan ∧ q.extra = edited.extra) ∧
        ∀ members, .object members ∈ edited.toJson.parts → (members.map Prod.fst).Nodup :=
  ⟨sample_read, sample_reals, ofText_toText_edits sample_read sample_reals _⟩

/-- A profile that is sent as it came is the document that was received, but for declared members of its
planner that are `null`. -/
theorem ofText_toText_unedited {s : String} {members : List (String × Json)} {p : ChargeProfile}
    (document : Json.ofText s = .ok (.object members)) (read : ofText s = .ok p)
    (reals : ∀ x, .real x ∈ p.toJson.parts → Number.ReadsBack (.real x)) :
    Json.ofText p.toText = .ok (.object (withoutUnset members)) := by
  obtain ⟨members', document', fine, _, normal⟩ := ofText_spec read
  rw [document] at document'
  cases document'
  rw [toText, Json.ofText_toText (fine.readsBack reals).toJson_bounded, normal]

/-- The sample is sent without the two members that are `null`. -/
theorem ofText_toText_unedited_sample :
    Json.ofText sampleText = .ok (.object sampleMembers) ∧ ofText sampleText = .ok sample ∧
      (∀ x, .real x ∈ sample.toJson.parts → Number.ReadsBack (.real x)) ∧
      Json.ofText sample.toText = .ok (.object (withoutUnset sampleMembers)) :=
  ⟨sample_document, sample_read, sample_reals,
    ofText_toText_unedited sample_document sample_read sample_reals⟩

end ChargeProfile

end VehicleLink
