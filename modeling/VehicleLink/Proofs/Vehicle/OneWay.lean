import VehicleLink.Proofs.Vehicle.NextService

namespace VehicleLink

open Calendar

section Places

variable {α : Type} [LinearOrder α]

/-- The first place in a list where a service is due at the least of all, and below a bound. -/
structure FirstLeast (due? : ServiceEntry → Option α) (bound : α) (services : List ServiceEntry) (i : Nat)
    (least : α) : Prop where
  there : (services[i]?).bind due? = some least
  below : least < bound
  minimal : ∀ e ∈ services, ∀ v ∈ due? e, least ≤ v
  leftmost : ∀ j < i, ∀ v ∈ (services[j]?).bind due?, least < v

/-- What a running minimum with the place it comes from is after some services. Nothing below the bound has been
seen as long as there is no place. -/
inductive Tracked (due? : ServiceEntry → Option α) (bound : α) (services : List ServiceEntry) :
    Option Nat → α → Prop
  | start (nothing : ∀ e ∈ services, ∀ v ∈ due? e, bound ≤ v) : Tracked due? bound services none bound
  | found {i : Nat} {least : α} (first : FirstLeast due? bound services i least) :
      Tracked due? bound services (some i) least

variable {due? : ServiceEntry → Option α} {bound least v w : α} {services : List ServiceEntry} {e : ServiceEntry}
  {i j : Nat} {place : Option Nat}

theorem FirstLeast.lt_length (first : FirstLeast due? bound services i least) : i < services.length := by
  obtain ⟨e, there, _⟩ := Option.bind_eq_some_iff.mp first.there
  exact (List.getElem?_eq_some_iff.mp there).1

theorem FirstLeast.exists_mem (first : FirstLeast due? bound services i least) :
    ∃ e ∈ services, due? e = some least := by
  obtain ⟨e, there, due⟩ := Option.bind_eq_some_iff.mp first.there
  exact ⟨e, List.mem_of_getElem? there, due⟩

/-- There is one such place at most. -/
theorem FirstLeast.unique (first : FirstLeast due? bound services i v)
    (first' : FirstLeast due? bound services j w) : i = j := by
  obtain ⟨e, member, due⟩ := first.exists_mem
  obtain ⟨e', member', due'⟩ := first'.exists_mem
  have same : v = w := le_antisymm (first.minimal e' member' w due') (first'.minimal e member v due)
  subst same
  rcases lt_trichotomy i j with before | same | behind
  · exact absurd (first'.leftmost i before v first.there) (lt_irrefl v)
  · exact same
  · exact absurd (first.leftmost j behind v first'.there) (lt_irrefl v)

theorem Tracked.le (tracked : Tracked due? bound services place least) :
    ∀ e ∈ services, ∀ v ∈ due? e, least ≤ v := by
  cases tracked with
  | start nothing => exact nothing
  | found first => exact first.minimal

theorem Tracked.le_bound (tracked : Tracked due? bound services place least) : least ≤ bound := by
  cases tracked with
  | start => exact le_rfl
  | found first => exact first.below.le

/-- A service that is due at less becomes the place of the minimum. -/
theorem Tracked.better (tracked : Tracked due? bound services place least) (due : due? e = some v)
    (less : v < least) : Tracked due? bound (services ++ [e]) (some services.length) v := by
  refine .found ⟨by simpa using due, less.trans_le tracked.le_bound, ?_, ?_⟩
  · refine List.forall_mem_append.mpr ⟨fun x member w due' => (less.trans_le (tracked.le x member w due')).le, ?_⟩
    intro x member w due'
    rw [List.mem_singleton.mp member, Option.mem_def, due] at due'
    exact (Option.some.inj due').le
  · intro j before w there
    rw [List.getElem?_append_left before] at there
    obtain ⟨x, here, due'⟩ := Option.bind_eq_some_iff.mp there
    exact less.trans_le (tracked.le x (List.mem_of_getElem? here) w due')

/-- A service that is due at no less changes nothing. -/
theorem Tracked.other (tracked : Tracked due? bound services place least) (worse : ∀ v ∈ due? e, least ≤ v) :
    Tracked due? bound (services ++ [e]) place least := by
  have minimal : ∀ x ∈ services ++ [e], ∀ v ∈ due? x, least ≤ v :=
    List.forall_mem_append.mpr ⟨tracked.le, by simpa using worse⟩
  cases tracked with
  | start => exact .start minimal
  | found first =>
    have long := first.lt_length
    refine .found ⟨?_, first.below, minimal, fun j before => ?_⟩
    · rw [List.getElem?_append_left long]
      exact first.there
    · rw [List.getElem?_append_left (before.trans long)]
      exact first.leftmost j before

/-- The place of a running minimum is the first one with the least value. -/
theorem Tracked.place_eq_some_iff (tracked : Tracked due? bound services place least) :
    place = some i ↔ ∃ v, FirstLeast due? bound services i v := by
  cases tracked with
  | start nothing =>
    refine iff_of_false nofun fun ⟨v, first⟩ => ?_
    obtain ⟨e, member, due⟩ := first.exists_mem
    exact absurd first.below (not_lt.mpr (nothing e member v due))
  | found first =>
    refine ⟨fun same => ?_, fun ⟨v, first'⟩ => congrArg some (first.unique first')⟩
    cases same
    exact ⟨_, first⟩

/-- A running minimum has no place exactly if no service is due below the bound. -/
theorem Tracked.place_eq_none_iff (tracked : Tracked due? bound services place least) :
    place = none ↔ ∀ e ∈ services, ∀ v ∈ due? e, bound ≤ v := by
  cases tracked with
  | start nothing => exact iff_of_true rfl nothing
  | found first =>
    refine iff_of_false nofun fun nothing => ?_
    obtain ⟨e, member, due⟩ := first.exists_mem
    exact absurd first.below (not_lt.mpr (nothing e member _ due))

theorem Tracked.lt_length (tracked : Tracked due? bound services place least) : ∀ i ∈ place, i < services.length := by
  cases tracked with
  | start => simp
  | found first => simpa using first.lt_length

end Places

section Later

variable {n : Nat} {p q : Option Nat}

theorem max_some_left (before : ∀ j ∈ q, j < n) : max (some n) q = some n := by
  cases q with
  | none => rfl
  | some j => exact congrArg some (max_eq_left (before j rfl).le)

theorem max_some_right (before : ∀ i ∈ p, i < n) : max p (some n) = some n := by
  cases p with
  | none => rfl
  | some i => exact congrArg some (max_eq_right (before i rfl).le)

theorem lt_of_mem_max (before : ∀ i ∈ p, i < n) (before' : ∀ j ∈ q, j < n) : ∀ k ∈ max p q, k < n := by
  cases p with
  | none => simpa using before'
  | some i =>
    cases q with
    | none => exact before
    | some j => simpa using ⟨before i rfl, before' j rfl⟩

end Later

/-- Each bound is a running minimum of its own, and the service chosen is the one that has changed a bound last. -/
theorem among_tracked (now : Moment) (services : List ServiceEntry)
    (single : ∀ e ∈ services, e.dueMileage? = none ∨ e.dueMoment? = none) : ∃ p q,
    Tracked ServiceEntry.dueMileage? farthest services p (ServiceChoice.among now services).mileage ∧
    Tracked ServiceEntry.dueMoment? (serviceHorizon now) services q (ServiceChoice.among now services).moment ∧
    (ServiceChoice.among now services).chosen = (max p q).bind (services[·]?) := by
  -- A service at the end that is better changes one bound only, and its place is later than both places so far.
  induction services using List.reverseRecOn with
  | nil => exact ⟨none, none, .start (by simp), .start (by simp), rfl⟩
  | append_singleton services e ih =>
    obtain ⟨single, own⟩ := List.forall_mem_append.mp single
    have own : e.dueMileage? = none ∨ e.dueMoment? = none := by simpa using own
    obtain ⟨p, q, mileage, moment, chosen⟩ := ih single
    rw [ServiceChoice.among_concat]
    by_cases beaten : (ServiceChoice.among now services).Beaten e
    · rw [ServiceChoice.take_of_beaten beaten]
      rcases beaten with ⟨m, due, less⟩ | ⟨d, due, less⟩
      · have other : e.dueMoment? = none := own.resolve_left (by simp [Option.mem_def.mp due])
        refine ⟨some services.length, q, ?_, ?_, ?_⟩
        · simpa [Option.mem_def.mp due] using mileage.better due less
        · simpa [other] using moment.other (e := e) (by simp [other])
        · simp [max_some_left moment.lt_length]
      · have other : e.dueMileage? = none := own.resolve_right (by simp [Option.mem_def.mp due])
        refine ⟨p, some services.length, ?_, ?_, ?_⟩
        · simpa [other] using mileage.other (e := e) (by simp [other])
        · simpa [Option.mem_def.mp due] using moment.better due less
        · simp [max_some_right mileage.lt_length]
    · rw [ServiceChoice.take_of_not_beaten beaten]
      have far : ∀ m ∈ e.dueMileage?, (ServiceChoice.among now services).mileage ≤ m :=
        fun m due => not_lt.mp fun less => beaten (.inl ⟨m, due, less⟩)
      have late : ∀ d ∈ e.dueMoment?, (ServiceChoice.among now services).moment ≤ d :=
        fun d due => not_lt.mp fun less => beaten (.inr ⟨d, due, less⟩)
      refine ⟨p, q, mileage.other far, moment.other late, ?_⟩
      rw [chosen]
      cases later : max p q with
      | none => rfl
      | some k =>
        have long : k < services.length := lt_of_mem_max mileage.lt_length moment.lt_length k later
        exact (List.getElem?_append_left long).symm

/-- Where no service is due both ways, the next service is at the later one of two places, or at the one of them that
there is: the first one with the least distance, if this counts, and the first one with the earliest date, if this is
before the horizon. Without either the entry is empty. -/
theorem nextService_of_single (now : Moment) (services : List ServiceEntry)
    (single : ∀ e ∈ services, e.dueMileage? = none ∨ e.dueMoment? = none) :
    ∃ p q : Option Nat,
      (∀ i, p = some i ↔ ∃ m, FirstLeast ServiceEntry.dueMileage? farthest services i m) ∧
      (∀ i, q = some i ↔ ∃ d, FirstLeast ServiceEntry.dueMoment? (serviceHorizon now) services i d) ∧
      (p = none ↔ ∀ e ∈ services, ∀ m ∈ e.dueMileage?, farthest ≤ m) ∧
      (q = none ↔ ∀ e ∈ services, ∀ d ∈ e.dueMoment?, serviceHorizon now ≤ d) ∧
      nextService now services = ((max p q).bind (services[·]?)).getD {} ∧
      (∀ i ∈ p, (services[i]?).bind ServiceEntry.dueMileage? = nextServiceMileage services) ∧
      ∀ i ∈ q, (services[i]?).bind ServiceEntry.dueMoment? = nextServiceDate now services := by
  obtain ⟨p, q, mileage, moment, chosen⟩ := among_tracked now services single
  refine ⟨p, q, fun i => mileage.place_eq_some_iff, fun i => moment.place_eq_some_iff, mileage.place_eq_none_iff,
    moment.place_eq_none_iff, nextService_of_chosen chosen, fun i place => ?_, fun i place => ?_⟩
  · obtain ⟨m, first⟩ := mileage.place_eq_some_iff.mp place
    rw [first.there, nextServiceMileage_eq_some_iff.mpr ⟨first.exists_mem, first.minimal⟩]
  · obtain ⟨d, first⟩ := moment.place_eq_some_iff.mp place
    rw [first.there, nextServiceDate_eq_some_iff.mpr ⟨first.exists_mem, first.below, first.minimal⟩]

/-- The least distance is there twice and counts where it is first, which is behind the only date. -/
theorem nextService_of_single_sample :
    let now : Moment := .midnight ⟨2020, 8, 24⟩
    let services : List ServiceEntry := [{ remainingMileage := some 500 }, { dueDate := some "2022-02" },
      { kind := some "OIL", remainingMileage := some 100 }, { dueDate := some "soon" },
      { remainingMileage := some 100 }]
    (∀ e ∈ services, e.dueMileage? = none ∨ e.dueMoment? = none) ∧
      nextService now services = { kind := some "OIL", remainingMileage := some 100 } ∧
      nextServiceMileage services = some 100 ∧ nextServiceDate now services = some (.midnight ⟨2022, 2, 1⟩) := by
  intro now services
  have single : ∀ e ∈ services, e.dueMileage? = none ∨ e.dueMoment? = none := by decide +kernel
  have least : FirstLeast ServiceEntry.dueMileage? farthest services 2 100 :=
    ⟨by decide +kernel, by decide, by decide +kernel, by decide +kernel⟩
  have earliest : FirstLeast ServiceEntry.dueMoment? (serviceHorizon now) services 1 (.midnight ⟨2022, 2, 1⟩) :=
    ⟨by decide +kernel, by decide +kernel, by decide +kernel, by decide +kernel⟩
  obtain ⟨p, q, byMileage, byMoment, _, _, next, mileage, moment⟩ := nextService_of_single now services single
  obtain rfl := (byMileage 2).mpr ⟨_, least⟩
  obtain rfl := (byMoment 1).mpr ⟨_, earliest⟩
  exact ⟨single, next, (mileage 2 rfl).symm.trans least.there, (moment 1 rfl).symm.trans earliest.there⟩

end VehicleLink
