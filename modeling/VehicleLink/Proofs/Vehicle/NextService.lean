import Mathlib.Data.List.Induction
import VehicleLink.Proofs.Calendar.Order
import VehicleLink.Vehicle.Service

namespace VehicleLink

open Calendar

/-- A service is due at a date or after a distance. -/
def ServiceEntry.IsDue (e : ServiceEntry) : Prop := e.dueMileage? ≠ none ∨ e.dueMoment? ≠ none

namespace ServiceChoice

variable {now : Moment} {best : ServiceChoice} {e : ServiceEntry} {services : List ServiceEntry}

/-- A service is better than a choice in one of the ways in which it is due. -/
def Beaten (best : ServiceChoice) (e : ServiceEntry) : Prop :=
  (∃ m ∈ e.dueMileage?, m < best.mileage) ∨ ∃ d ∈ e.dueMoment?, d < best.moment

theorem Beaten.isDue (beaten : best.Beaten e) : e.IsDue := by
  rcases beaten with ⟨m, due, _⟩ | ⟨d, due, _⟩
  · exact .inl (Option.ne_none_iff_exists'.mpr ⟨m, due⟩)
  · exact .inr (Option.ne_none_iff_exists'.mpr ⟨d, due⟩)

/-- A better service is taken with all that it is due at. What it is not due at stays. -/
theorem take_of_beaten (beaten : best.Beaten e) : best.take e =
    ⟨e.dueMileage?.getD best.mileage, e.dueMoment?.getD best.moment, some e⟩ := by
  unfold take
  cases mileage : e.dueMileage? <;> cases moment : e.dueMoment? <;>
    simp_all [Beaten, Moment.before_iff]

theorem take_of_not_beaten (other : ¬best.Beaten e) : best.take e = best := by
  unfold take
  cases mileage : e.dueMileage? <;> cases moment : e.dueMoment? <;>
    simp_all [Beaten, Moment.before_iff]

/-- The best of some services. -/
def among (now : Moment) (services : List ServiceEntry) : ServiceChoice := services.foldl take (.start now)

theorem among_concat (now : Moment) (services : List ServiceEntry) (e : ServiceEntry) :
    among now (services ++ [e]) = (among now services).take e := by
  simp [among]

theorem foldl_of_not_beaten (other : ∀ x ∈ services, ¬best.Beaten x) : services.foldl take best = best := by
  induction services with
  | nil => rfl
  | cons x services ih =>
    obtain ⟨here, behind⟩ := List.forall_mem_cons.mp other
    rw [List.foldl_cons, take_of_not_beaten here, ih behind]

theorem take_mileage (best : ServiceChoice) (e : ServiceEntry) :
    (best.take e).mileage = best.mileage ∨ e.dueMileage? = some (best.take e).mileage := by
  by_cases beaten : best.Beaten e
  · rw [take_of_beaten beaten]
    cases e.dueMileage? <;> simp
  · exact .inl (congrArg mileage (take_of_not_beaten beaten))

theorem take_moment (best : ServiceChoice) (e : ServiceEntry) :
    (best.take e).moment = best.moment ∨ e.dueMoment? = some (best.take e).moment := by
  by_cases beaten : best.Beaten e
  · rw [take_of_beaten beaten]
    cases e.dueMoment? <;> simp
  · exact .inl (congrArg moment (take_of_not_beaten beaten))

/-- A bound is the one at the start or comes from a service that has been seen. -/
theorem among_bound {α : Type} {bound : ServiceChoice → α} {due? : ServiceEntry → Option α}
    (step : ∀ best e, bound (best.take e) = bound best ∨ due? e = some (bound (best.take e)))
    (now : Moment) (services : List ServiceEntry) : bound (among now services) = bound (.start now) ∨
      ∃ x ∈ services, due? x = some (bound (among now services)) := by
  induction services using List.reverseRecOn with
  | nil => exact .inl rfl
  | append_singleton services e ih =>
    rw [among_concat]
    rcases step (among now services) e with same | own
    · rw [same]
      exact ih.imp_right fun ⟨x, member, due⟩ => ⟨x, List.mem_append_left [e] member, due⟩
    · exact .inr ⟨e, by simp, own⟩

/-- What is chosen is one of the services that have been seen, and is due. -/
theorem among_chosen {x : ServiceEntry} (chosen : (among now services).chosen = some x) :
    x ∈ services ∧ x.IsDue := by
  induction services using List.reverseRecOn with
  | nil => cases chosen
  | append_singleton services e ih =>
    rw [among_concat] at chosen
    by_cases beaten : (among now services).Beaten e
    · rw [take_of_beaten beaten] at chosen
      cases chosen
      exact ⟨by simp, beaten.isDue⟩
    · rw [take_of_not_beaten beaten] at chosen
      exact ⟨List.mem_append_left [e] (ih chosen).1, (ih chosen).2⟩

/-- As long as nothing is chosen the bounds are those at the start. -/
theorem among_of_none (none : (among now services).chosen = none) :
    among now services = .start now ∧ ∀ x ∈ services, ¬(start now).Beaten x := by
  induction services using List.reverseRecOn with
  | nil => exact ⟨rfl, by simp⟩
  | append_singleton services e ih =>
    rw [among_concat] at none ⊢
    by_cases beaten : (among now services).Beaten e
    · rw [take_of_beaten beaten] at none
      cases none
    · rw [take_of_not_beaten beaten] at none ⊢
      obtain ⟨same, nothing⟩ := ih none
      rw [same] at beaten
      refine ⟨same, List.forall_mem_append.mpr ⟨nothing, ?_⟩⟩
      simpa using beaten

/-- Nothing is chosen exactly if no service is better than what counts for nothing. -/
theorem among_none_iff : (among now services).chosen = none ↔ ∀ x ∈ services, ¬(start now).Beaten x := by
  refine ⟨fun none => (among_of_none none).2, fun nothing => ?_⟩
  rw [among, foldl_of_not_beaten nothing]
  rfl

end ServiceChoice

section Scans

variable {now : Moment} {services services' : List ServiceEntry} {e : ServiceEntry} {m : Int} {d : Moment}

theorem earlier_eq_min (a b : Moment) : earlier a b = min a b := by
  rw [earlier, min_def]
  by_cases late : b < a
  · rw [if_pos (Moment.before_iff.mpr late), if_neg (not_le.mpr late)]
  · rw [if_neg (fun before => late (Moment.before_iff.mp before)), if_pos (not_lt.mp late)]

theorem nextServiceMileage_eq (services : List ServiceEntry) :
    nextServiceMileage services = (services.filterMap ServiceEntry.dueMileage?).min? := by
  unfold nextServiceMileage
  cases services.filterMap ServiceEntry.dueMileage? <;> rfl

theorem nextServiceDate_eq (now : Moment) (services : List ServiceEntry) : nextServiceDate now services =
    ((services.filterMap ServiceEntry.dueMoment?).filter (· < serviceHorizon now)).min? := by
  have same : (fun d : Moment => d.before (serviceHorizon now)) = fun d => decide (d < serviceHorizon now) :=
    funext fun d => Bool.eq_iff_iff.mpr (by simp [Moment.before_iff])
  have first : earlier = min := funext fun a => funext fun b => earlier_eq_min a b
  unfold nextServiceDate
  rw [same, first]
  cases (services.filterMap ServiceEntry.dueMoment?).filter (· < serviceHorizon now) <;> rfl

/-- The least distance is the least of all. -/
theorem nextServiceMileage_eq_some_iff : nextServiceMileage services = some m ↔
    (∃ e ∈ services, e.dueMileage? = some m) ∧ ∀ e ∈ services, ∀ m' ∈ e.dueMileage?, m ≤ m' := by
  rw [nextServiceMileage_eq, List.min?_eq_some_iff]
  simp only [List.mem_filterMap, Option.mem_def]
  exact and_congr_right fun _ => ⟨fun least e member m' due => least m' ⟨e, member, due⟩,
    fun least m' ⟨e, member, due⟩ => least e member m' due⟩

/-- The next date is the earliest of those before the horizon, and so of all. -/
theorem nextServiceDate_eq_some_iff : nextServiceDate now services = some d ↔
    (∃ e ∈ services, e.dueMoment? = some d) ∧ d < serviceHorizon now ∧
      ∀ e ∈ services, ∀ d' ∈ e.dueMoment?, d ≤ d' := by
  rw [nextServiceDate_eq, List.min?_eq_some_iff]
  simp only [List.mem_filter, List.mem_filterMap, decide_eq_true_eq]
  constructor
  · rintro ⟨⟨there, below⟩, least⟩
    refine ⟨there, below, fun e member d' due => ?_⟩
    rcases lt_or_ge d' (serviceHorizon now) with near | far
    · exact least d' ⟨⟨e, member, due⟩, near⟩
    · exact (below.trans_le far).le
  · rintro ⟨there, below, least⟩
    exact ⟨⟨there, below⟩, fun d' ⟨⟨e, member, due⟩, _⟩ => least e member d' due⟩

theorem nextServiceDate_eq_none_iff : nextServiceDate now services = none ↔
    ∀ e ∈ services, ∀ d ∈ e.dueMoment?, ¬d < serviceHorizon now := by
  rw [nextServiceDate_eq, List.min?_eq_none_iff, List.filter_eq_nil_iff]
  simp only [List.mem_filterMap, decide_eq_true_eq]
  exact ⟨fun far e member d due => far d ⟨e, member, due⟩, fun far d ⟨e, member, due⟩ => far e member d due⟩

theorem nextServiceMileage_perm (same : services.Perm services') :
    nextServiceMileage services' = nextServiceMileage services := by
  ext m
  simp only [Option.mem_def, nextServiceMileage_eq_some_iff, same.mem_iff]

theorem nextServiceDate_perm (same : services.Perm services') :
    nextServiceDate now services' = nextServiceDate now services := by
  ext d
  simp only [Option.mem_def, nextServiceDate_eq_some_iff, same.mem_iff]

open ServiceChoice

theorem not_isDue_default : ¬({} : ServiceEntry).IsDue := by
  rintro (mileage | moment)
  · exact mileage rfl
  · exact moment rfl

theorem nextService_of_chosen {chosen : Option ServiceEntry} (same : (among now services).chosen = chosen) :
    nextService now services = chosen.getD {} := congrArg (fun chosen => chosen.getD {}) same

/-- What is chosen is due, so it is not the empty entry. -/
theorem nextService_eq_default_iff : nextService now services = {} ↔ ∀ e ∈ services, ¬(start now).Beaten e := by
  rw [← among_none_iff]
  cases chosen : (among now services).chosen with
  | none => exact iff_of_true (nextService_of_chosen chosen) rfl
  | some e =>
    have next : nextService now services = e := nextService_of_chosen chosen
    refine iff_of_false (fun default => not_isDue_default ?_) nofun
    rw [← default, next]
    exact (among_chosen chosen).2

theorem nextService_mem_iff : (nextService now services ∈ services ∧ (nextService now services).IsDue) ↔
    ∃ e ∈ services, (start now).Beaten e := by
  constructor
  · rintro ⟨_, due⟩
    by_contra nothing
    have default := nextService_eq_default_iff.mpr fun e member beaten => nothing ⟨e, member, beaten⟩
    exact not_isDue_default (default ▸ due)
  · rintro ⟨e, member, beaten⟩
    cases chosen : (among now services).chosen with
    | none => exact absurd beaten (among_none_iff.mp chosen e member)
    | some x =>
      have next : nextService now services = x := nextService_of_chosen chosen
      exact next ▸ among_chosen chosen

/-- Something is due before the horizon or after a distance that counts. -/
theorem exists_beaten_iff : (∃ e ∈ services, (start now).Beaten e) ↔
    nextServiceDate now services ≠ none ∨ ∃ e ∈ services, ∃ m ∈ e.dueMileage?, m < farthest := by
  rw [Ne, nextServiceDate_eq_none_iff]
  constructor
  · rintro ⟨e, member, near | ⟨d, due, soon⟩⟩
    · exact .inr ⟨e, member, near⟩
    · exact .inl fun far => far e member d due soon
  · rintro (some | ⟨e, member, near⟩)
    · by_contra nothing
      exact some fun e member d due soon => nothing ⟨e, member, .inr ⟨d, due, soon⟩⟩
    · exact ⟨e, member, .inl near⟩

end Scans

/-- A service that is due nearer than all others and sooner than all others is the next one, wherever it stands, as
long as it is nearer or sooner than what counts for nothing. -/
theorem nextService_of_first {now : Moment} {front back : List ServiceEntry} {e : ServiceEntry} {m : Int} {d : Moment}
    (mileage : e.dueMileage? = some m) (moment : e.dueMoment? = some d)
    (nearest : ∀ x ∈ front ++ back, ∀ m' ∈ x.dueMileage?, m < m')
    (soonest : ∀ x ∈ front ++ back, ∀ d' ∈ x.dueMoment?, d < d')
    (counts : m < farthest ∨ d < serviceHorizon now) : nextService now (front ++ e :: back) = e := by
  have before : ∀ x ∈ front, x ∈ front ++ back := fun x member => List.mem_append_left back member
  have behind : ∀ x ∈ back, x ∈ front ++ back := fun x member => List.mem_append_right front member
  -- Whatever the bounds are when the service is seen, they are worse in the way that counts.
  have beaten : (ServiceChoice.among now front).Beaten e := by
    rcases counts with near | soon
    · refine .inl ⟨m, mileage, ?_⟩
      rcases ServiceChoice.among_bound ServiceChoice.take_mileage now front with same | ⟨x, member, due⟩
      · rw [same]
        exact near
      · exact nearest x (before x member) _ due
    · refine .inr ⟨d, moment, ?_⟩
      rcases ServiceChoice.among_bound ServiceChoice.take_moment now front with same | ⟨x, member, due⟩
      · rw [same]
        exact soon
      · exact soonest x (before x member) _ due
  have taken : (ServiceChoice.among now front).take e = ⟨m, d, some e⟩ := by
    rw [ServiceChoice.take_of_beaten beaten, mileage, moment]
    rfl
  have unbeaten : ∀ x ∈ back, ¬(ServiceChoice.mk m d (some e)).Beaten x := by
    rintro x member (⟨m', due, nearer⟩ | ⟨d', due, sooner⟩)
    · exact lt_asymm nearer (nearest x (behind x member) m' due)
    · exact lt_asymm sooner (soonest x (behind x member) d' due)
  have all : ServiceChoice.among now (front ++ e :: back) = ⟨m, d, some e⟩ := by
    rw [ServiceChoice.among, List.foldl_append, List.foldl_cons]
    exact (congrArg (back.foldl ServiceChoice.take) taken).trans (ServiceChoice.foldl_of_not_beaten unbeaten)
  exact congrArg (fun best => best.chosen.getD {}) all

/-- The service before it has the worse date only by a month, the one behind it has no date that can be read. -/
theorem nextService_of_first_sample :
    let now : Moment := .midnight ⟨2020, 8, 24⟩
    let oil : ServiceEntry := { dueDate := some "2021-11", remainingMileage := some 1000 }
    let front : List ServiceEntry := [{ dueDate := some "2021-12", remainingMileage := some 24000 }]
    let back : List ServiceEntry := [{ dueDate := some "soon", remainingMileage := some 1001 }]
    oil.dueMileage? = some 1000 ∧ oil.dueMoment? = some (.midnight ⟨2021, 11, 1⟩) ∧
      nextService now (front ++ oil :: back) = oil := by
  intro now oil front back
  have mileage : oil.dueMileage? = some 1000 := by decide +kernel
  have moment : oil.dueMoment? = some (.midnight ⟨2021, 11, 1⟩) := by decide +kernel
  have nearest : ∀ x ∈ front ++ back, ∀ m ∈ x.dueMileage?, 1000 < m := by decide +kernel
  have soonest : ∀ x ∈ front ++ back, ∀ d ∈ x.dueMoment?, Moment.midnight ⟨2021, 11, 1⟩ < d := by decide +kernel
  exact ⟨mileage, moment, nextService_of_first mileage moment nearest soonest (.inl (by decide))⟩

/-- Something that is due is chosen exactly if there is a next date or a distance that counts. Otherwise the entry is
empty. The order of the services has no influence on this, nor on the next date and the least distance. -/
theorem nextService_due (now : Moment) (services : List ServiceEntry) :
    ((nextService now services ∈ services ∧ (nextService now services).IsDue) ↔
      nextServiceDate now services ≠ none ∨ ∃ e ∈ services, ∃ m ∈ e.dueMileage?, m < farthest) ∧
    (¬(nextServiceDate now services ≠ none ∨ ∃ e ∈ services, ∃ m ∈ e.dueMileage?, m < farthest) →
      nextService now services = {}) ∧
    ∀ services', services.Perm services' →
      nextServiceDate now services' = nextServiceDate now services ∧
      nextServiceMileage services' = nextServiceMileage services ∧
      (nextService now services' = {} ↔ nextService now services = {}) := by
  refine ⟨nextService_mem_iff.trans exists_beaten_iff, fun nothing => ?_, fun services' same => ?_⟩
  · rw [← exists_beaten_iff] at nothing
    exact nextService_eq_default_iff.mpr fun e member beaten => nothing ⟨e, member, beaten⟩
  · refine ⟨nextServiceDate_perm same, nextServiceMileage_perm same, ?_⟩
    simp only [nextService_eq_default_iff, same.mem_iff]

/-- What is chosen depends on the order of these two services, but not that something is. With a date that cannot be
read and no distance nothing is due. -/
theorem nextService_due_sample :
    let now : Moment := .midnight ⟨2020, 8, 24⟩
    let near : ServiceEntry := { dueDate := some "2023-01", remainingMileage := some 1000 }
    let soon : ServiceEntry := { dueDate := some "2021-01", remainingMileage := some 20000 }
    let unset : ServiceEntry := { dueDate := some "soon", remainingMileage := some 0 }
    [near, soon].Perm [soon, near] ∧
      nextServiceDate now [soon, near] = nextServiceDate now [near, soon] ∧
      nextServiceMileage [soon, near] = nextServiceMileage [near, soon] ∧
      (nextService now [soon, near] = {} ↔ nextService now [near, soon] = {}) ∧
      nextService now [unset] = {} := by
  intro now near soon unset
  have same : [near, soon].Perm [soon, near] := .swap ..
  obtain ⟨_, _, permuted⟩ := nextService_due now [near, soon]
  obtain ⟨date, mileage, empty⟩ := permuted [soon, near] same
  obtain ⟨_, nothing, _⟩ := nextService_due now [unset]
  have undue : ¬(nextServiceDate now [unset] ≠ none ∨ ∃ e ∈ [unset], ∃ m ∈ e.dueMileage?, m < farthest) := by
    have never : nextServiceDate now [unset] = none := by decide +kernel
    have nowhere : unset.dueMileage? = none := by decide +kernel
    simp [never, nowhere]
  exact ⟨same, date, mileage, empty, nothing undue⟩

end VehicleLink
