import Mathlib
import VehicleLink.Proofs.Bridge.Publication

namespace VehicleLink

namespace Bridge

variable {b : Bridge} {ε α : Type} {outcome : Outcome (Except ε α)}

/-- A step either succeeds, or leaves the bridge as it was and tells nothing. -/
def AllOrNothing (b : Bridge) (outcome : Outcome (Except ε α)) : Prop :=
  ∀ problem, outcome.result = .error problem → outcome = ⟨b, [], .error problem⟩

theorem AllOrNothing.of_ok {a : α} (succeeds : outcome.result = .ok a) : b.AllOrNothing outcome := by
  intro problem fails
  cases succeeds.symm.trans fails

theorem AllOrNothing.of_unchanged {result : Except ε α} : b.AllOrNothing ⟨b, [], result⟩ := by
  rintro problem rfl
  rfl

/-- What is read of an answer is taken in after all of it could be read. -/
theorem takeAnswer_allOrNothing (now : Calendar.Moment) (e : Endpoint) (body : String) :
    b.AllOrNothing (b.takeAnswer now e body) := by
  have way := takeAnswer_taken b now e body
  generalize b.takeAnswer now e body = outcome at way ⊢
  cases way with
  | unread => exact .of_unchanged
  | status | noStatus | lastTrip | allTrips | destinations | profile | unusable => exact .of_ok rfl

/-- A command is checked before anything is done for it. -/
theorem order_allOrNothing (c : ChannelCommand) : b.AllOrNothing (b.order c) := by
  have way := order_ordered b c
  generalize b.order c = outcome at way ⊢
  cases way with
  | rejected | asked => exact .of_unchanged
  | ignored | edited | service | check | destination | fingerprint => exact .of_ok rfl

/-- Something that happens to a bridge fails: a command is rejected, there is no answer, or there is one that
cannot be read. A charge profile that cannot be read is a failure as well, though it is not reported as one. -/
def Fails (b : Bridge) : Incident → Prop
  | .answered now e body => (∃ f, (b.answer now e body).result = .error f) ∨
      e = .chargeProfile ∧ ∃ problem, ChargeProfile.ofText body = .error problem
  | .failed _ _ => True
  | .ordered c => ∃ problem, (b.order c).result = .error problem

/-- When something fails, no channel is told of it, and all that is left of it is the text that is kept for the
document that it concerns, if it concerns one. -/
theorem failure_leaves_rest {i : Incident} (fails : b.Fails i) :
    b.told i = [] ∧ b.meet i = match i.kept? with
      | some (e, text) => b.remember e text
      | none => b := by
  cases i with
  | answered now e body =>
    rcases fails with ⟨f, failed⟩ | ⟨rfl, problem, unusable⟩
    · have nothing : b.answer now e body = ⟨b.remember e body, [], .error f⟩ :=
        takeAnswer_allOrNothing now e body f failed
      refine ⟨?_, ?_⟩
      · rw [told, nothing]
        rfl
      · rw [meet, nothing]
        rfl
    · have warned : b.answer now .chargeProfile body = ⟨b.remember .chargeProfile body,
          [.warn ("Charge profile not usable: " ++ problem.message)], .ok ()⟩ := by
        rw [answer, takeAnswer, unusable]
      refine ⟨?_, ?_⟩
      · rw [told, warned]
        rfl
      · rw [meet, warned]
        rfl
  | failed e f => exact ⟨rfl, rfl⟩
  | ordered c =>
    obtain ⟨problem, failed⟩ := fails
    have nothing : b.order c = ⟨b, [], .error problem⟩ := order_allOrNothing c problem failed
    refine ⟨?_, ?_⟩
    · rw [told, nothing]
      rfl
    · rw [meet, nothing]
      rfl

/-- When a profile is in use: a status with a mileage that is no number, another profile that is no object, and
an hour that is switched on. -/
theorem failure_leaves_rest_sample :
    let now : Calendar.Moment := ⟨⟨2020, 1, 1⟩, 0, false⟩
    let b : Bridge := { start .metric .electric "" 0 with
      profile := some (.ofPlan (.weekly { timer1 := some {} }) []) }
    let status := "\x7b\"vehicleStatus\":\x7b\"mileage\":\"far\"\x7d\x7d"
    let hour : ChannelCommand := ⟨⟨.charge, "timer1-departure-hour"⟩, .onOff true⟩
    (b.Fails (.answered now .status status) ∧ b.told (.answered now .status status) = [] ∧
        b.meet (.answered now .status status) = b.remember .status status) ∧
      (b.Fails (.answered now .chargeProfile "[]") ∧ b.told (.answered now .chargeProfile "[]") = [] ∧
        b.meet (.answered now .chargeProfile "[]") = b.remember .chargeProfile "[]") ∧
      b.Fails (.ordered hour) ∧ b.told (.ordered hour) = [] ∧ b.meet (.ordered hour) = b := by
  intro now b status hour
  have mileage : b.Fails (.answered now .status status) :=
    .inl ⟨.document (.mismatch [.member "vehicleStatus", .member "mileage"]), by cbv⟩
  have list : b.Fails (.answered now .chargeProfile "[]") := .inr ⟨rfl, .notAnObject, by cbv⟩
  have switched : b.Fails (.ordered hour) :=
    ⟨.mismatch (.time ⟨.departure .timer1, .hour⟩) (.onOff true), by cbv⟩
  exact ⟨⟨mileage, failure_leaves_rest mileage⟩, ⟨list, failure_leaves_rest list⟩, switched,
    failure_leaves_rest switched⟩

end Bridge

end VehicleLink
