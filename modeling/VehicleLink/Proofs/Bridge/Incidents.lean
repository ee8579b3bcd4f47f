import Mathlib.Data.List.Infix
import VehicleLink.Proofs.Bridge.Steps

namespace VehicleLink

/-- Something that happens to a bridge. -/
inductive Incident where
  | answered (now : Calendar.Moment) (e : Endpoint) (body : String)
  | failed (e : Endpoint) (f : Failure)
  | ordered (c : ChannelCommand)

namespace Incident

/-- The text that is kept of an answer or a failure, and the document that it is kept for. -/
def kept? : Incident → Option (Endpoint × String)
  | .answered _ e body => some (e, body)
  | .failed e f => some (e, (Bridge.failureReport e f).toText)
  | .ordered _ => none

/-- An answer to the request for a document, or a failure to get one. -/
def Concerns (i : Incident) (e : Endpoint) : Prop := ∃ text, i.kept? = some (e, text)

end Incident

namespace Bridge

/-- The bridge after something has happened. -/
def meet (b : Bridge) : Incident → Bridge
  | .answered now e body => (b.answer now e body).bridge
  | .failed e f => b.fail e f
  | .ordered c => (b.order c).bridge

/-- The bridge after several things have happened, one after the other. -/
def after (b : Bridge) (incidents : List Incident) : Bridge := incidents.foldl meet b

/-- What a fingerprint is made from. -/
def archive (b : Bridge) : String × VehicleType × (Endpoint → Option String) :=
  (b.vin, b.vehicleType, b.answers)

/-- The fingerprint depends on what is archived and on nothing else. -/
theorem fingerprint_of_archive {b b' : Bridge} (same : b.archive = b'.archive) :
    b.fingerprint = b'.fingerprint := by
  obtain ⟨_, vehicleType, vin, _, _, _, _, _, _, answers⟩ := b
  obtain ⟨_, vehicleType', vin', _, _, _, _, _, _, answers'⟩ := b'
  cases same
  rfl

variable {b : Bridge}

/-- Whatever an answer contains, only its text is kept for the fingerprint. -/
theorem answer_archive (now : Calendar.Moment) (e : Endpoint) (body : String) :
    (b.answer now e body).bridge.archive = (b.remember e body).archive := by
  have way := takeAnswer_taken (b.remember e body) now e body
  rw [answer]
  generalize (b.remember e body).takeAnswer now e body = outcome at way ⊢
  cases way <;> rfl

theorem order_archive (c : ChannelCommand) : (b.order c).bridge.archive = b.archive := by
  have way := order_ordered b c
  generalize b.order c = outcome at way ⊢
  cases way with
  | edited loaded e changed =>
    subst changed
    rfl
  | rejected | asked | ignored | service | check | destination | fingerprint => rfl

/-- Commands leave the fingerprint as it is. -/
theorem order_fingerprint (c : ChannelCommand) : (b.order c).bridge.fingerprint = b.fingerprint :=
  fingerprint_of_archive (order_archive c)

/-- All that is kept of something that happens is the text of an answer or a failure. -/
theorem meet_archive (b : Bridge) (i : Incident) :
    (b.meet i).archive = match i.kept? with
      | some (e, text) => (b.remember e text).archive
      | none => b.archive := by
  cases i with
  | answered now e body => exact answer_archive now e body
  | failed e f => rfl
  | ordered c => exact order_archive c

theorem meet_vin (b : Bridge) (i : Incident) : (b.meet i).vin = b.vin := by
  have kept := congrArg Prod.fst (b.meet_archive i)
  split at kept <;> exact kept

theorem meet_vehicleType (b : Bridge) (i : Incident) : (b.meet i).vehicleType = b.vehicleType := by
  have kept := congrArg (·.2.1) (b.meet_archive i)
  split at kept <;> exact kept

/-- A step replaces the text that is kept for one document, or none. -/
theorem meet_answers (b : Bridge) (i : Incident) (e : Endpoint) :
    (b.meet i).answers e = match i.kept? with
      | some (f, text) => if e = f then some text else b.answers e
      | none => b.answers e := by
  have kept := congrArg (·.2.2 e) (b.meet_archive i)
  split at kept <;> exact kept

theorem after_append (b : Bridge) (incidents : List Incident) (i : Incident) :
    b.after (incidents ++ [i]) = (b.after incidents).meet i := by
  rw [after, List.foldl_append]
  rfl

theorem after_vin (b : Bridge) (incidents : List Incident) : (b.after incidents).vin = b.vin := by
  induction incidents generalizing b with
  | nil => rfl
  | cons i rest ih => exact (ih (b.meet i)).trans (b.meet_vin i)

theorem after_vehicleType (b : Bridge) (incidents : List Incident) :
    (b.after incidents).vehicleType = b.vehicleType := by
  induction incidents generalizing b with
  | nil => rfl
  | cons i rest ih => exact (ih (b.meet i)).trans (b.meet_vehicleType i)

theorem meet_answers_of_not_concerns {i : Incident} {e : Endpoint} (other : ¬i.Concerns e) :
    (b.meet i).answers e = b.answers e := by
  rw [meet_answers]
  split
  · rename_i f text kept
    have differs : e ≠ f := by
      rintro rfl
      exact other ⟨text, kept⟩
    rw [if_neg differs]
  · rfl

theorem meet_answers_of_kept {i : Incident} {e : Endpoint} {text : String} (kept : i.kept? = some (e, text)) :
    (b.meet i).answers e = some text := by
  rw [meet_answers, kept]
  exact if_pos rfl

/-- What is kept for a document stays as long as nothing more happens that concerns it. -/
theorem after_answers_of_quiet {incidents : List Incident} {e : Endpoint}
    (quiet : ∀ i ∈ incidents, ¬i.Concerns e) : (b.after incidents).answers e = b.answers e := by
  induction incidents generalizing b with
  | nil => rfl
  | cons i rest ih =>
    obtain ⟨here, later⟩ := List.forall_mem_cons.mp quiet
    exact (ih later).trans (meet_answers_of_not_concerns here)

/-- The text kept for a document is that of the last answer or failure that concerned it. -/
theorem after_answers_iff {incidents : List Incident} {e : Endpoint} {text : String}
    (none : b.answers e = none) :
    (b.after incidents).answers e = some text ↔ ∃ before i later, incidents = before ++ i :: later ∧
      i.kept? = some (e, text) ∧ ∀ j ∈ later, ¬j.Concerns e := by
  constructor
  · -- From the right end: either the last incident concerns the document, or it is as if it had not been.
    induction incidents using List.reverseRecOn with
    | nil =>
      intro kept
      cases none.symm.trans kept
    | append_singleton incidents i ih =>
      intro kept
      rw [after_append] at kept
      by_cases concerns : i.Concerns e
      · obtain ⟨text', own⟩ := concerns
        rw [meet_answers_of_kept own] at kept
        cases kept
        exact ⟨incidents, i, [], rfl, own, by simp⟩
      · rw [meet_answers_of_not_concerns concerns] at kept
        obtain ⟨before, j, later, rfl, own, quiet⟩ := ih kept
        refine ⟨before, j, later ++ [i], by simp, own, fun k member => ?_⟩
        rcases List.mem_append.mp member with old | new
        · exact quiet k old
        · exact List.mem_singleton.mp new ▸ concerns
  · rintro ⟨before, i, later, rfl, own, quiet⟩
    have split : b.after (before ++ i :: later) = ((b.after before).meet i).after later := by
      rw [after, List.foldl_append]
      rfl
    rw [split, after_answers_of_quiet quiet, meet_answers_of_kept own]

end Bridge

end VehicleLink
