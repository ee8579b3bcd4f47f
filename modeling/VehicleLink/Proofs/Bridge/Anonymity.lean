import VehicleLink.Proofs.Bridge.Reports

namespace VehicleLink

open Json

/-- What is shown of a position as it is. -/
def Position.shown (p : Position) : Position := { quality := p.quality }

/-- What is shown of a status as it is. -/
def VehicleStatus.shown (s : VehicleStatus) : VehicleStatus :=
  { s with vin := none, position := s.position.map Position.shown }

/-- What is shown of a destination as it is. -/
def Destination.shown (d : Destination) : Destination := { kind := d.kind, createdAt := d.createdAt }

section Masked

variable {vin : String} (proper : IsVehicleNumber vin)

include proper

theorem not_mentions_anonymous : ¬Mentions vin.toList (.text anonymous) := by
  rw [mentions_text]
  exact proper.not_infix (by decide)

theorem mentions_position (p : Position) :
    p.masked.toJson.Mentions vin.toList ↔ p.shown.toJson.Mentions vin.toList := by
  have unit : ¬vin.toList <:+: writeNumber (.real (-1.0)) := proper.not_infix (by decide +kernel)
  simp [Position.toJson, Position.masked, Position.shown, ofOption, real, unit]

theorem mentions_destination (d : Destination) :
    d.masked.toJson.Mentions vin.toList ↔ d.shown.toJson.Mentions vin.toList := by
  have zero : ¬vin.toList <:+: writeNumber (.real 0.0) := proper.not_infix (by decide +kernel)
  have hidden := not_mentions_anonymous proper
  rw [mentions_text] at hidden
  simp [Destination.toJson, Destination.masked, Destination.shown, ofOption, real, zero, hidden]

/-- Masking a status takes the number and the position out of it, and nothing else. -/
theorem mentions_status (s : VehicleStatus) :
    s.masked.toJson.Mentions vin.toList ↔ s.shown.toJson.Mentions vin.toList := by
  have position : (ofOption Position.toJson (s.position.map Position.masked)).Mentions vin.toList ↔
      (ofOption Position.toJson (s.position.map Position.shown)).Mentions vin.toList := by
    cases s.position with
    | none => rfl
    | some p => exact mentions_position proper p
  have number : (ofOption .text (some anonymous)).Mentions vin.toList ↔
      (ofOption .text (none : Option String)).Mentions vin.toList :=
    iff_of_false (not_mentions_anonymous proper) not_mentions_null
  simp only [VehicleStatus.toJson, VehicleStatus.masked, VehicleStatus.shown, mentions_object,
    List.exists_mem_cons_iff, position, number]

end Masked

namespace Bridge

section Answers

variable {b : Bridge} (proper : IsVehicleNumber b.vin)

include proper

/-- The number is in a document as it is written exactly if one of the document's texts has it, since it lies
between other characters wherever it is not part of a text. -/
theorem infix_toText_iff (v : Json) : b.vin.toList <:+: v.toText.toList ↔ v.Mentions b.vin.toList := by
  rw [toText, String.toList_ofList, infix_write_iff proper.plain]

/-- The number is in what is shown of an answer for a status exactly if that is read as a status of which
something else has it. -/
theorem infix_maskStatus_iff (raw : String) : b.vin.toList <:+: (b.maskStatus raw).toList ↔
    ∃ s, StatusDocument.ofText raw = .ok ⟨some s⟩ ∧ s.shown.toJson.Mentions b.vin.toList := by
  have key : ¬b.vin.toList <:+: "vehicleStatus".toList.flatMap escapeChar := proper.not_infix (by decide)
  unfold maskStatus
  cases StatusDocument.ofText raw with
  | error problem => simpa using not_infix_hideNumber proper raw
  | ok document =>
    dsimp only
    rw [infix_toText_iff proper, StatusDocument.toJson, mentions_single key]
    obtain ⟨_ | s⟩ := document
    · simp [ofOption]
    · simpa [ofOption] using mentions_status proper s

/-- The number is in what is shown of an answer for the destinations exactly if that is read as destinations
of which one has it in its kind or in the time of its creation. -/
theorem infix_maskDestinations_iff (raw : String) : b.vin.toList <:+: (b.maskDestinations raw).toList ↔
    ∃ ds, DestinationsDocument.ofText raw = .ok ⟨some ds⟩ ∧ ∃ d ∈ ds, d.shown.toJson.Mentions b.vin.toList := by
  have key : ¬b.vin.toList <:+: "destinations".toList.flatMap escapeChar := proper.not_infix (by decide)
  unfold maskDestinations
  cases DestinationsDocument.ofText raw with
  | error problem => simpa using not_infix_hideNumber proper raw
  | ok document =>
    dsimp only
    rw [infix_toText_iff proper, DestinationsDocument.toJson, mentions_single key]
    obtain ⟨_ | ds⟩ := document
    · simp [ofOption]
    · simp [ofOption, mentions_destination proper]

/-- The number is in a fingerprint exactly if what is kept for the status or for the destinations is read as
such, and something that is shown of it has the number. -/
theorem number_shown_iff : b.vin.toList <:+: b.fingerprint.toList ↔
    (∃ raw s, b.answers .status = some raw ∧ StatusDocument.ofText raw = .ok ⟨some s⟩ ∧
      s.shown.toJson.Mentions b.vin.toList) ∨
    ∃ raw ds, b.answers .destinations = some raw ∧ DestinationsDocument.ofText raw = .ok ⟨some ds⟩ ∧
      ∃ d ∈ ds, d.shown.toJson.Mentions b.vin.toList := by
  rw [infix_fingerprint_iff proper]
  constructor
  · rintro ⟨e, -, raw, kept, occurs⟩
    cases e with
    | status =>
      obtain ⟨s, read, inside⟩ := (infix_maskStatus_iff proper raw).mp occurs
      exact Or.inl ⟨raw, s, kept, read, inside⟩
    | destinations =>
      obtain ⟨ds, read, inside⟩ := (infix_maskDestinations_iff proper raw).mp occurs
      exact Or.inr ⟨raw, ds, kept, read, inside⟩
    | chargeProfile | lastTrip | allTrips => exact absurd occurs (not_infix_hideNumber proper raw)
  · rintro (⟨raw, s, kept, read, inside⟩ | ⟨raw, ds, kept, read, inside⟩)
    · exact ⟨.status, by simp [sections], raw, kept, (infix_maskStatus_iff proper raw).mpr ⟨s, read, inside⟩⟩
    · exact ⟨.destinations, by simp [sections], raw, kept,
        (infix_maskDestinations_iff proper raw).mpr ⟨ds, read, inside⟩⟩

end Answers

/-- The last that happened about a document was an answer with this body. -/
def LastAnswered (incidents : List Incident) (e : Endpoint) (body : String) : Prop :=
  ∃ before now later, incidents = before ++ .answered now e body :: later ∧ ∀ i ∈ later, ¬i.Concerns e

/-- What is kept for a document, from the start on, is the body of the last answer, if it is no report. -/
theorem answers_iff {units : Units} {type : VehicleType} {vin : String} {zone : Int} {incidents : List Incident}
    {e : Endpoint} {raw : String} (noReport : ∀ g f, raw ≠ (failureReport g f).toText) :
    ((start units type vin zone).after incidents).answers e = some raw ↔ LastAnswered incidents e raw := by
  rw [after_answers_iff rfl]
  constructor
  · rintro ⟨before, i, later, split, kept, quiet⟩
    cases i with
    | answered now g body =>
      cases kept
      exact ⟨before, now, later, split, quiet⟩
    | failed g f =>
      cases kept
      exact absurd rfl (noReport e f)
    | ordered c => cases kept
  · rintro ⟨before, now, later, split, quiet⟩
    exact ⟨before, _, later, split, rfl, quiet⟩

/-- Whatever happens to a bridge from its start on: the number of the vehicle is not in the fingerprint
exactly if it is neither in what is shown as it is of the last status that could be read, nor in what is
shown as it is of a destination among the last that could be read. -/
theorem number_hidden_iff (units : Units) (type : VehicleType) {vin : String} (zone : Int)
    (proper : IsVehicleNumber vin) (incidents : List Incident) :
    ¬vin.toList <:+: ((start units type vin zone).after incidents).fingerprint.toList ↔
      (∀ body s, LastAnswered incidents .status body → StatusDocument.ofText body = .ok ⟨some s⟩ →
        ¬s.shown.toJson.Mentions vin.toList) ∧
      ∀ body ds, LastAnswered incidents .destinations body →
        DestinationsDocument.ofText body = .ok ⟨some ds⟩ → ∀ d ∈ ds, ¬d.shown.toJson.Mentions vin.toList := by
  have same : ((start units type vin zone).after incidents).vin = vin := after_vin _ _
  have shown := number_shown_iff (b := (start units type vin zone).after incidents) (same.symm ▸ proper)
  rw [same] at shown
  -- A report is read as a document without anything in it, so whatever is read otherwise is an answer.
  have status {raw : String} {s : VehicleStatus} (read : StatusDocument.ofText raw = .ok ⟨some s⟩) :
      ((start units type vin zone).after incidents).answers .status = some raw ↔
        LastAnswered incidents .status raw := by
    refine answers_iff fun g f report => ?_
    rw [report, statusDocument_failureReport] at read
    cases read
  have destinations {raw : String} {ds : List Destination}
      (read : DestinationsDocument.ofText raw = .ok ⟨some ds⟩) :
      ((start units type vin zone).after incidents).answers .destinations = some raw ↔
        LastAnswered incidents .destinations raw := by
    refine answers_iff fun g f report => ?_
    rw [report, destinationsDocument_failureReport] at read
    cases read
  rw [shown, not_or]
  constructor
  · rintro ⟨noStatus, noDestinations⟩
    refine ⟨fun body s last read inside => ?_, fun body ds last read d member inside => ?_⟩
    · exact noStatus ⟨body, s, (status read).mpr last, read, inside⟩
    · exact noDestinations ⟨body, ds, (destinations read).mpr last, read, d, member, inside⟩
  · rintro ⟨noStatus, noDestinations⟩
    refine ⟨?_, ?_⟩
    · rintro ⟨body, s, kept, read, inside⟩
      exact noStatus body s ((status read).mp kept) read inside
    · rintro ⟨body, ds, kept, read, d, member, inside⟩
      exact noDestinations body ds ((destinations read).mp kept) read d member inside

/-- A failure that names the number, and a trip with the number in a member that nobody declared: both times it is
hidden. -/
theorem number_hidden_iff_sample :
    let vin := "WBY1Z21000V000000"
    let trip := "\x7b\"vin\":\"WBY1Z21000V000000\"\x7d"
    let incidents := [.failed .status (.transport vin), .answered ⟨⟨2020, 1, 1⟩, 0, false⟩ .lastTrip trip]
    IsVehicleNumber vin ∧
      ¬vin.toList <:+: ((start .metric .electric vin 0).after incidents).fingerprint.toList := by
  intro vin trip incidents
  have proper : IsVehicleNumber vin := by decide
  have onlyTrip {e : Endpoint} {body : String} (last : LastAnswered incidents e body) : e = .lastTrip := by
    obtain ⟨before, now, later, split, _⟩ := last
    have member : Incident.answered now e body ∈ incidents := split ▸ List.mem_append_right _ List.mem_cons_self
    simp only [incidents, List.mem_cons, List.not_mem_nil, or_false, reduceCtorEq, false_or,
      Incident.answered.injEq] at member
    exact member.2.1
  refine ⟨proper, (number_hidden_iff .metric .electric 0 proper incidents).mpr ⟨?_, ?_⟩⟩
  · intro body s last
    cases onlyTrip last
  · intro body ds last
    cases onlyTrip last

/-- A status that says why it was updated, and says it with the number of the vehicle: the number is in the
fingerprint. -/
theorem number_in_fingerprint :
    let vin := "WBY1Z21000V000000"
    let body := "\x7b\"vehicleStatus\":\x7b\"updateReason\":\"WBY1Z21000V000000\"\x7d\x7d"
    let incidents := [.answered ⟨⟨2020, 1, 1⟩, 0, false⟩ .status body]
    IsVehicleNumber vin ∧
      vin.toList <:+: ((start .metric .conventional vin 0).after incidents).fingerprint.toList := by
  intro vin body incidents
  have proper : IsVehicleNumber vin := by decide
  have tree : Tree.ofText body = .object [(escaped "vehicleStatus",
      .object [(escaped "updateReason", .text (escaped "WBY1Z21000V000000"))] none)] none := by cbv
  have read : StatusDocument.ofText body = .ok ⟨some { updateReason := some vin }⟩ := by
    rw [StatusDocument.ofText, Json.read, tree]
    rfl
  have kept : (meet (start .metric .conventional vin 0) (.answered ⟨⟨2020, 1, 1⟩, 0, false⟩ .status body)).answers
      .status = some body := meet_answers_of_kept rfl
  have inside : Mentions vin.toList (VehicleStatus.shown { updateReason := some vin }).toJson :=
    mentions_object.mpr ⟨("updateReason", .text vin), by simp [VehicleStatus.shown, ofOption],
      Or.inr (mentions_text.mpr (by decide))⟩
  have same : ((start .metric .conventional vin 0).after incidents).vin = vin := after_vin _ _
  have shown := number_shown_iff (b := (start .metric .conventional vin 0).after incidents) (same.symm ▸ proper)
  rw [same] at shown
  exact ⟨proper, shown.mpr (Or.inl ⟨body, _, kept, read, inside⟩)⟩

end Bridge

end VehicleLink
