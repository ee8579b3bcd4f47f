import VehicleLink.Proofs.Bridge.Hiding
import VehicleLink.Proofs.Bridge.Incidents
import VehicleLink.Proofs.Json.Closed

namespace VehicleLink

namespace Json

/-- An object that has none of the declared members is read as a record in which nothing is set. -/
theorem taken_undeclared {room : Nat} {fields : Fields} {members : List (Written × Tree)}
    (other : ∀ m ∈ members, ∃ key, m.1.read = .ok key ∧ fields.lookup key = none)
    (sound : ∀ m ∈ members, m.2.skip = none) : Taken room fields members [] := by
  induction members with
  | nil => exact .nil
  | cons m rest ih =>
    obtain ⟨⟨key, read, absent⟩, others⟩ := List.forall_mem_cons.mp other
    obtain ⟨here, later⟩ := List.forall_mem_cons.mp sound
    exact .other read absent here (ih others later)

end Json

open Json

namespace Bridge

/-- A report with its three parts as they are written. -/
def report (path reason status : String) : String :=
  "\x7b\"endpoint\":\"" ++ path ++ "\",\"reason\":\"" ++ reason ++ "\",\"status\":" ++ status ++ "\x7d"

/-- The report of a failure to get a document. -/
def reportOf (e : Endpoint) (f : Failure) : String :=
  report e.path (escapedText f.message) (f.status?.elim "null" fun n => Decimal.integerText n)

theorem report_toList (path reason status : String) : (report path reason status).toList =
    ['\x7b'] ++ '"' :: ("endpoint".toList ++ '"' :: ([':'] ++ '"' :: (path.toList ++ '"' :: ([','] ++
      '"' :: ("reason".toList ++ '"' :: ([':'] ++ '"' :: (reason.toList ++ '"' :: ([','] ++
        '"' :: ("status".toList ++ '"' :: ([] ++ ':' :: (status.toList ++ '\x7d' :: []))))))))))) := by
  unfold report
  simp

theorem escape_path (e : Endpoint) : e.path.toList.flatMap escapeChar = e.path.toList := by
  cases e <;> decide

/-- A report of a failure is written as a report with its three parts. -/
theorem failureReport_toText (e : Endpoint) (f : Failure) : (failureReport e f).toText = reportOf e f := by
  have status : write (.ofOption (fun n : Nat => .whole n) f.status?) =
      (f.status?.elim "null" fun n => Decimal.integerText n).toList := by
    cases f.status? with
    | none => rfl
    | some n => rfl
  have keys : "endpoint".toList.flatMap escapeChar = "endpoint".toList ∧
      "reason".toList.flatMap escapeChar = "reason".toList ∧
      "status".toList.flatMap escapeChar = "status".toList := by decide
  rw [← String.toList_inj, reportOf, report_toList]
  simp only [toText, failureReport, write, writeMembers, writeText, escape_path, keys, status, escapedText,
    String.toList_ofList]
  simp

/-- The tree of a report has the three members of a report, and none of them is flawed. -/
theorem failureReport_tree (e : Endpoint) (f : Failure) : ∃ status : Tree, status.skip = none ∧
    Tree.ofText (failureReport e f).toText = .object [(escaped "endpoint", .text (escaped e.path)),
      (escaped "reason", .text (escaped f.message)), (escaped "status", status)] none := by
  -- The status may be out of the range of numbers, so it is not said to be read back.
  obtain ⟨status, written, sound⟩ : ∃ status : Tree,
      WrittenAs (.ofOption (fun n : Nat => .whole n) f.status?) status ∧ status.skip = none := by
    cases f.status? with
    | none => exact ⟨.null, writtenAs_null, rfl⟩
    | some n =>
      exact ⟨.number (wholeNumeral n).value?, writtenAs_number (wholeNumeral_proper n) (writeWhole_numeral n),
        by rw [Tree.skip]⟩
  refine ⟨status, sound, WrittenAs.treeOfText (writtenAs_object ?_)⟩
  exact .cons ⟨rfl, writtenAs_text _⟩ (.cons ⟨rfl, writtenAs_text _⟩ (.cons ⟨rfl, written⟩ .nil))

/-- A report is read as a record in which nothing is set, if the record has no member of a report. -/
theorem failureReport_read {fields : Fields} (whole : complete fields [] = true)
    (other : ∀ key ∈ ["endpoint", "reason", "status"], fields.lookup key = none) (e : Endpoint)
    (f : Failure) : Json.read (.record .closed fields) (failureReport e f).toText =
      .ok (normalRecord .closed fields [] []) := by
  obtain ⟨status, sound, tree⟩ := failureReport_tree e f
  rw [Json.read, tree, show depthLimit = 126 + 1 from rfl]
  refine read_object_iff.mpr ⟨rfl, [], taken_undeclared (fun m member => ?_) fun m member => ?_,
    List.nodup_nil, ?_, rfl⟩
  · simp only [List.mem_cons, List.not_mem_nil, or_false] at member
    rcases member with rfl | rfl | rfl
    · exact ⟨_, escaped_read _, other _ (by simp)⟩
    · exact ⟨_, escaped_read _, other _ (by simp)⟩
    · exact ⟨_, escaped_read _, other _ (by simp)⟩
  · simp only [List.mem_cons, List.not_mem_nil, or_false] at member
    rcases member with rfl | rfl | rfl
    · rfl
    · rfl
    · exact sound
  · simpa [complete] using whole

theorem statusDocument_failureReport (e : Endpoint) (f : Failure) :
    StatusDocument.ofText (failureReport e f).toText = .ok ⟨none⟩ := by
  rw [StatusDocument.ofText, StatusDocument.shape, failureReport_read rfl (by decide)]
  rfl

theorem destinationsDocument_failureReport (e : Endpoint) (f : Failure) :
    DestinationsDocument.ofText (failureReport e f).toText = .ok ⟨none⟩ := by
  rw [DestinationsDocument.ofText, DestinationsDocument.shape, failureReport_read rfl (by decide)]
  rfl

/-- The number is hidden in the three parts of a report, and nowhere else in it. -/
theorem hideNumber_report {b : Bridge} (proper : IsVehicleNumber b.vin) (path reason status : String) :
    b.hideNumber (report path reason status) =
      report (b.hideNumber path) (b.hideNumber reason) (b.hideNumber status) := by
  have same (cs : List Char) (few : cs.countP isMark < 17) :
      Text.replaceChars b.vin.toList anonymous.toList cs = cs :=
    Text.replaceChars_of_not_infix proper.plain.some (proper.not_infix few)
  rw [← String.toList_inj, hideNumber_toList proper.plain.some, report_toList, report_toList]
  simp (disch := decide) only [proper.plain.replaceChars_append_cons, same,
    hideNumber_toList proper.plain.some]

/-- The section of a document in the fingerprint is this text under its title. -/
def Shows (b : Bridge) (e : Endpoint) (text : String) : Prop :=
  b.sectionText e = ["### " ++ sectionTitle e ++ " ###", text] ∧
    ∃ front back, b.fingerprint = "\n".intercalate (front ++ b.sectionText e ++ back)

theorem shows_iff {b : Bridge} {e : Endpoint} {raw text : String} (part : e ∈ b.sections)
    (kept : b.answers e = some raw) : b.Shows e text ↔ b.maskAnswer e raw = text := by
  rw [Shows, and_iff_left (fingerprint_split part), sectionText, kept]
  simp

/-- What is shown of a report: there is nothing in it that is shown of a status or of destinations. -/
theorem maskAnswer_failureReport (b : Bridge) (e : Endpoint) (f : Failure) :
    b.maskAnswer e (failureReport e f).toText = match e with
      | .status => "\x7b\"vehicleStatus\":null\x7d"
      | .destinations => "\x7b\"destinations\":null\x7d"
      | _ => b.hideNumber (reportOf e f) := by
  cases e with
  | status =>
    have shown : (StatusDocument.toJson ⟨none⟩).toText = "\x7b\"vehicleStatus\":null\x7d" := by decide
    rw [maskAnswer, maskStatus, statusDocument_failureReport]
    exact shown
  | destinations =>
    have shown : (DestinationsDocument.toJson ⟨none⟩).toText = "\x7b\"destinations\":null\x7d" := by decide
    rw [maskAnswer, maskDestinations, destinationsDocument_failureReport]
    exact shown
  | chargeProfile | lastTrip | allTrips => rw [maskAnswer, failureReport_toText]

/-- A report in which the number is hidden is not what is shown for an empty document. -/
theorem hideNumber_reportOf_ne (b : Bridge) (e : Endpoint) (f : Failure) {text : String}
    (other : text.toList[2]? ≠ some 'e') (plain : ¬anonymous.toList <:+: text.toList) :
    b.hideNumber (reportOf e f) ≠ text := by
  rintro rfl
  rcases b.hideNumber_cases (reportOf e f) with same | shown
  · rw [same, reportOf, report_toList] at other
    exact other rfl
  · exact plain shown

/-- After a failure to get a document, and until something else happens that concerns it, its section in the
fingerprint is the report of the failure, unless it is the section of the status or of the destinations. The
number of the vehicle is hidden in the report: in its path, its reason and its status. -/
theorem shows_report_iff (b : Bridge) {e : Endpoint} (part : e ∈ b.sections) (f : Failure)
    {later : List Incident} (quiet : ∀ i ∈ later, ¬i.Concerns e) :
    (((b.fail e f).after later).Shows e (b.hideNumber (reportOf e f)) ↔ e ≠ .status ∧ e ≠ .destinations) ∧
      (IsVehicleNumber b.vin → b.hideNumber (reportOf e f) = report e.path
        (b.hideNumber (escapedText f.message))
        (b.hideNumber (f.status?.elim "null" fun n => Decimal.integerText n))) := by
  have vin : ((b.fail e f).after later).vin = b.vin := after_vin _ _
  have type : ((b.fail e f).after later).vehicleType = b.vehicleType := after_vehicleType _ _
  have kept : ((b.fail e f).after later).answers e = some (failureReport e f).toText := by
    rw [after_answers_of_quiet quiet]
    exact if_pos rfl
  have part : e ∈ ((b.fail e f).after later).sections := by
    rwa [sections, type]
  have hide (raw : String) : ((b.fail e f).after later).hideNumber raw = b.hideNumber raw := by
    rw [hideNumber, vin, hideNumber]
  refine ⟨?_, fun proper => ?_⟩
  · rw [shows_iff part kept, maskAnswer_failureReport]
    cases e with
    | status => simpa using (b.hideNumber_reportOf_ne _ f (by decide) (by decide)).symm
    | destinations => simpa using (b.hideNumber_reportOf_ne _ f (by decide) (by decide)).symm
    | chargeProfile | lastTrip | allTrips => simp [hide]
  · have path : b.hideNumber e.path = e.path := hideNumber_of_few proper (by cases e <;> decide)
    rw [reportOf, hideNumber_report proper, path]

/-- The charge profile could not be had, and the reason has the number of the vehicle. The report is still shown
after another failure and a command, with the number hidden in it. -/
theorem shows_report_iff_sample :
    let b := Bridge.start .metric .electric "WBY1Z21000V000000" 0
    let f := Failure.http 500 "no \"WBY1Z21000V000000\""
    let later : List Incident := [.failed .status f, .ordered ⟨⟨.destination, "next"⟩, .onOff true⟩]
    .chargeProfile ∈ b.sections ∧ (∀ i ∈ later, ¬i.Concerns .chargeProfile) ∧ IsVehicleNumber b.vin ∧
      ((b.fail .chargeProfile f).after later).Shows .chargeProfile
        (report "chargingprofile" "http 500: no \\\"anonymous\\\"" "500") := by
  intro b f later
  have part : .chargeProfile ∈ b.sections := by decide
  have quiet : ∀ i ∈ later, ¬i.Concerns .chargeProfile := by
    simp [later, Incident.Concerns, Incident.kept?]
  have proper : IsVehicleNumber b.vin := by decide
  obtain ⟨shows_iff, parts⟩ := shows_report_iff b part f quiet
  have reason : b.hideNumber (escapedText f.message) = "http 500: no \\\"anonymous\\\"" := by decide +kernel
  have status : b.hideNumber (f.status?.elim "null" fun n => Decimal.integerText n) = "500" := by
    decide +kernel
  have shows := shows_iff.mpr ⟨by decide, by decide⟩
  rw [parts proper, reason, status] at shows
  exact ⟨part, quiet, proper, shows⟩

/-- A failure to get the status is not told: the section of the status looks as if there were none. -/
theorem status_failure_hidden :
    let b := (Bridge.start .metric .conventional "WBY1Z21000V000000" 0).fail .status (.http 500 "boom")
    .status ∈ b.sections ∧
      b.sectionText .status = ["### Vehicle Status ###", "\x7b\"vehicleStatus\":null\x7d"] ∧
      ¬"http 500: boom".toList <:+: b.fingerprint.toList := by
  intro b
  have shown : b.sectionText .status = ["### Vehicle Status ###", "\x7b\"vehicleStatus\":null\x7d"] := by
    rw [show b.sectionText .status = ["### Vehicle Status ###",
      b.maskAnswer .status (failureReport .status (.http 500 "boom")).toText] from rfl, maskAnswer_failureReport]
  have lines : b.sections.flatMap b.sectionText = ["### Vehicle Status ###", "\x7b\"vehicleStatus\":null\x7d",
      "### Last Trip Empty ###", "### All Trips Empty ###", "### Destinations Empty ###"] := by
    rw [show b.sections.flatMap b.sectionText = b.sectionText .status ++ _ from rfl, shown]
    rfl
  refine ⟨by decide, shown, ?_⟩
  rw [fingerprint, infix_intercalate_iff (by decide) (by decide), lines]
  decide +kernel

end Bridge

end VehicleLink
