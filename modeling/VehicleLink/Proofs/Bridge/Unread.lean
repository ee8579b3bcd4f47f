import VehicleLink.Proofs.Bridge.Hiding
import VehicleLink.Proofs.Bridge.Incidents
import VehicleLink.Proofs.Json.Written

namespace VehicleLink

open Json

/-- The text is an answer for the status or for the destinations that cannot be read as such. -/
def Unread : Endpoint → String → Prop
  | .status, body => ∃ problem, StatusDocument.ofText body = .error problem
  | .destinations, body => ∃ problem, DestinationsDocument.ofText body = .error problem
  | _, _ => False

/-- Two texts are the same but for some parts. Such a part stands between two characters that are no capital
letters or digits, ends at the first that is like the one behind it, and does not have the number in it: as a
number of a JSON text does, or a text in quotes. -/
inductive SameButParts (vin : List Char) : List Char → List Char → Prop
  | same (cs : List Char) : SameButParts vin cs cs
  | part (front cs cs' : List Char) {before behind : Char} {rest rest' : List Char}
      (left : isMark before = false) (right : isMark behind = false) (ends : behind ∉ cs) (ends' : behind ∉ cs')
      (absent : ¬vin <:+: cs) (absent' : ¬vin <:+: cs') (more : SameButParts vin rest rest') :
      SameButParts vin (front ++ before :: (cs ++ behind :: rest)) (front ++ before :: (cs' ++ behind :: rest'))

/-- Texts that end at the same character are told apart together with what follows that. -/
theorem append_cons_inj {c : Char} {cs cs' rest rest' : List Char} (ends : c ∉ cs) (ends' : c ∉ cs') :
    cs ++ c :: rest = cs' ++ c :: rest' ↔ cs = cs' ∧ rest = rest' := by
  induction cs generalizing cs' with
  | nil =>
    cases cs' with
    | nil => simp
    | cons a cs' =>
      have differs : c ≠ a := fun same => ends' (same ▸ List.mem_cons_self)
      simp [differs]
  | cons a cs ih =>
    cases cs' with
    | nil =>
      have differs : a ≠ c := fun same => ends (same ▸ List.mem_cons_self)
      simp [differs]
    | cons a' cs' =>
      have later : cs ++ c :: rest = cs' ++ c :: rest' ↔ cs = cs' ∧ rest = rest' :=
        ih (fun member => ends (List.mem_cons_of_mem _ member))
          fun member => ends' (List.mem_cons_of_mem _ member)
      rw [List.cons_append, List.cons_append, List.cons.injEq, List.cons.injEq, later, and_assoc]

/-- Where the number is replaced, texts that are the same but for parts without it stay the same or stay
different. -/
theorem SameButParts.replaceChars_eq_iff {vin new cs cs' : List Char} (plain : Plain vin)
    (alike : SameButParts vin cs cs') :
    Text.replaceChars vin new cs = Text.replaceChars vin new cs' ↔ cs = cs' := by
  induction alike with
  | same => exact iff_of_true rfl rfl
  | part front cs cs' left right ends ends' absent absent' _ ih =>
    rw [plain.replaceChars_append_cons left, plain.replaceChars_append_cons left,
      plain.replaceChars_append_cons right, plain.replaceChars_append_cons right,
      Text.replaceChars_of_not_infix plain.some absent,
      Text.replaceChars_of_not_infix plain.some absent', List.append_cancel_left_eq, List.cons.injEq,
      and_iff_right rfl, append_cons_inj ends ends', ih, List.append_cancel_left_eq, List.cons.injEq,
      and_iff_right rfl, append_cons_inj ends ends']

/-- Of lines between others, one is told from the lines together. -/
theorem intercalate_line_inj {front back : List String} (first : front ≠ []) (last : back ≠ []) {x y : String} :
    "\n".intercalate (front ++ x :: back) = "\n".intercalate (front ++ y :: back) ↔ x = y := by
  have split (line : String) : "\n".intercalate (front ++ line :: back) =
      "\n".intercalate front ++ "\n" ++ (line ++ ("\n" ++ "\n".intercalate back)) := by
    rw [String.intercalate_append_of_ne_nil first (List.cons_ne_nil _ _),
      String.intercalate_cons_of_ne_nil last]
    simp only [String.append_assoc]
  rw [split, split, String.append_right_inj, String.append_left_inj]

namespace Bridge

variable {b b' : Bridge} {e : Endpoint}

theorem hideNumber_eq_iff (proper : IsVehicleNumber b.vin) {body body' : String}
    (alike : SameButParts b.vin.toList body.toList body'.toList) :
    b.hideNumber body = b.hideNumber body' ↔ body = body' := by
  rw [← String.toList_inj, hideNumber_toList proper.plain.some, hideNumber_toList proper.plain.some,
    alike.replaceChars_eq_iff proper.plain, String.toList_inj]

theorem maskAnswer_unread {body : String} (unread : Unread e body) : b.maskAnswer e body = b.hideNumber body := by
  cases e with
  | status =>
    obtain ⟨problem, read⟩ := unread
    rw [maskAnswer, maskStatus, read]
  | destinations =>
    obtain ⟨problem, read⟩ := unread
    rw [maskAnswer, maskDestinations, read]
  | chargeProfile | lastTrip | allTrips => rfl

theorem sections_nodup (b : Bridge) : b.sections.Nodup := by
  rw [sections]
  cases b.vehicleType.isElectric <;> decide

/-- Fingerprints that are made from the same but for one document tell what is shown of it. -/
theorem fingerprint_eq_iff {raw raw' : String} (vin : b.vin = b'.vin) (type : b.vehicleType = b'.vehicleType)
    (part : e ∈ b.sections) (kept : b.answers e = some raw) (kept' : b'.answers e = some raw')
    (elsewhere : ∀ f ≠ e, b.answers f = b'.answers f) :
    b.fingerprint = b'.fingerprint ↔ b.maskAnswer e raw = b.maskAnswer e raw' := by
  have mask := maskAnswer_of_vin vin
  have sections : b'.sections = b.sections := by rw [Bridge.sections, Bridge.sections, type]
  obtain ⟨before, behind, split⟩ := List.append_of_mem part
  have once := b.sections_nodup
  rw [split, List.nodup_middle, List.nodup_cons, List.mem_append, not_or] at once
  have same {es : List Endpoint} (other : e ∉ es) : es.flatMap b'.sectionText = es.flatMap b.sectionText := by
    refine List.flatMap_congr fun f member => ?_
    have apart : f ≠ e := fun same => other (same ▸ member)
    rw [sectionText_eq, sectionText_eq, elsewhere f apart, mask]
  have lines : b.sectionText e = ["### " ++ sectionTitle e ++ " ###", b.maskAnswer e raw] := by
    rw [sectionText, kept]
  have lines' : b'.sectionText e = ["### " ++ sectionTitle e ++ " ###", b.maskAnswer e raw'] := by
    rw [sectionText, kept', mask]
  have told := @intercalate_line_inj
    (fingerprintFrame "BEGIN" :: before.flatMap b.sectionText ++ ["### " ++ sectionTitle e ++ " ###"])
    (behind.flatMap b.sectionText ++ [fingerprintFrame "END"]) (by simp) (by simp)
    (b.maskAnswer e raw) (b.maskAnswer e raw')
  rw [← told, fingerprint, fingerprint, sections, split]
  simp only [List.flatMap_append, List.flatMap_cons, same once.1.1, same once.1.2, lines, lines',
    List.cons_append, List.nil_append, List.append_assoc]

/-- What is kept for a document in the end depends on what was kept for it, and not on the others. -/
theorem after_answers_congr {f : Endpoint} (same : b.answers f = b'.answers f) (incidents : List Incident) :
    (b.after incidents).answers f = (b'.after incidents).answers f := by
  induction incidents generalizing b b' with
  | nil => exact same
  | cons i rest ih =>
    refine ih ?_
    rw [meet_answers, meet_answers, same]

section Answers

variable (b : Bridge) (now : Calendar.Moment) {body body' : String} (unread : Unread e body)
  (unread' : Unread e body') {later : List Incident} (quiet : ∀ i ∈ later, ¬i.Concerns e)

include unread unread' quiet

theorem fingerprint_eq_iff_hideNumber : (b.after (.answered now e body :: later)).fingerprint =
      (b.after (.answered now e body' :: later)).fingerprint ↔ b.hideNumber body = b.hideNumber body' := by
  have vin (incidents : List Incident) : (b.after incidents).vin = b.vin := after_vin _ _
  have type (incidents : List Incident) : (b.after incidents).vehicleType = b.vehicleType :=
    after_vehicleType _ _
  have part (incidents : List Incident) : e ∈ (b.after incidents).sections := by
    cases e with
    | status | destinations => simp [sections]
    | chargeProfile | lastTrip | allTrips => exact unread.elim
  have kept (text : String) : (b.after (.answered now e text :: later)).answers e = some text :=
    (after_answers_of_quiet quiet).trans (meet_answers_of_kept rfl)
  have elsewhere (f : Endpoint) (other : f ≠ e) : (b.after (.answered now e body :: later)).answers f =
      (b.after (.answered now e body' :: later)).answers f := by
    have apart (text : String) : ¬(Incident.answered now e text).Concerns f := by
      rintro ⟨_, same⟩
      cases same
      exact other rfl
    refine after_answers_congr ?_ later
    rw [meet_answers_of_not_concerns (apart body), meet_answers_of_not_concerns (apart body')]
  rw [fingerprint_eq_iff ((vin _).trans (vin _).symm) ((type _).trans (type _).symm) (part _) (kept body)
    (kept body') elsewhere, maskAnswer_of_vin (vin _), maskAnswer_unread unread, maskAnswer_unread unread']

/-- The fingerprints after one and after another answer for a document that cannot be read, with nothing more
that concerns the document, are the same exactly if the answers are once the number has been hidden in them.
If these differ in parts without the number only, such as the places in them, nothing of that is hidden. -/
theorem fingerprint_unread_iff :
    ((b.after (.answered now e body :: later)).fingerprint =
        (b.after (.answered now e body' :: later)).fingerprint ↔ b.hideNumber body = b.hideNumber body') ∧
      (IsVehicleNumber b.vin → SameButParts b.vin.toList body.toList body'.toList →
        ((b.after (.answered now e body :: later)).fingerprint =
          (b.after (.answered now e body' :: later)).fingerprint ↔ body = body')) := by
  have told := fingerprint_eq_iff_hideNumber b now unread unread' quiet
  exact ⟨told, fun proper alike => told.trans (hideNumber_eq_iff proper alike)⟩

end Answers

/-- Destinations with a number for their kind cannot be read, so the towns are told apart. -/
theorem fingerprint_unread_iff_sample :
    let b := start .metric .electric "WBY1Z21000V000000" 0
    let now : Calendar.Moment := ⟨⟨2020, 1, 1⟩, 0, false⟩
    let body := "\x7b\"destinations\":[\x7b\"type\":1,\"city\":\"Ulm\"\x7d]\x7d"
    let body' := "\x7b\"destinations\":[\x7b\"type\":1,\"city\":\"Bonn\"\x7d]\x7d"
    let later : List Incident := [.failed .status (.transport "gone"), .ordered ⟨⟨.destination, "next"⟩, .onOff true⟩]
    Unread .destinations body ∧ Unread .destinations body' ∧ (∀ i ∈ later, ¬i.Concerns .destinations) ∧
      IsVehicleNumber b.vin ∧ SameButParts b.vin.toList body.toList body'.toList ∧
      (b.after (.answered now .destinations body :: later)).fingerprint ≠
        (b.after (.answered now .destinations body' :: later)).fingerprint := by
  intro b now body body' later
  have tree : Tree.ofText body = .object [(escaped "destinations", .list [.object [
      (escaped "type", .number (some (.whole 1))), (escaped "city", .text (escaped "Ulm"))] none] none)] none := by
    cbv
  have tree' : Tree.ofText body' = .object [(escaped "destinations", .list [.object [
      (escaped "type", .number (some (.whole 1))), (escaped "city", .text (escaped "Bonn"))] none] none)] none := by
    cbv
  have unread : Unread .destinations body := by
    rw [Unread, DestinationsDocument.ofText, Json.read, tree]
    exact ⟨_, rfl⟩
  have unread' : Unread .destinations body' := by
    rw [Unread, DestinationsDocument.ofText, Json.read, tree']
    exact ⟨_, rfl⟩
  have quiet : ∀ i ∈ later, ¬i.Concerns .destinations := by simp [later, Incident.Concerns, Incident.kept?]
  have proper : IsVehicleNumber b.vin := by decide
  have alike : SameButParts b.vin.toList body.toList body'.toList := by
    let front := "\x7b\"destinations\":[\x7b\"type\":1,\"city\":".toList
    have text : body.toList = front ++ '"' :: ("Ulm".toList ++ '"' :: "\x7d]\x7d".toList) := by decide
    have text' : body'.toList = front ++ '"' :: ("Bonn".toList ++ '"' :: "\x7d]\x7d".toList) := by decide
    rw [text, text']
    exact .part front _ _ rfl rfl (by decide) (by decide) (proper.not_infix (by decide))
      (proper.not_infix (by decide)) (.same _)
  have told := (fingerprint_unread_iff b now unread unread' quiet).2 proper alike
  exact ⟨unread, unread', quiet, proper, alike, fun same => absurd (told.mp same) (by decide)⟩

/-- Two statuses that give the mileage as a text, so that they cannot be read, and are the same but for the
latitude: the fingerprint tells them apart. -/
theorem place_in_fingerprint :
    let b := start .metric .conventional "WBY1Z21000V000000" 0
    let now : Calendar.Moment := ⟨⟨2020, 1, 1⟩, 0, false⟩
    let body := "\x7b\"vehicleStatus\":\x7b\"mileage\":\"far\",\"position\":\x7b\"lat\":50\x7d\x7d\x7d"
    let body' := "\x7b\"vehicleStatus\":\x7b\"mileage\":\"far\",\"position\":\x7b\"lat\":48\x7d\x7d\x7d"
    (Tree.ofText body).skip = none ∧ (Tree.ofText body').skip = none ∧
      Unread .status body ∧ Unread .status body' ∧
      (b.after [.answered now .status body]).fingerprint ≠ (b.after [.answered now .status body']).fingerprint := by
  intro b now body body'
  have tree : Tree.ofText body = .object [(escaped "vehicleStatus", .object [
      (escaped "mileage", .text (escaped "far")),
      (escaped "position", .object [(escaped "lat", .number (some (.whole 50)))] none)] none)] none := by cbv
  have tree' : Tree.ofText body' = .object [(escaped "vehicleStatus", .object [
      (escaped "mileage", .text (escaped "far")),
      (escaped "position", .object [(escaped "lat", .number (some (.whole 48)))] none)] none)] none := by cbv
  have unread : Unread .status body := by
    rw [Unread, StatusDocument.ofText, Json.read, tree]
    exact ⟨_, rfl⟩
  have unread' : Unread .status body' := by
    rw [Unread, StatusDocument.ofText, Json.read, tree']
    exact ⟨_, rfl⟩
  have proper : IsVehicleNumber b.vin := by decide
  refine ⟨by rw [tree]; rfl, by rw [tree']; rfl, unread, unread', fun same => ?_⟩
  rw [fingerprint_eq_iff_hideNumber b now unread unread' (by simp), hideNumber_of_few proper (by decide),
    hideNumber_of_few proper (by decide)] at same
  exact absurd same (by decide)

end Bridge

end VehicleLink
