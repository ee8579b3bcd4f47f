import Mathlib.Data.List.Forall2
import VehicleLink.Proofs.Bridge.Anonymity

namespace VehicleLink

open Json

theorem Position.masked_shown (p : Position) : p.shown.masked = p.masked := rfl

/-- What masking takes out of a status is nothing that would be shown of it. -/
theorem VehicleStatus.masked_shown (s : VehicleStatus) : s.shown.masked = s.masked := by
  have position : (s.position.map Position.shown).map Position.masked = s.position.map Position.masked := by
    rw [Option.map_map]
    exact congrArg (s.position.map ·) (funext Position.masked_shown)
  rw [masked, shown, masked, position]

theorem Destination.masked_shown (d : Destination) : d.shown.masked = d.masked := rfl

/-- The same is shown of two statuses: they agree in everything but the number of the vehicle and, where both
have a position, its latitude, longitude and heading. -/
def StatusDocument.Alike (document document' : StatusDocument) : Prop :=
  document.status.map VehicleStatus.shown = document'.status.map VehicleStatus.shown

/-- The same is shown of two lists of destinations: they are as long as each other and agree, one by one, in
the kind and in the time of creation. -/
def DestinationsDocument.Alike (document document' : DestinationsDocument) : Prop :=
  document.destinations.map (·.map Destination.shown) = document'.destinations.map (·.map Destination.shown)

/-- Two things that happen are the same, or answers that differ in what is not shown of them. -/
inductive Incident.Alike : Incident → Incident → Prop
  | same (i : Incident) : Alike i i
  | status (now : Calendar.Moment) {body body' : String} {document document' : StatusDocument}
      (read : StatusDocument.ofText body = .ok document) (read' : StatusDocument.ofText body' = .ok document')
      (alike : document.Alike document') : Alike (.answered now .status body) (.answered now .status body')
  | destinations (now : Calendar.Moment) {body body' : String} {document document' : DestinationsDocument}
      (read : DestinationsDocument.ofText body = .ok document)
      (read' : DestinationsDocument.ofText body' = .ok document') (alike : document.Alike document') :
      Alike (.answered now .destinations body) (.answered now .destinations body')

namespace Bridge

/-- Statuses of which the same is shown are masked as the same text, however they were written. -/
theorem maskStatus_alike (b : Bridge) {body body' : String} {document document' : StatusDocument}
    (read : StatusDocument.ofText body = .ok document) (read' : StatusDocument.ofText body' = .ok document')
    (alike : document.Alike document') : b.maskStatus body = b.maskStatus body' := by
  have hidden (o : Option VehicleStatus) :
      (o.map VehicleStatus.shown).map VehicleStatus.masked = o.map VehicleStatus.masked := by
    rw [Option.map_map]
    exact congrArg (o.map ·) (funext VehicleStatus.masked_shown)
  have masked : document.status.map VehicleStatus.masked = document'.status.map VehicleStatus.masked := by
    rw [← hidden, alike, hidden]
  rw [maskStatus, read, maskStatus, read']
  dsimp only
  rw [masked]

theorem maskDestinations_alike (b : Bridge) {body body' : String} {document document' : DestinationsDocument}
    (read : DestinationsDocument.ofText body = .ok document)
    (read' : DestinationsDocument.ofText body' = .ok document') (alike : document.Alike document') :
    b.maskDestinations body = b.maskDestinations body' := by
  have hidden (o : Option (List Destination)) :
      (o.map (·.map Destination.shown)).map (·.map Destination.masked) = o.map (·.map Destination.masked) := by
    rw [Option.map_map]
    refine congrArg (o.map ·) (funext fun ds => ?_)
    rw [Function.comp_apply, List.map_map]
    exact congrArg (ds.map ·) (funext Destination.masked_shown)
  have masked : document.destinations.map (·.map Destination.masked) =
      document'.destinations.map (·.map Destination.masked) := by
    rw [← hidden, alike, hidden]
  rw [maskDestinations, read, maskDestinations, read']
  dsimp only
  rw [masked]

/-- Two bridges show the same of every document. -/
structure Alike (b b' : Bridge) : Prop where
  vin : b.vin = b'.vin
  vehicleType : b.vehicleType = b'.vehicleType
  shown : ∀ e, (b.answers e).map (b.maskAnswer e) = (b'.answers e).map (b.maskAnswer e)

namespace Alike

variable {b b' : Bridge}

theorem refl (b : Bridge) : b.Alike b := ⟨rfl, rfl, fun _ => rfl⟩

/-- Bridges that show the same of every document have the same fingerprint. -/
theorem fingerprint (alike : b.Alike b') : b.fingerprint = b'.fingerprint := by
  have sections : b.sections = b'.sections := by
    rw [Bridge.sections, alike.vehicleType, Bridge.sections]
  have texts : b.sectionText = b'.sectionText := by
    funext e
    rw [sectionText_eq, sectionText_eq, alike.shown, maskAnswer_of_vin alike.vin]
  rw [Bridge.fingerprint, Bridge.fingerprint, sections, texts]

/-- What is kept of two things that happen, for the same document if at all, is masked as the same. -/
theorem kept (b : Bridge) {i i' : Incident} (alike : i.Alike i') :
    i.kept?.map (fun kept => (kept.1, b.maskAnswer kept.1 kept.2)) =
      i'.kept?.map fun kept => (kept.1, b.maskAnswer kept.1 kept.2) := by
  cases alike with
  | same => rfl
  | status now read read' alike =>
    exact congrArg (fun shown => some (Endpoint.status, shown)) (b.maskStatus_alike read read' alike)
  | destinations now read read' alike =>
    exact congrArg (fun shown => some (Endpoint.destinations, shown))
      (b.maskDestinations_alike read read' alike)

/-- Two runs stay alike in a step. -/
theorem meet (alike : b.Alike b') {i i' : Incident} (next : i.Alike i') : (b.meet i).Alike (b'.meet i') where
  vin := by rw [meet_vin, meet_vin, alike.vin]
  vehicleType := by rw [meet_vehicleType, meet_vehicleType, alike.vehicleType]
  shown e := by
    have step := kept b next
    rw [maskAnswer_of_vin (meet_vin b i), meet_answers, meet_answers]
    cases first : i.kept? with
    | none =>
      cases second : i'.kept? with
      | none => exact alike.shown e
      | some kept' => simp [first, second] at step
    | some kept =>
      cases second : i'.kept? with
      | none => simp [first, second] at step
      | some kept' =>
        obtain ⟨f, text⟩ := kept
        obtain ⟨f', text'⟩ := kept'
        simp only [first, second, Option.map_some, Option.some.injEq, Prod.mk.injEq] at step
        obtain ⟨rfl, masked⟩ := step
        dsimp only
        split
        · rename_i here
          subst here
          exact congrArg some masked
        · exact alike.shown e

theorem after (alike : b.Alike b') {incidents incidents' : List Incident}
    (run : List.Forall₂ Incident.Alike incidents incidents') :
    (b.after incidents).Alike (b'.after incidents') := by
  induction run generalizing b b' with
  | nil => exact alike
  | cons next _ ih => exact ih (alike.meet next)

end Alike

/-- Two runs of a bridge in which the same happens, but for answers that can be read and differ in what is not
shown of them, end with the same fingerprint. -/
theorem fingerprint_of_alike (b : Bridge) {incidents incidents' : List Incident}
    (run : List.Forall₂ Incident.Alike incidents incidents') :
    (b.after incidents).fingerprint = (b.after incidents').fingerprint :=
  ((Alike.refl b).after run).fingerprint

/-- The number of the vehicle, the places, the spaces and the order of the members differ, and one member is not
declared. -/
theorem fingerprint_of_alike_sample :
    let b := start .metric .electric "WBY1Z21000V000000" 0
    let now : Calendar.Moment := ⟨⟨2020, 1, 1⟩, 0, false⟩
    let parked := "\x7b\"vehicleStatus\":\x7b\"vin\":\"W1\",\"hood\":\"OPEN\"," ++
      "\"position\":\x7b\"lat\":48\x7d\x7d\x7d"
    let moved := "\x7b\"a\":1,\"vehicleStatus\": \x7b\"position\":\x7b\"heading\":90\x7d," ++
      "\"hood\":\"OPEN\"\x7d\x7d"
    let town := "\x7b\"destinations\":[\x7b\"city\":\"Ulm\",\"type\":\"POI\"\x7d]\x7d"
    let street := "\x7b\"destinations\":[\x7b\"type\":\"POI\",\"street\":\"Lane\"\x7d]\x7d"
    let run (status destinations : String) : List Incident :=
      [.answered now .status status, .failed .lastTrip (.transport "gone"),
        .answered now .destinations destinations, .ordered ⟨⟨.destination, "next"⟩, .onOff true⟩]
    List.Forall₂ Incident.Alike (run parked town) (run moved street) ∧
      (b.after (run parked town)).fingerprint = (b.after (run moved street)).fingerprint := by
  intro b now parked moved town street run
  have parkedTree : Tree.ofText parked = .object [(escaped "vehicleStatus", .object [
      (escaped "vin", .text (escaped "W1")), (escaped "hood", .text (escaped "OPEN")),
      (escaped "position", .object [(escaped "lat", .number (some (.whole 48)))] none)] none)] none := by cbv
  have movedTree : Tree.ofText moved = .object [(escaped "a", .number (some (.whole 1))),
      (escaped "vehicleStatus", .object [
        (escaped "position", .object [(escaped "heading", .number (some (.whole 90)))] none),
        (escaped "hood", .text (escaped "OPEN"))] none)] none := by cbv
  obtain ⟨status, readParked, shownParked⟩ : ∃ document, StatusDocument.ofText parked = .ok document ∧
      document.status.map VehicleStatus.shown = some { hood := some "OPEN", position := some {} } := by
    rw [StatusDocument.ofText, Json.read, parkedTree]
    exact ⟨_, rfl, rfl⟩
  obtain ⟨status', readMoved, shownMoved⟩ : ∃ document, StatusDocument.ofText moved = .ok document ∧
      document.status.map VehicleStatus.shown = some { hood := some "OPEN", position := some {} } := by
    rw [StatusDocument.ofText, Json.read, movedTree]
    exact ⟨_, rfl, rfl⟩
  have townTree : Tree.ofText town = .object [(escaped "destinations", .list [.object [
      (escaped "city", .text (escaped "Ulm")), (escaped "type", .text (escaped "POI"))] none] none)] none := by cbv
  have streetTree : Tree.ofText street = .object [(escaped "destinations", .list [.object [
      (escaped "type", .text (escaped "POI")), (escaped "street", .text (escaped "Lane"))] none] none)] none := by
    cbv
  have readTown : DestinationsDocument.ofText town = .ok ⟨some [{ city := some "Ulm", kind := some "POI" }]⟩ := by
    rw [DestinationsDocument.ofText, Json.read, townTree]
    rfl
  have readStreet :
      DestinationsDocument.ofText street = .ok ⟨some [{ street := some "Lane", kind := some "POI" }]⟩ := by
    rw [DestinationsDocument.ofText, Json.read, streetTree]
    rfl
  have run : List.Forall₂ Incident.Alike (run parked town) (run moved street) :=
    .cons (.status now readParked readMoved (shownParked.trans shownMoved.symm)) <| .cons (.same _) <|
      .cons (.destinations now readTown readStreet rfl) <| .cons (.same _) .nil
  exact ⟨run, fingerprint_of_alike b run⟩

end Bridge

end VehicleLink
