import VehicleLink.Report.Status
import VehicleLink.Report.Trips
import VehicleLink.Report.Destinations
import VehicleLink.Proofs.Json.Closed

namespace VehicleLink

namespace Json

variable {room : Nat} {need : Need} {shape : Shape} {fields : Fields} {key : String} {u v : Json}

/-- What is written for a member after it has been read, where it is no record and no list. -/
def plain (v : Json) : String × Need × Shape → Json
  | (key, _, .text) => ofOption .text (v.textAt key)
  | (key, _, .flag) => ofOption .flag (v.flagAt key)
  | (key, _, .whole _ _) => ofOption .whole (v.wholeAt key)
  | (key, _, .real) => ofOption .real (v.realAt key)
  | (key, _, _) => (v.get? key).getD .null

theorem get?_object_map {value : String → Json} {f : String × Need × Shape} (member : f ∈ fields) :
    (Json.object (fields.map fun f => (f.1, value f.1))).get? f.1 = some (value f.1) := by
  rw [get?]
  induction fields with
  | nil => cases member
  | cons g rest ih =>
    rw [List.map_cons, lookup_cons_ite]
    split
    · rename_i same
      rw [same]
    · rename_i other
      rcases List.mem_cons.mp member with rfl | later
      · exact absurd rfl other
      · exact ih later

/-- Every declared member of a record in the form in which it is read stands at its key. -/
theorem Filled.member (filled : Filled room .required (.record .closed fields) u) {f : String × Need × Shape}
    (declared : f ∈ fields) : ∃ within v, u.get? f.1 = some v ∧ Filled within f.2.1 f.2.2 v := by
  cases filled with
  | record each => exact ⟨_, _, get?_object_map declared, each f declared⟩

/-- What stands at the key of a member in the form in which it is read is written as it is. -/
theorem Filled.plain_member {f : String × Need × Shape} (filled : Filled room f.2.1 f.2.2 v)
    (found : u.get? f.1 = some v) : u.plain f = v := by
  obtain ⟨key, need, shape⟩ := f
  cases filled with
  | unset =>
    cases shape <;> simp_all [plain, textAt, flagAt, wholeAt, realAt, text?, flag?, whole?, real?, ofOption]
  | _ => simp_all [plain, textAt, flagAt, wholeAt, realAt, text?, flag?, whole?, real?, ofOption]

/-- A record in the form in which it is read is what is written for its members. -/
theorem Filled.plain_eq (filled : Filled room .required (.record .closed fields) u) :
    .object (fields.map fun f => (f.1, u.plain f)) = u := by
  have plain {f} (declared : f ∈ fields) : u.plain f = (u.get? f.1).getD .null := by
    obtain ⟨within, v, found, here⟩ := filled.member declared
    rw [here.plain_member found, found, Option.getD_some]
  cases filled with
  | record each =>
    refine congrArg Json.object (List.map_congr_left fun f declared => ?_)
    rw [plain declared, get?_object_map declared, Option.getD_some]

theorem Filled.set (filled : Filled room need shape v) (set : v ≠ .null) : Filled room .required shape v := by
  cases filled with
  | unset => exact absurd rfl set
  | text s => exact .text s
  | flag b => exact .flag b
  | whole range => exact .whole range
  | real x => exact .real x
  | list each => exact .list each
  | record each => exact .record each

section Nested

variable {ρ : Type} {ofJson : Json → ρ} {toJson : ρ → Json}
  (back : ∀ {room v}, Filled room .required shape v → toJson (ofJson v) = v)
include back

/-- A nested record is written as the member that it was read of. -/
theorem Filled.recordAt_eq (filled : Filled room .required (.record .closed fields) u)
    (declared : field key shape ∈ fields) :
    ofOption toJson (u.recordAt ofJson key) = (u.get? key).getD .null := by
  obtain ⟨within, v, (found : u.get? key = some v), here⟩ := filled.member declared
  simp only [recordAt, found, Option.getD_some]
  split
  · rename_i none
    cases none
  · rename_i unset
    cases unset
    rfl
  · rename_i w set same
    cases same
    exact back (here.set set)

/-- A nested list is written as the member that it was read of. -/
theorem Filled.listAt_eq (filled : Filled room .required (.record .closed fields) u)
    (declared : field key (.list shape) ∈ fields) :
    ofOption (fun items => .list (items.map toJson)) (u.listAt ofJson key) = (u.get? key).getD .null := by
  obtain ⟨within, v, (found : u.get? key = some v), here⟩ := filled.member declared
  simp only [listAt, found, Option.bind_some, Option.getD_some]
  cases here with
  | unset => rfl
  | list each =>
    rw [list?, Option.map_some, ofOption, List.map_map]
    exact congrArg Json.list ((List.map_congr_left fun v member => back (each v member)).trans (List.map_id _))

end Nested

attribute [simp] Shape.Closed.text Shape.Closed.flag Shape.Closed.real

@[simp]
theorem Shape.integer_closed : Shape.integer.Closed := .whole (by decide) (by decide)

@[simp]
theorem Shape.list_closed {item : Shape} : (Shape.list item).Closed ↔ item.Closed :=
  ⟨fun closed => by cases closed; assumption, .list⟩

end Json

open Json

variable {room : Nat} {u : Json}

@[simp]
theorem ServiceEntry.shape_closed : ServiceEntry.shape.Closed :=
  .record (by simp [fields, field]) (by simp [fields, field])

/-- A service, read of a document in the form in which it is read, is written as this document. The same is proved
of every other record, the nested ones first. -/
theorem ServiceEntry.toJson_ofJson (filled : Filled room .required ServiceEntry.shape u) :
    (ServiceEntry.ofJson u).toJson = u :=
  filled.plain_eq

@[simp]
theorem CheckMessage.shape_closed : CheckMessage.shape.Closed :=
  .record (by simp [fields, field]) (by simp [fields, field])

theorem CheckMessage.toJson_ofJson (filled : Filled room .required CheckMessage.shape u) :
    (CheckMessage.ofJson u).toJson = u :=
  filled.plain_eq

@[simp]
theorem Position.shape_closed : Position.shape.Closed :=
  .record (by simp [fields, field]) (by simp [fields, field])

theorem Position.toJson_ofJson (filled : Filled room .required Position.shape u) :
    (Position.ofJson u).toJson = u :=
  filled.plain_eq

/-- The shape of the status is closed as soon as those of the records in it are. -/
@[simp]
theorem VehicleStatus.shape_closed : VehicleStatus.shape.Closed :=
  .record (by simp [fields, field]) (by simp [fields, field])

/-- The status is written as it was read, with the services, the messages and the position in it. -/
theorem VehicleStatus.toJson_ofJson (filled : Filled room .required VehicleStatus.shape u) :
    (VehicleStatus.ofJson u).toJson = u := by
  have position := filled.recordAt_eq Position.toJson_ofJson
    (by simp [fields, field] : field "position" Position.shape ∈ fields)
  have messages := filled.listAt_eq CheckMessage.toJson_ofJson
    (by simp [fields, field] : field "checkControlMessages" (.list CheckMessage.shape) ∈ fields)
  have services := filled.listAt_eq ServiceEntry.toJson_ofJson
    (by simp [fields, field] : field "cbsData" (.list ServiceEntry.shape) ∈ fields)
  simp only [ofJson, toJson, position, messages, services]
  exact filled.plain_eq

@[simp]
theorem StatusDocument.shape_closed : StatusDocument.shape.Closed :=
  .record (by simp [fields, field]) (by simp [fields, field])

theorem StatusDocument.toJson_ofJson (filled : Filled room .required StatusDocument.shape u) :
    (StatusDocument.ofJson u).toJson = u := by
  have status := filled.recordAt_eq VehicleStatus.toJson_ofJson
    (by simp [fields, field] : field "vehicleStatus" VehicleStatus.shape ∈ fields)
  rw [ofJson, toJson, status]
  exact filled.plain_eq

@[simp]
theorem LastTrip.shape_closed : LastTrip.shape.Closed :=
  .record (by simp [fields, field]) (by simp [fields, field])

theorem LastTrip.toJson_ofJson (filled : Filled room .required LastTrip.shape u) :
    (LastTrip.ofJson u).toJson = u :=
  filled.plain_eq

@[simp]
theorem LastTripDocument.shape_closed : LastTripDocument.shape.Closed :=
  .record (by simp [fields, field]) (by simp [fields, field])

theorem LastTripDocument.toJson_ofJson (filled : Filled room .required LastTripDocument.shape u) :
    (LastTripDocument.ofJson u).toJson = u := by
  have trip := filled.recordAt_eq LastTrip.toJson_ofJson
    (by simp [fields, field] : field "lastTrip" LastTrip.shape ∈ fields)
  rw [ofJson, toJson, trip]
  exact filled.plain_eq

@[simp]
theorem CommunityValue.shape_closed : CommunityValue.shape.Closed :=
  .record (by simp [fields, field]) (by simp [fields, field])

theorem CommunityValue.toJson_ofJson (filled : Filled room .required CommunityValue.shape u) :
    (CommunityValue.ofJson u).toJson = u :=
  filled.plain_eq

@[simp]
theorem CommunityRange.shape_closed : CommunityRange.shape.Closed :=
  .record (by simp [fields, field]) (by simp [fields, field])

theorem CommunityRange.toJson_ofJson (filled : Filled room .required CommunityRange.shape u) :
    (CommunityRange.ofJson u).toJson = u :=
  filled.plain_eq

@[simp]
theorem CommunityDistance.shape_closed : CommunityDistance.shape.Closed :=
  .record (by simp [fields, field]) (by simp [fields, field])

theorem CommunityDistance.toJson_ofJson (filled : Filled room .required CommunityDistance.shape u) :
    (CommunityDistance.ofJson u).toJson = u :=
  filled.plain_eq

@[simp]
theorem AllTrips.shape_closed : AllTrips.shape.Closed :=
  .record (by simp [fields, field]) (by simp [fields, field])

/-- The statistics of all trips are written as they were read, with the values of the community in them. -/
theorem AllTrips.toJson_ofJson (filled : Filled room .required AllTrips.shape u) :
    (AllTrips.ofJson u).toJson = u := by
  have value (key : String) (declared : field key CommunityValue.shape ∈ fields) :=
    filled.recordAt_eq CommunityValue.toJson_ofJson declared
  have range := filled.recordAt_eq CommunityRange.toJson_ofJson
    (by simp [fields, field] : field "chargecycleRange" CommunityRange.shape ∈ fields)
  have distance := filled.recordAt_eq CommunityDistance.toJson_ofJson
    (by simp [fields, field] : field "totalElectricDistance" CommunityDistance.shape ∈ fields)
  rw [ofJson, toJson, range, distance, value "avgElectricConsumption" (by simp [fields, field]),
    value "avgRecuperation" (by simp [fields, field]),
    value "avgCombinedConsumption" (by simp [fields, field])]
  exact filled.plain_eq

@[simp]
theorem AllTripsDocument.shape_closed : AllTripsDocument.shape.Closed :=
  .record (by simp [fields, field]) (by simp [fields, field])

theorem AllTripsDocument.toJson_ofJson (filled : Filled room .required AllTripsDocument.shape u) :
    (AllTripsDocument.ofJson u).toJson = u := by
  have trips := filled.recordAt_eq AllTrips.toJson_ofJson
    (by simp [fields, field] : field "allTrips" AllTrips.shape ∈ fields)
  rw [ofJson, toJson, trips]
  exact filled.plain_eq

@[simp]
theorem Destination.shape_closed : Destination.shape.Closed :=
  .record (by simp [fields, field]) (by simp [fields, field])

theorem Destination.toJson_ofJson (filled : Filled room .required Destination.shape u) :
    (Destination.ofJson u).toJson = u :=
  filled.plain_eq

@[simp]
theorem DestinationsDocument.shape_closed : DestinationsDocument.shape.Closed :=
  .record (by simp [fields, field]) (by simp [fields, field])

theorem DestinationsDocument.toJson_ofJson (filled : Filled room .required DestinationsDocument.shape u) :
    (DestinationsDocument.ofJson u).toJson = u := by
  have places := filled.listAt_eq Destination.toJson_ofJson
    (by simp [fields, field] : field "destinations" (.list Destination.shape) ∈ fields)
  rw [ofJson, toJson, places]
  exact filled.plain_eq

section ReadBack

variable {ρ : Type} {shape : Shape} {ofJson : Json → ρ} {toJson : ρ → Json} {body : String} {d : ρ}

/-- What is written for a report is read as the same report, if its record is written as it was read and its numbers
are read back one by one. -/
theorem map_read_toText (closed : shape.Closed)
    (back : ∀ {u}, Filled depthLimit .required shape u → toJson (ofJson u) = u)
    (read : (Json.read shape body).map ofJson = .ok d)
    (floats : ∀ x, .real x ∈ (toJson d).parts → Number.ReadsBack (.real x)) :
    (Json.read shape (toJson d).toText).map ofJson = .ok d := by
  obtain ⟨u, document, rfl⟩ := map_eq_ok.mp read
  have filled : Filled depthLimit .required shape u := .of_read closed document
  rw [back filled] at floats ⊢
  exact map_eq_ok.mpr ⟨u, read_toText closed filled floats, rfl⟩

end ReadBack

/-- What is written for a report that was read of some text is read as the same report, as long as its
floating-point numbers are read back one by one. -/
theorem documents_read_back (body : String) :
    (∀ d, StatusDocument.ofText body = .ok d →
      (∀ x, .real x ∈ d.toJson.parts → Number.ReadsBack (.real x)) →
        StatusDocument.ofText d.toJson.toText = .ok d) ∧
    (∀ d, LastTripDocument.ofText body = .ok d →
      (∀ x, .real x ∈ d.toJson.parts → Number.ReadsBack (.real x)) →
        LastTripDocument.ofText d.toJson.toText = .ok d) ∧
    (∀ d, AllTripsDocument.ofText body = .ok d →
      (∀ x, .real x ∈ d.toJson.parts → Number.ReadsBack (.real x)) →
        AllTripsDocument.ofText d.toJson.toText = .ok d) ∧
    (∀ d, DestinationsDocument.ofText body = .ok d →
      (∀ x, .real x ∈ d.toJson.parts → Number.ReadsBack (.real x)) →
        DestinationsDocument.ofText d.toJson.toText = .ok d) :=
  ⟨fun _ => map_read_toText StatusDocument.shape_closed StatusDocument.toJson_ofJson,
    fun _ => map_read_toText LastTripDocument.shape_closed LastTripDocument.toJson_ofJson,
    fun _ => map_read_toText AllTripsDocument.shape_closed AllTripsDocument.toJson_ofJson,
    fun _ => map_read_toText DestinationsDocument.shape_closed DestinationsDocument.toJson_ofJson⟩

set_option maxRecDepth 1000 in
/-- A status with a position, with a member that is not declared and with a null. -/
theorem documents_read_back_sample :
    let body := "\x7b\"vehicleStatus\":\x7b\"mileage\":7,\"cbsData\":[\x7b\x7d]\x7d," ++
      "\"destinations\":[\x7b\"lat\":1.5,\"type\":\"\\u0041\\n\"\x7d]\x7d"
    let status : StatusDocument := ⟨some { mileage := some 7, services := some [{}] }⟩
    let destinations : DestinationsDocument := ⟨some [{ latitude := some 1.5, kind := some "A\n" }]⟩
    (StatusDocument.ofText body = .ok status ∧ StatusDocument.ofText status.toJson.toText = .ok status) ∧
      (LastTripDocument.ofText body = .ok ⟨none⟩ ∧
        LastTripDocument.ofText (LastTripDocument.toJson ⟨none⟩).toText = .ok ⟨none⟩) ∧
      (AllTripsDocument.ofText body = .ok ⟨none⟩ ∧
        AllTripsDocument.ofText (AllTripsDocument.toJson ⟨none⟩).toText = .ok ⟨none⟩) ∧
      DestinationsDocument.ofText body = .ok destinations ∧
      DestinationsDocument.ofText destinations.toJson.toText = .ok destinations := by
  intro body status destinations
  -- The tree is computed from the tokens, all but the value of the fraction.
  have tokens : tokens body.toList = [.objectOpen, .text (escaped "vehicleStatus").pieces none, .colon, .objectOpen,
      .text (escaped "mileage").pieces none, .colon, .number ⟨false, ['7'], none, none⟩, .comma,
      .text (escaped "cbsData").pieces none, .colon, .listOpen, .objectOpen, .objectClose, .listClose, .objectClose,
      .comma, .text (escaped "destinations").pieces none, .colon, .listOpen, .objectOpen,
      .text (escaped "lat").pieces none, .colon, .number ⟨false, ['1'], some ['5'], none⟩, .comma,
      .text (escaped "type").pieces none, .colon, .text [.unit 65, .char '\n'] none, .objectClose, .listClose,
      .objectClose] := by cbv
  have tree : Tree.ofText body = .object [
      (escaped "vehicleStatus", .object [(escaped "mileage", .number (some (.whole 7))),
        (escaped "cbsData", .list [.object [] none] none)] none),
      (escaped "destinations", .list [.object [(escaped "lat", .number (some (.real 1.5))),
        (escaped "type", .text ⟨[.unit 65, .char '\n'], none⟩)] none] none)] none := by
    rw [Tree.ofText, tokens, ← Numeral.three_halves_value]
    rfl
  have readStatus : StatusDocument.ofText body = .ok status := by
    rw [StatusDocument.ofText, Json.read, tree]
    rfl
  have readTrip : LastTripDocument.ofText body = .ok ⟨none⟩ := by
    rw [LastTripDocument.ofText, Json.read, tree]
    rfl
  have readTrips : AllTripsDocument.ofText body = .ok ⟨none⟩ := by
    rw [AllTripsDocument.ofText, Json.read, tree]
    rfl
  have readPlaces : DestinationsDocument.ofText body = .ok destinations := by
    rw [DestinationsDocument.ofText, Json.read, tree]
    rfl
  have floats {v : Json} (only : ∀ x, .real x ∈ v.parts → x = 1.5) (x : Float) (part : .real x ∈ v.parts) :
      Number.ReadsBack (.real x) := only x part ▸ Number.readsBack_three_halves
  obtain ⟨backStatus, backTrip, backTrips, backPlaces⟩ := documents_read_back body
  refine ⟨⟨readStatus, backStatus _ readStatus (floats ?_)⟩, ⟨readTrip, backTrip _ readTrip (floats ?_)⟩,
    ⟨readTrips, backTrips _ readTrips (floats ?_)⟩, readPlaces, backPlaces _ readPlaces (floats ?_)⟩
  · simp [status, StatusDocument.toJson, VehicleStatus.toJson, ServiceEntry.toJson, parts, partsOfMembers,
      partsOfItems, ofOption, Json.real, Json.whole]
  · simp [LastTripDocument.toJson, parts, partsOfMembers, ofOption, Json.real]
  · simp [AllTripsDocument.toJson, parts, partsOfMembers, ofOption, Json.real]
  · simp [destinations, DestinationsDocument.toJson, Destination.toJson, parts, partsOfMembers, partsOfItems,
      ofOption, Json.real]

end VehicleLink
