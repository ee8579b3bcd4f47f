import VehicleLink.Proofs.Json.Rewriting
import VehicleLink.Proofs.Report.ReadBack

namespace VehicleLink

open Json Relation

namespace Json

variable {ρ : Type} {shape : Shape} {ofJson : Json → ρ} {body body' : String} {t t' : Tree} {d : ρ}

theorem Rewrite.read_many {room : Nat} {need : Need} {u : Json} (rewrites : ReflTransGen (Rewrite shape) t t')
    (read : t.read room need shape = .ok u) : t'.read room need shape = .ok u := by
  induction rewrites with
  | refl => exact read
  | tail _ rewrite ih => exact rewrite.read ih

/-- A text of which a document is read begins with a value of the grammar. -/
theorem begins_of_read (closed : shape.Closed) (read : (Json.read shape body).map ofJson = .ok d) :
    ∃ t : Tree, t.Begins body := by
  obtain ⟨_, document, _⟩ := map_eq_ok.mp read
  exact ⟨_, Tree.begins_iff.mpr ⟨rfl, Tree.sound_of_read closed document⟩⟩

/-- A text rewritten as a document of a shape: the values with which the two texts begin differ by rewritings. -/
def Rewritten (shape : Shape) (body body' : String) : Prop :=
  ∃ t t' : Tree, t.Begins body ∧ t'.Begins body' ∧ ReflTransGen (Rewrite shape) t t'

theorem Rewritten.map_read (rewritten : Rewritten shape body body')
    (read : (Json.read shape body).map ofJson = .ok d) : (Json.read shape body').map ofJson = .ok d := by
  obtain ⟨t, t', begins, begins', rewrites⟩ := rewritten
  obtain ⟨u, document, rfl⟩ := map_eq_ok.mp read
  rw [Json.read, (Tree.begins_iff.mp begins).1] at document
  rw [Json.read, (Tree.begins_iff.mp begins').1, Rewrite.read_many rewrites document]
  rfl

end Json

/-- A text of which a report is read begins with a value, and the same report is read of the text rewritten. -/
theorem documents_rewritten (body : String) :
    (∀ d, StatusDocument.ofText body = .ok d → (∃ t : Tree, t.Begins body) ∧
      ∀ body', Rewritten StatusDocument.shape body body' → StatusDocument.ofText body' = .ok d) ∧
    (∀ d, LastTripDocument.ofText body = .ok d → (∃ t : Tree, t.Begins body) ∧
      ∀ body', Rewritten LastTripDocument.shape body body' → LastTripDocument.ofText body' = .ok d) ∧
    (∀ d, AllTripsDocument.ofText body = .ok d → (∃ t : Tree, t.Begins body) ∧
      ∀ body', Rewritten AllTripsDocument.shape body body' → AllTripsDocument.ofText body' = .ok d) ∧
    (∀ d, DestinationsDocument.ofText body = .ok d → (∃ t : Tree, t.Begins body) ∧
      ∀ body', Rewritten DestinationsDocument.shape body body' → DestinationsDocument.ofText body' = .ok d) :=
  ⟨fun _ read => ⟨begins_of_read StatusDocument.shape_closed read, fun _ rewritten => rewritten.map_read read⟩,
    fun _ read => ⟨begins_of_read LastTripDocument.shape_closed read, fun _ rewritten => rewritten.map_read read⟩,
    fun _ read => ⟨begins_of_read AllTripsDocument.shape_closed read, fun _ rewritten => rewritten.map_read read⟩,
    fun _ read =>
      ⟨begins_of_read DestinationsDocument.shape_closed read, fun _ rewritten => rewritten.map_read read⟩⟩

set_option maxRecDepth 1000 in
theorem documents_rewritten_sample :
    let body := "\x7b\"destinations\":[\x7b\"city\":\"Ulm\",\"lat\":1\x7d]\x7d"
    let body' := "\n\x7b\"x\":[true,\"\\ud800\"],\"destinations\" : " ++
      "[\x7b\"lat\":1,\t\"type\":null,\"city\":\"Ulm\"\x7d]\x7d "
    let places : DestinationsDocument := ⟨some [{ latitude := some 1.0, city := some "Ulm" }]⟩
    (StatusDocument.ofText body = .ok ⟨none⟩ ∧ Rewritten StatusDocument.shape body body' ∧
        StatusDocument.ofText body' = .ok ⟨none⟩) ∧
      (LastTripDocument.ofText body = .ok ⟨none⟩ ∧ Rewritten LastTripDocument.shape body body' ∧
        LastTripDocument.ofText body' = .ok ⟨none⟩) ∧
      (AllTripsDocument.ofText body = .ok ⟨none⟩ ∧ Rewritten AllTripsDocument.shape body body' ∧
        AllTripsDocument.ofText body' = .ok ⟨none⟩) ∧
      DestinationsDocument.ofText body = .ok places ∧ Rewritten DestinationsDocument.shape body body' ∧
        DestinationsDocument.ofText body' = .ok places := by
  intro body body' places
  have tree : Tree.ofText body = .object [(escaped "destinations", .list [.object [
      (escaped "city", .text (escaped "Ulm")), (escaped "lat", .number (some (.whole 1)))] none] none)] none := by cbv
  have tree' : Tree.ofText body' = .object [
      (escaped "x", .list [.flag true, .text ⟨[.unit 0xD800], none⟩] none),
      (escaped "destinations", .list [.object [(escaped "lat", .number (some (.whole 1))), (escaped "type", .null),
        (escaped "city", .text (escaped "Ulm"))] none] none)] none := by cbv
  have begins : Tree.Begins _ body := Tree.begins_iff.mpr ⟨tree, rfl⟩
  have begins' : Tree.Begins _ body' := Tree.begins_iff.mpr ⟨tree', rfl⟩
  have spelled := begins'.choose_spec.choose_spec.2
  have valid (m : Written × Tree) (member) : m.2.Valid := (spelled.object_mem (m := m) member).2
  -- For three of the reports the list of destinations is a member like any other.
  have elsewhere (fields : Fields) (other : fields.lookup "destinations" = none)
      (unknown : fields.lookup "x" = none) : Rewritten (.record .closed fields) body body' := by
    refine ⟨_, _, begins, begins', .head (.skipped (escaped_read _) other ?_)
      (.single (.undeclared (escaped_read _) unknown ?_))⟩
    · exact valid _ (List.mem_cons_of_mem _ List.mem_cons_self)
    · exact valid _ List.mem_cons_self
  have inside {t t' : Tree} (place : Rewrite Destination.shape t t') : Rewrite DestinationsDocument.shape
      (.object [(escaped "destinations", .list [t] none)] none)
      (.object [(escaped "destinations", .list [t'] none)] none) :=
    .member (escaped_read _) rfl (@Rewrite.item _ [] [] _ _ place)
  have here : Rewritten DestinationsDocument.shape body body' := by
    refine ⟨_, _, begins, begins', .head (inside (.unset (escaped_read "type") rfl ?_))
      (.head (inside (.permute ?_)) (.single (.undeclared (escaped_read _) (by decide) ?_)))⟩
    · simp [escaped_read]
    · exact @List.perm_append_comm _ [_, _] [_]
    · exact valid _ List.mem_cons_self
  have readStatus : StatusDocument.ofText body = .ok ⟨none⟩ := by
    rw [StatusDocument.ofText, Json.read, tree]
    rfl
  have readTrip : LastTripDocument.ofText body = .ok ⟨none⟩ := by
    rw [LastTripDocument.ofText, Json.read, tree]
    rfl
  have readTrips : AllTripsDocument.ofText body = .ok ⟨none⟩ := by
    rw [AllTripsDocument.ofText, Json.read, tree]
    rfl
  have readPlaces : DestinationsDocument.ofText body = .ok places := by
    rw [DestinationsDocument.ofText, Json.read, tree]
    rfl
  obtain ⟨status, trip, trips, destinations⟩ := documents_rewritten body
  have status' := elsewhere StatusDocument.fields (by decide) (by decide)
  have trip' := elsewhere LastTripDocument.fields (by decide) (by decide)
  have trips' := elsewhere AllTripsDocument.fields (by decide) (by decide)
  exact ⟨⟨readStatus, status', (status _ readStatus).2 _ status'⟩, ⟨readTrip, trip', (trip _ readTrip).2 _ trip'⟩,
    ⟨readTrips, trips', (trips _ readTrips).2 _ trips'⟩, readPlaces, here, (destinations _ readPlaces).2 _ here⟩

end VehicleLink
