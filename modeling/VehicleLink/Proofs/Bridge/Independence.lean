import Mathlib.Data.List.Nodup
import Mathlib.Data.List.Perm.Basic
import VehicleLink.Proofs.Bridge.Steps

namespace VehicleLink

/-- The reply to the request for a document: an answer, or a failure to get one. -/
structure Arrival where
  now : Calendar.Moment
  document : Endpoint
  content : Except Failure String

namespace Bridge

def receive (r : Arrival) (b : Bridge) : Outcome (Except Failure Unit) :=
  match r.content with
  | .ok body => b.answer r.now r.document body
  | .error f => ⟨b.fail r.document f, [], .ok ()⟩

/-- The bridge after several replies, one after the other. -/
def receiveAll (b : Bridge) (replies : List Arrival) : Bridge := replies.foldl (fun b r => (b.receive r).bridge) b

/-- Two bridges are the same in all that replies for one document have to do with. -/
structure AgreeOn (e : Endpoint) (b b' : Bridge) : Prop where
  settings : (b.units, b.vehicleType, b.vin, b.zone) = (b'.units, b'.vehicleType, b'.vin, b'.zone)
  kept : b.answers e = b'.answers e
  status : e = .status → (b.imperial, b.services, b.checks) = (b'.imperial, b'.services, b'.checks)
  destinations : e = .destinations → b.destinations = b'.destinations
  profile : e = .chargeProfile → b.profile = b'.profile

variable {e f : Endpoint} {r r' : Arrival} {b b' b'' : Bridge}

namespace AgreeOn

theorem refl (e : Endpoint) (b : Bridge) : AgreeOn e b b := ⟨rfl, rfl, fun _ => rfl, fun _ => rfl, fun _ => rfl⟩

theorem symm (same : AgreeOn e b b') : AgreeOn e b' b where
  settings := same.settings.symm
  kept := same.kept.symm
  status is := (same.status is).symm
  destinations is := (same.destinations is).symm
  profile is := (same.profile is).symm

theorem trans (same : AgreeOn e b b') (same' : AgreeOn e b' b'') : AgreeOn e b b'' where
  settings := same.settings.trans same'.settings
  kept := same.kept.trans same'.kept
  status is := (same.status is).trans (same'.status is)
  destinations is := (same.destinations is).trans (same'.destinations is)
  profile is := (same.profile is).trans (same'.profile is)

/-- The documents' parts are all there is. -/
theorem eq (same : ∀ e, AgreeOn e b b') : b = b' := by
  have answers : b.answers = b'.answers := funext fun e => (same e).kept
  have settings := (same .status).settings
  have status := (same .status).status rfl
  have destinations := (same .destinations).destinations rfl
  have profile := (same .chargeProfile).profile rfl
  obtain ⟨_, _, _, _, _, _, _, _, _, _⟩ := b
  obtain ⟨_, _, _, _, _, _, _, _, _, _⟩ := b'
  cases settings
  cases status
  cases answers
  cases destinations
  cases profile
  rfl

end AgreeOn

section Writes

theorem remember_agreeOn_other (different : e ≠ f) (text : String) : AgreeOn e b (b.remember f text) where
  settings := rfl
  kept := (if_neg different).symm
  status _ := rfl
  destinations _ := rfl
  profile _ := rfl

/-- Taking an answer in writes only its own document's part of the bridge. -/
theorem takeAnswer_agreeOn_other (different : e ≠ f) (now : Calendar.Moment) (body : String) :
    AgreeOn e b (b.takeAnswer now f body).bridge := by
  have way := takeAnswer_taken b now f body
  generalize b.takeAnswer now f body = outcome at way ⊢
  cases way with
  | unread | noStatus | lastTrip | allTrips | unusable => exact .refl e b
  | status => exact ⟨rfl, rfl, fun is => absurd is different, fun _ => rfl, fun _ => rfl⟩
  | destinations => exact ⟨rfl, rfl, fun _ => rfl, fun is => absurd is different, fun _ => rfl⟩
  | profile => exact ⟨rfl, rfl, fun _ => rfl, fun _ => rfl, fun is => absurd is different⟩

/-- A reply leaves alone what the replies for another document have to do with. -/
theorem receive_agreeOn_other (different : e ≠ r.document) : AgreeOn e b (b.receive r).bridge := by
  unfold receive
  split
  · rename_i body _
    have remembered : AgreeOn e b (b.remember r.document body) := remember_agreeOn_other different body
    exact remembered.trans (takeAnswer_agreeOn_other different r.now body)
  · exact remember_agreeOn_other different _

end Writes

section Reads

/-- Two outcomes tell the same, have the same result, and leave the same behind for replies for one document. -/
structure SameOn (e : Endpoint) {α : Type} (outcome outcome' : Outcome α) : Prop where
  bridge : AgreeOn e outcome.bridge outcome'.bridge
  events : outcome.events = outcome'.events
  result : outcome.result = outcome'.result

theorem remember_agreeOn (same : AgreeOn e b b') (text : String) :
    AgreeOn e (b.remember e text) (b'.remember e text) where
  settings := same.settings
  kept := (if_pos rfl).trans (if_pos rfl).symm
  status := same.status
  destinations := same.destinations
  profile := same.profile

/-- Reading goes alike where taking in what has been read does. -/
theorem readWith_sameOn {δ : Type} {read : Except Json.Problem δ} {take take' : δ → Bridge × List Event}
    (same : AgreeOn e b b') (takes : ∀ document, AgreeOn e (take document).1 (take' document).1 ∧
      (take document).2 = (take' document).2) : SameOn e (b.readWith read take) (b'.readWith read take') := by
  cases read with
  | error problem => exact ⟨same, rfl, rfl⟩
  | ok document => exact ⟨(takes document).1, (takes document).2, rfl⟩

theorem takeStatus_agreeOn (same : AgreeOn .status b b') (now : Calendar.Moment) (s : VehicleStatus) :
    AgreeOn .status (b.takeStatus now s).1 (b'.takeStatus now s).1 ∧
      (b.takeStatus now s).2 = (b'.takeStatus now s).2 := by
  obtain ⟨settings, kept, status, _, _⟩ := same
  have parts := status rfl
  obtain ⟨_, _, _, _, _, _, _, _, _, _⟩ := b
  obtain ⟨_, _, _, _, _, _, _, _, _, _⟩ := b'
  cases settings
  cases parts
  exact ⟨⟨rfl, kept, fun _ => rfl, nofun, nofun⟩, rfl⟩

theorem takeDestinations_agreeOn (same : AgreeOn .destinations b b') (items : List Destination) :
    AgreeOn .destinations (b.takeDestinations items).1 (b'.takeDestinations items).1 ∧
      (b.takeDestinations items).2 = (b'.takeDestinations items).2 := by
  have list := same.destinations rfl
  unfold takeDestinations destinationView
  rw [list]
  exact ⟨⟨same.settings, same.kept, nofun, fun _ => rfl, nofun⟩, rfl⟩

/-- Taking an answer in reads only its own document's part of the bridge. -/
theorem takeAnswer_sameOn (same : AgreeOn e b b') (now : Calendar.Moment) (body : String) :
    SameOn e (b.takeAnswer now e body) (b'.takeAnswer now e body) := by
  cases e with
  | status =>
    refine readWith_sameOn same fun document => ?_
    cases document.status with
    | none => exact ⟨same, rfl⟩
    | some s => exact takeStatus_agreeOn same now s
  | lastTrip | allTrips =>
    unfold takeAnswer
    dsimp only
    refine readWith_sameOn same fun document => ?_
    exact ⟨same, rfl⟩
  | destinations => exact readWith_sameOn same fun document => takeDestinations_agreeOn same _
  | chargeProfile =>
    unfold takeAnswer
    dsimp only
    split
    · exact ⟨⟨same.settings, same.kept, nofun, nofun, fun _ => rfl⟩, rfl, rfl⟩
    · exact ⟨same, rfl, rfl⟩

theorem receive_sameOn (same : AgreeOn r.document b b') : SameOn r.document (b.receive r) (b'.receive r) := by
  unfold receive
  split
  · exact takeAnswer_sameOn (remember_agreeOn same _) r.now _
  · exact ⟨remember_agreeOn same _, rfl, rfl⟩

end Reads

/-- A reply does the same after a reply for another document as before it. -/
theorem receive_sameOn_after (different : r.document ≠ r'.document) (b : Bridge) :
    SameOn r.document (b.receive r) ((b.receive r').bridge.receive r) :=
  receive_sameOn (receive_agreeOn_other different)

/-- Replies for two documents can change places. -/
theorem receive_comm (different : r.document ≠ r'.document) (b : Bridge) :
    ((b.receive r).bridge.receive r').bridge = ((b.receive r').bridge.receive r).bridge := by
  refine AgreeOn.eq fun g => ?_
  by_cases own : g = r.document
  · subst own
    exact (receive_agreeOn_other different).symm.trans (receive_sameOn_after different b).bridge
  · by_cases other : g = r'.document
    · subst other
      exact (receive_sameOn_after different.symm b).bridge.symm.trans (receive_agreeOn_other different.symm)
    · -- Neither reply has to do with a third document.
      have first : AgreeOn g b ((b.receive r).bridge.receive r').bridge :=
        (receive_agreeOn_other own).trans (receive_agreeOn_other other)
      have second : AgreeOn g b ((b.receive r').bridge.receive r).bridge :=
        (receive_agreeOn_other other).trans (receive_agreeOn_other own)
      exact first.symm.trans second

/-- Two replies for different documents leave the same bridge in whichever order they come in, and each of them
tells the same and has the same result, whether it comes first or second. -/
theorem replies_independent (different : r.document ≠ r'.document) (b : Bridge) :
    let first := b.receive r
    let second := b.receive r'
    let secondLater := first.bridge.receive r'
    let firstLater := second.bridge.receive r
    secondLater.bridge = firstLater.bridge ∧
      (firstLater.result = first.result ∧ firstLater.events = first.events) ∧
      secondLater.result = second.result ∧ secondLater.events = second.events := by
  intro first second secondLater firstLater
  have early := receive_sameOn_after different b
  have late := receive_sameOn_after different.symm b
  exact ⟨receive_comm different b, ⟨early.result.symm, early.events.symm⟩, late.result.symm, late.events.symm⟩

/-- A status from a country with miles, and a destination. -/
theorem replies_independent_sample :
    let now : Calendar.Moment := ⟨⟨2020, 1, 1⟩, 0, false⟩
    let status : Arrival := ⟨now, .status, .ok "\x7b\"vehicleStatus\":\x7b\"vehicleCountry\":\"US\"\x7d\x7d"⟩
    let places : Arrival := ⟨now, .destinations, .ok "\x7b\"destinations\":[\x7b\"city\":\"Munich\"\x7d]\x7d"⟩
    let b := start .autodetect .electric "" 0
    let first := b.receive status
    let second := b.receive places
    let secondLater := first.bridge.receive places
    let firstLater := second.bridge.receive status
    status.document ≠ places.document ∧
      (firstLater.bridge.imperial = true ∧ firstLater.bridge.destinations.items.length = 1) ∧
      secondLater.bridge = firstLater.bridge ∧
      (firstLater.result = first.result ∧ firstLater.events = first.events) ∧
      secondLater.result = second.result ∧ secondLater.events = second.events := by
  intro now status places b first second secondLater firstLater
  have different : status.document ≠ places.document := by decide
  have taken : firstLater.bridge.imperial = true ∧ firstLater.bridge.destinations.items.length = 1 := by
    decide +kernel
  exact ⟨different, taken, replies_independent different b⟩

/-- However many replies for other documents have come, a reply does the same as at first. -/
theorem receive_sameOn_later {replies : List Arrival} (others : ∀ r' ∈ replies, r.document ≠ r'.document)
    (b : Bridge) : SameOn r.document (b.receive r) ((b.receiveAll replies).receive r) := by
  suffices same : AgreeOn r.document b (b.receiveAll replies) from receive_sameOn same
  induction replies generalizing b with
  | nil => exact .refl _ b
  | cons r' rest ih =>
    obtain ⟨here, later⟩ := List.forall_mem_cons.mp others
    exact (receive_agreeOn_other here).trans (ih later (b.receive r').bridge)

/-- The replies of one cycle, which are for different documents, leave the same bridge in any order. -/
theorem receiveAll_perm {replies replies' : List Arrival} (distinct : (replies.map Arrival.document).Nodup)
    (same : replies.Perm replies') (b : Bridge) : b.receiveAll replies = b.receiveAll replies' := by
  refine same.foldl_eq' (fun r member r' member' b => ?_) b
  by_cases different : r.document = r'.document
  · rw [List.inj_on_of_nodup_map distinct member member' different]
  · exact receive_comm different b

end Bridge

end VehicleLink
