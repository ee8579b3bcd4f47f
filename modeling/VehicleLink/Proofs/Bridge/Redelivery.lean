import VehicleLink.Proofs.Bridge.Browsing
import VehicleLink.Proofs.Bridge.Independence

namespace VehicleLink

namespace Browse

variable {α : Type} {l : Browse α}

/-- A settled list stays as it is. -/
theorem Settled.settle_eq (settled : l.Settled) : l.settle = l := by
  obtain ⟨items, cursor⟩ := l
  cases place : cursor with
  | none =>
    have empty : items = [] := settled.nowhere.mp place
    rw [empty]
    rfl
  | some i =>
    have bound : i < items.length := settled.within i place
    have nonempty : items ≠ [] := List.ne_nil_of_length_pos (by omega)
    rw [settle_of_ne_nil (l := ⟨items, some i⟩) nonempty]
    dsimp only [Option.elim]
    rw [if_pos bound]

theorem replace_eq_self {items : List α} (brought : l.items = items) : l.replace items = l := by
  rw [← brought]
  rfl

/-- A list that has been refreshed stays as it is when the same entries come again. -/
theorem refresh_again (l : Browse α) (items : List α) :
    ((l.replace items).settle.replace items).settle = (l.replace items).settle := by
  have brought : (l.replace items).settle.items = items := by rw [replace_settle]
  rw [replace_eq_self brought]
  exact (settle_settled _).settle_eq

end Browse

/-- The same reply, perhaps at another moment. -/
def Arrival.SameAs (r r' : Arrival) : Prop := r.document = r'.document ∧ r.content = r'.content

namespace Bridge

variable {e : Endpoint} {body : String}

/-- Handling something again, at whatever moment, changes nothing more and has the same result; at the same moment
it tells the channels the same. -/
structure Repeatable (handle : Calendar.Moment → Bridge → Outcome (Except Failure Unit)) : Prop where
  bridge : ∀ b now later, (handle later (handle now b).bridge).bridge = (handle now b).bridge
  result : ∀ b now later, (handle later (handle now b).bridge).result = (handle now b).result
  told : ∀ b now, channelStates (handle now (handle now b).bridge).events = channelStates (handle now b).events

/-- A status that is taken in a second time, at whatever moment, leaves the bridge as it is. -/
theorem takeStatus_again (b : Bridge) (now later : Calendar.Moment) (s : VehicleStatus) :
    ((b.takeStatus now s).1.takeStatus later s).1 = (b.takeStatus now s).1 := by
  have services := b.services.refresh_again s.serviceList
  have checks := b.checks.refresh_again s.checkList
  by_cases detected : b.units = .autodetect
  · simp only [takeStatus, detected, if_true, services, checks]
  · simp only [takeStatus, detected, if_false, services, checks]

theorem takeStatus_told_again (b : Bridge) (now : Calendar.Moment) (s : VehicleStatus) :
    channelStates ((b.takeStatus now s).1.takeStatus now s).2 = channelStates (b.takeStatus now s).2 := by
  -- What is told is a function of the bridge afterwards, which is the same bridge.
  rw [channelStates_takeStatus, takeStatus_again, channelStates_takeStatus]

theorem takeDestinations_again (b : Bridge) (items : List Destination) :
    (b.takeDestinations items).1.takeDestinations items = b.takeDestinations items := by
  have destinations := b.destinations.refresh_again items
  simp only [takeDestinations, destinations]

/-- Reading an answer can be repeated where taking in what has been read can. -/
theorem readWith_repeatable {α : Type} (read : Except Json.Problem α)
    (take : Calendar.Moment → α → Bridge → Bridge × List Event)
    (bridge : ∀ document b now later, (take later document (take now document b).1).1 = (take now document b).1)
    (told : ∀ document b now,
      channelStates (take now document (take now document b).1).2 = channelStates (take now document b).2) :
    Repeatable fun now b => b.readWith read fun document => take now document b := by
  cases read with
  | error problem => exact ⟨fun _ _ _ => rfl, fun _ _ _ => rfl, fun _ _ => rfl⟩
  | ok document => exact ⟨bridge document, fun _ _ _ => rfl, told document⟩

theorem takeAnswer_repeatable (e : Endpoint) (body : String) :
    Repeatable fun now b => b.takeAnswer now e body := by
  cases e with
  | status =>
    refine readWith_repeatable (StatusDocument.ofText body) _ (fun document b now later => ?_)
      fun document b now => ?_
    · cases document.status with
      | none => rfl
      | some s => exact b.takeStatus_again now later s
    · cases document.status with
      | none => rfl
      | some s => exact b.takeStatus_told_again now s
  | lastTrip =>
    exact readWith_repeatable (LastTripDocument.ofText body)
      (fun _ document b => (b, updates ((document.lastTrip.map lastTripView).getD []))) (fun _ _ _ _ => rfl)
      fun _ _ _ => rfl
  | allTrips =>
    exact readWith_repeatable (AllTripsDocument.ofText body)
      (fun _ document b => (b, updates ((document.allTrips.map allTripsView).getD []))) (fun _ _ _ _ => rfl)
      fun _ _ _ => rfl
  | destinations =>
    refine readWith_repeatable (DestinationsDocument.ofText body)
      (fun _ document b => b.takeDestinations (document.destinations.getD [])) (fun document b _ _ => ?_)
      fun document b _ => ?_
    · rw [takeDestinations_again]
    · rw [takeDestinations_again]
  | chargeProfile =>
    unfold takeAnswer
    cases ChargeProfile.ofText body with
    | error problem => exact ⟨fun _ _ _ => rfl, fun _ _ _ => rfl, fun _ _ => rfl⟩
    | ok p => exact ⟨fun _ _ _ => rfl, fun _ _ _ => rfl, fun _ _ => rfl⟩

theorem remember_eq_self {b : Bridge} (kept : b.answers e = some body) : b.remember e body = b := by
  have answers : (fun f => if f = e then some body else b.answers f) = b.answers := by
    funext f
    by_cases own : f = e
    · rw [if_pos own, own, kept]
    · rw [if_neg own]
  rw [remember, answers]

/-- An answer can be given again, at whatever moment. -/
theorem answer_repeatable (e : Endpoint) (body : String) : Repeatable fun now b => b.answer now e body := by
  have taken := takeAnswer_repeatable e body
  -- The second time the answer is kept already, so all that is left is to take it in again.
  have again (b : Bridge) (now later : Calendar.Moment) : (b.answer now e body).bridge.answer later e body =
      ((b.remember e body).takeAnswer now e body).bridge.takeAnswer later e body := by
    have kept : (b.answer now e body).bridge.answers e = some body := by
      have archive := congrArg (·.2.2 e) (answer_archive (b := b) now e body)
      exact archive.trans (if_pos rfl)
    have remembered := remember_eq_self kept
    rw [answer, remembered, answer]
  refine ⟨fun b now later => ?_, fun b now later => ?_, fun b now => ?_⟩
  · rw [again]
    exact taken.bridge (b.remember e body) now later
  · rw [again]
    exact taken.result (b.remember e body) now later
  · rw [again]
    exact taken.told (b.remember e body) now

section Polls

variable {r r' : Arrival} {b : Bridge}

/-- A bridge that a reply finds as it would leave it, whenever it comes. -/
def Has (b : Bridge) (r : Arrival) : Prop := ∀ again, again.SameAs r → (b.receive again).bridge = b

theorem receive_has (b : Bridge) (r : Arrival) : (b.receive r).bridge.Has r := by
  obtain ⟨now, e, content⟩ := r
  rintro ⟨later, e', content'⟩ ⟨document, same⟩
  dsimp only at document same
  subst document same
  cases content' with
  | ok body => exact (answer_repeatable e' body).bridge b now later
  | error f => exact remember_eq_self (if_pos rfl)

/-- A reply for another document does not take this away. -/
theorem Has.receive (has : b.Has r) (different : r.document ≠ r'.document) : (b.receive r').bridge.Has r := by
  intro again same
  have apart : r'.document ≠ again.document := fun equal => different (same.1.symm.trans equal.symm)
  rw [receive_comm apart, has again same]

theorem Has.receiveAll (has : b.Has r) {replies : List Arrival}
    (others : ∀ r' ∈ replies, r.document ≠ r'.document) : (b.receiveAll replies).Has r := by
  induction replies generalizing b with
  | nil => exact has
  | cons r' rest ih =>
    obtain ⟨here, later⟩ := List.forall_mem_cons.mp others
    exact ih (has.receive here) later

theorem receiveAll_has {replies : List Arrival} (distinct : (replies.map Arrival.document).Nodup)
    (member : r ∈ replies) (b : Bridge) : (b.receiveAll replies).Has r := by
  induction replies generalizing b with
  | nil => cases member
  | cons first rest ih =>
    rw [List.map_cons, List.nodup_cons] at distinct
    obtain ⟨apart, distinct⟩ := distinct
    rcases List.mem_cons.mp member with rfl | later
    · refine (receive_has b r).receiveAll fun r' member' same => apart ?_
      rw [same]
      exact List.mem_map_of_mem member'
    · exact ih distinct later (b.receive first).bridge

theorem receiveAll_of_has {replies : List Arrival} (has : ∀ r ∈ replies, b.Has r) :
    b.receiveAll replies = b := by
  induction replies with
  | nil => rfl
  | cons r rest ih =>
    obtain ⟨here, later⟩ := List.forall_mem_cons.mp has
    have first : (b.receive r).bridge = b := here r ⟨rfl, rfl⟩
    rw [Bridge.receiveAll, List.foldl_cons, first]
    exact ih later

end Polls

/-- An answer that comes twice in a row leaves the same bridge the second time, has the same result, and tells the
channels the same. After the replies of a poll, which are for different documents, the same replies can come again
in any order, number and moment: the bridge stays as it is, with the cursors of its lists and its unit system. -/
theorem answer_again (b : Bridge) (now : Calendar.Moment) (e : Endpoint) (body : String) :
    let first := b.answer now e body
    let second := first.bridge.answer now e body
    second.bridge = first.bridge ∧ second.result = first.result ∧
      channelStates second.events = channelStates first.events ∧
      ∀ poll again : List Arrival, (poll.map Arrival.document).Nodup →
        (∀ r ∈ again, ∃ r₀ ∈ poll, r.SameAs r₀) →
        (b.receiveAll poll).receiveAll again = b.receiveAll poll := by
  intro first second
  have repeatable := answer_repeatable e body
  refine ⟨repeatable.bridge b now now, repeatable.result b now now, repeatable.told b now, ?_⟩
  intro poll again distinct same
  refine receiveAll_of_has fun r member => ?_
  obtain ⟨r₀, polled, document, content⟩ := same r member
  intro other equal
  exact receiveAll_has distinct polled b other ⟨equal.1.trans document, equal.2.trans content⟩

/-- A status with one service, from a country with miles. It finds the cursor behind its list and the other unit
system, and puts both right at once. -/
theorem answer_again_sample :
    let now : Calendar.Moment := ⟨⟨2020, 1, 1⟩, 0, false⟩
    let body := "\x7b\"vehicleStatus\":\x7b\"vehicleCountry\":\"US\",\"cbsData\":[\x7b\x7d]\x7d\x7d"
    let b := { start .autodetect .electric "" 0 with services := ⟨[], some 7⟩ }
    let first := b.answer now .status body
    let second := first.bridge.answer now .status body
    let poll : List Arrival := [⟨now, .status, .ok body⟩, ⟨now, .lastTrip, .error .missingToken⟩]
    (first.bridge.services.cursor = some 0 ∧ first.bridge.imperial = true) ∧
      (second.bridge = first.bridge ∧ second.result = first.result ∧
        channelStates second.events = channelStates first.events) ∧
      (b.receiveAll poll).receiveAll poll.reverse = b.receiveAll poll := by
  intro now body b first second poll
  have put : first.bridge.services.cursor = some 0 ∧ first.bridge.imperial = true := by decide +kernel
  obtain ⟨bridge, result, told, polls⟩ := answer_again b now .status body
  refine ⟨put, ⟨bridge, result, told⟩, polls poll poll.reverse (by decide) fun r member => ?_⟩
  exact ⟨r, List.mem_reverse.mp member, rfl, rfl⟩

end Bridge

end VehicleLink
