import VehicleLink.Bridge.Answer
import VehicleLink.Bridge.Order

namespace VehicleLink.Bridge

/-- What can come of an answer to the request for a document. -/
inductive Taken (b : Bridge) (now : Calendar.Moment) (body : String) :
    Endpoint → Outcome (Except Failure Unit) → Prop
  | unread {e : Endpoint} (other : e ≠ .chargeProfile) (f : Failure) : Taken b now body e ⟨b, [], .error f⟩
  | status (s : VehicleStatus) :
      Taken b now body .status ⟨(b.takeStatus now s).1, (b.takeStatus now s).2, .ok ()⟩
  | noStatus (note : String) : Taken b now body .status ⟨b, [.warn note], .ok ()⟩
  | lastTrip (trip : Option LastTrip) :
      Taken b now body .lastTrip ⟨b, updates ((trip.map lastTripView).getD []), .ok ()⟩
  | allTrips (trips : Option AllTrips) :
      Taken b now body .allTrips ⟨b, updates ((trips.map allTripsView).getD []), .ok ()⟩
  | destinations (items : List Destination) : Taken b now body .destinations
      ⟨(b.takeDestinations items).1, (b.takeDestinations items).2, .ok ()⟩
  | profile {p : ChargeProfile} (read : ChargeProfile.ofText body = .ok p) :
      Taken b now body .chargeProfile ⟨(b.takeProfile p).1, (b.takeProfile p).2, .ok ()⟩
  | unusable {problem : ProfileProblem} (unread : ChargeProfile.ofText body = .error problem) (note : String) :
      Taken b now body .chargeProfile ⟨b, [.warn note], .ok ()⟩

/-- What can come of a command. -/
inductive Ordered (b : Bridge) (c : ChannelCommand) : Outcome (Except CommandProblem CommandResult) → Prop
  | rejected (problem : CommandProblem) : Ordered b c (b.rejected problem)
  | asked : Ordered b c ⟨b, [], b.payload.map .send⟩
  | ignored : Ordered b c (b.applied [])
  | edited {p : ChargeProfile} (loaded : b.loadedProfile? = some p) (e : ChargeEdit) {next : Bridge}
      (changed : next = { b with profile := some (p.edit e) }) :
      Ordered b c (next.applied (updates next.profileView))
  | service : Ordered b c b.nextService
  | check : Ordered b c b.nextCheck
  | destination : Ordered b c b.nextDestination
  | fingerprint (group : c.channel.group = .troubleshoot) : Ordered b c (b.tellFingerprint c)

variable {b : Bridge} {c : ChannelCommand}

/-- A document is read to its end before anything of it is taken in. -/
theorem readWith_taken {now : Calendar.Moment} {body : String} {e : Endpoint} {α : Type}
    {read : Except Json.Problem α} {take : α → Bridge × List Event} (other : e ≠ .chargeProfile)
    (takes : ∀ document, Taken b now body e ⟨(take document).1, (take document).2, .ok ()⟩) :
    Taken b now body e (b.readWith read take) := by
  cases read with
  | error problem => exact .unread other _
  | ok document => exact takes document

/-- An answer goes one of these ways. -/
theorem takeAnswer_taken (b : Bridge) (now : Calendar.Moment) (e : Endpoint) (body : String) :
    Taken b now body e (b.takeAnswer now e body) := by
  unfold takeAnswer
  cases e with
  | status =>
    refine readWith_taken (by decide) fun document => ?_
    split
    · exact .status _
    · exact .noStatus _
  | lastTrip => exact readWith_taken (by decide) fun document => .lastTrip _
  | allTrips => exact readWith_taken (by decide) fun document => .allTrips _
  | destinations => exact readWith_taken (by decide) fun document => .destinations _
  | chargeProfile =>
    cases read : ChargeProfile.ofText body with
    | ok p => exact .profile read
    | error problem => exact .unusable read _

theorem editProfile_ordered (target : ChargeTarget) : Ordered b c (b.editProfile target c.command) := by
  unfold editProfile
  split
  · exact .rejected _
  · rename_i p loaded
    split
    · exact .rejected _
    · exact .edited loaded _ rfl

theorem orderCharge_ordered : Ordered b c (b.orderCharge c) := by
  unfold orderCharge
  split
  · exact .rejected _
  · unfold sendProfile
    split
    · exact .asked
    · exact .ignored
  · exact editProfile_ordered _

/-- A command goes one of these ways. -/
theorem order_ordered (b : Bridge) (c : ChannelCommand) : Ordered b c (b.order c) := by
  unfold order
  split
  · exact orderCharge_ordered
  · split
    · exact .service
    · exact .rejected _
  · split
    · exact .check
    · exact .rejected _
  · split
    · exact .destination
    · exact .rejected _
  · rename_i troubleshoot
    split
    · exact .fingerprint troubleshoot
    · exact .rejected _
  · exact .rejected _

end VehicleLink.Bridge
