import VehicleLink.Proofs.Bridge.Publication

namespace VehicleLink

namespace Incident

/-- The status that an answer contains, if the answer can be read and has one. -/
def status? : Incident → Option VehicleStatus
  | .answered _ .status body => (StatusDocument.ofText body).toOption.bind (·.status)
  | _ => none

/-- The destinations that an answer contains, if it can be read. -/
def destinations? : Incident → Option (List Destination)
  | .answered _ .destinations body =>
    (DestinationsDocument.ofText body).toOption.map (·.destinations.getD [])
  | _ => none

/-- The channel that a command is for. -/
def channel? : Incident → Option Channel
  | .ordered c => some c.channel
  | _ => none

end Incident

namespace Bridge

/-- The unit system and the lists. -/
def exhibits (b : Bridge) : Units × Bool × Browse ServiceEntry × Browse CheckMessage × Browse Destination :=
  (b.units, b.imperial, b.services, b.checks, b.destinations)

/-- Channel states of groups that show neither the unit system nor a list. -/
def Remote (us : List ChannelUpdate) : Prop :=
  ∀ u ∈ us, u.channel.group ∉ [.status, .range, .service, .check, .destination]

/-- What a step does to the unit system and the lists, with what it tells. -/
inductive Met (b : Bridge) : Incident → Bridge → List ChannelUpdate → Prop
  | status {now body s} (read : (Incident.answered now .status body).status? = some s) :
      Met b (.answered now .status body) ((b.remember .status body).takeStatus now s).1
        (channelStates ((b.remember .status body).takeStatus now s).2)
  | destinations {now body items}
      (read : (Incident.answered now .destinations body).destinations? = some items) :
      Met b (.answered now .destinations body) ((b.remember .destinations body).takeDestinations items).1
        ((b.remember .destinations body).takeDestinations items).1.destinationView
  | nextService (command : Command) :
      Met b (.ordered ⟨⟨.service, "next"⟩, command⟩) b.nextService.bridge b.nextService.bridge.serviceView
  | nextCheck (command : Command) :
      Met b (.ordered ⟨⟨.check, "next"⟩, command⟩) b.nextCheck.bridge b.nextCheck.bridge.checkView
  | nextDestination (command : Command) :
      Met b (.ordered ⟨⟨.destination, "next"⟩, command⟩) b.nextDestination.bridge
        b.nextDestination.bridge.destinationView
  | aside {i next told} (noStatus : i.status? = none) (nowhere : i.destinations? = none)
      (stays : ∀ group ∈ [ChannelGroup.service, .check, .destination], i.channel? ≠ some ⟨group, "next"⟩)
      (same : next.exhibits = b.exhibits) (remote : Remote told) : Met b i next told

variable {b : Bridge}

theorem remote_nil : Remote [] := fun _ member => nomatch member

theorem remote_lastTripView (t : LastTrip) : Remote (lastTripView t) := by
  simp [Remote, lastTripView, ChannelUpdate.of]

theorem remote_allTripsView (t : AllTrips) : Remote (allTripsView t) := by
  simp [Remote, allTripsView, ChannelUpdate.of]

theorem remote_profileView (b : Bridge) : Remote b.profileView := by
  intro u member
  have shown : u ∈ Panel.profile.view b := member
  have own : u.channel.group = .charge := Panel.view_group shown
  rw [own]
  decide

/-- An answer that is only told leaves the unit system and the lists alone, read or not. -/
theorem readWith_remote {α : Type} (read : Except Json.Problem α) {shown : α → List ChannelUpdate}
    (remote : ∀ document, Remote (shown document)) :
    let outcome := b.readWith read fun document => (b, updates (shown document))
    outcome.bridge.exhibits = b.exhibits ∧ Remote (channelStates outcome.events) := by
  cases read with
  | error problem => exact ⟨rfl, remote_nil⟩
  | ok document => exact ⟨rfl, (channelStates_updates _).symm ▸ remote document⟩

theorem status?_eq (now : Calendar.Moment) (body : String) :
    (Incident.answered now .status body).status? = (StatusDocument.ofText body).toOption.bind (·.status) := rfl

theorem destinations?_eq (now : Calendar.Moment) (body : String) :
    (Incident.answered now .destinations body).destinations? =
      (DestinationsDocument.ofText body).toOption.map (·.destinations.getD []) := rfl

/-- What an answer contains decides what it does to the lists. -/
theorem answer_met (now : Calendar.Moment) (e : Endpoint) (body : String) :
    Met b (.answered now e body) (b.answer now e body).bridge
      (channelStates (b.answer now e body).events) := by
  have stays : ∀ group ∈ [ChannelGroup.service, .check, .destination],
      (Incident.answered now e body).channel? ≠ some ⟨group, "next"⟩ := by simp [Incident.channel?]
  unfold answer takeAnswer
  cases e with
  | status =>
    have content := status?_eq now body
    cases read : StatusDocument.ofText body with
    | error problem =>
      rw [read] at content
      exact .aside content rfl stays rfl remote_nil
    | ok document =>
      rw [read] at content
      cases status : document.status with
      | none =>
        simp only [readWith, status]
        exact .aside (content.trans status) rfl stays rfl remote_nil
      | some s =>
        simp only [readWith, status]
        exact .status (content.trans status)
  | lastTrip =>
    obtain ⟨same, remote⟩ := readWith_remote (b := b.remember .lastTrip body) (LastTripDocument.ofText body)
      fun document => forall_mem_getD remote_lastTripView document.lastTrip
    exact .aside rfl rfl stays same remote
  | allTrips =>
    obtain ⟨same, remote⟩ := readWith_remote (b := b.remember .allTrips body) (AllTripsDocument.ofText body)
      fun document => forall_mem_getD remote_allTripsView document.allTrips
    exact .aside rfl rfl stays same remote
  | destinations =>
    have content := destinations?_eq now body
    cases read : DestinationsDocument.ofText body with
    | error problem =>
      rw [read] at content
      exact .aside rfl content stays rfl remote_nil
    | ok document =>
      rw [read] at content
      simp only [readWith, takeDestinations, channelStates_updates]
      exact .destinations content
  | chargeProfile =>
    cases read : ChargeProfile.ofText body with
    | error problem => exact .aside rfl rfl stays rfl remote_nil
    | ok p =>
      simp only [takeProfile, channelStates_updates]
      exact .aside rfl rfl stays rfl (remote_profileView _)

/-- The commands for the charge profile, and those that are rejected. -/
theorem orderCharge_remote (c : ChannelCommand) :
    (b.orderCharge c).bridge.exhibits = b.exhibits ∧ Remote (channelStates (b.orderCharge c).events) := by
  unfold orderCharge
  split
  · exact ⟨rfl, remote_nil⟩
  · unfold sendProfile
    split <;> exact ⟨rfl, remote_nil⟩
  · unfold editProfile
    split
    · exact ⟨rfl, remote_nil⟩
    · split
      · exact ⟨rfl, remote_nil⟩
      · rw [applied, channelStates_updates]
        exact ⟨rfl, remote_profileView _⟩

theorem tellFingerprint_remote (c : ChannelCommand) (troubleshoot : c.channel.group = .troubleshoot) :
    Remote (channelStates (b.tellFingerprint c).events) := by
  rw [channelStates_tellFingerprint]
  simp [Remote, troubleshoot]

/-- Other commands than those with which a list is browsed. -/
theorem order_remote {c : ChannelCommand}
    (other : ∀ group ∈ [ChannelGroup.service, .check, .destination], c.channel ≠ ⟨group, "next"⟩) :
    (b.order c).bridge.exhibits = b.exhibits ∧ Remote (channelStates (b.order c).events) := by
  obtain ⟨⟨group, id⟩, command⟩ := c
  have foreign (browsed : group ∈ [ChannelGroup.service, .check, .destination]) : id ≠ "next" :=
    fun next => other group browsed (congrArg _ next)
  unfold order
  cases group with
  | charge => exact orderCharge_remote _
  | service | check | destination =>
    simp only [if_neg (foreign (by decide))]
    exact ⟨rfl, remote_nil⟩
  | troubleshoot =>
    dsimp only
    split
    · exact ⟨rfl, tellFingerprint_remote _ rfl⟩
    · exact ⟨rfl, remote_nil⟩
  | status | range | location | doors | lastTrip | lifetime => exact ⟨rfl, remote_nil⟩

/-- A command moves the cursor of one list, or has nothing to do with the lists. -/
theorem order_met (c : ChannelCommand) :
    Met b (.ordered c) (b.order c).bridge (channelStates (b.order c).events) := by
  by_cases browses : ∃ group ∈ [ChannelGroup.service, .check, .destination], c.channel = ⟨group, "next"⟩
  · obtain ⟨group, browsed, asked⟩ := browses
    obtain ⟨channel, command⟩ := c
    cases asked
    have told (us : List ChannelUpdate) : channelStates (updates us) = us := channelStates_updates us
    simp only [List.mem_cons, List.not_mem_nil, or_false] at browsed
    rcases browsed with rfl | rfl | rfl
    · have met := Met.nextService (b := b) command
      rwa [← told b.nextService.bridge.serviceView] at met
    · have met := Met.nextCheck (b := b) command
      rwa [← told b.nextCheck.bridge.checkView] at met
    · have met := Met.nextDestination (b := b) command
      rwa [← told b.nextDestination.bridge.destinationView] at met
  · have other : ∀ group ∈ [ChannelGroup.service, .check, .destination], c.channel ≠ ⟨group, "next"⟩ :=
      fun group browsed asked => browses ⟨group, browsed, asked⟩
    obtain ⟨same, remote⟩ := order_remote (b := b) other
    exact .aside rfl rfl (fun group browsed asked => other group browsed (Option.some.inj asked)) same remote

/-- Whatever happens to a bridge is one of these. -/
theorem meet_met (b : Bridge) (i : Incident) : Met b i (b.meet i) (b.told i) := by
  cases i with
  | answered now e body => exact answer_met now e body
  | failed e f => exact .aside rfl rfl (by simp [Incident.channel?]) rfl remote_nil
  | ordered c => exact order_met c

theorem meet_units (b : Bridge) (i : Incident) : (b.meet i).units = b.units := by
  have met := b.meet_met i
  generalize b.meet i = next, b.told i = told at met
  cases met with
  | status | destinations | nextService | nextCheck | nextDestination => rfl
  | aside _ _ _ same => exact congrArg (·.1) same

/-- The configured units stay through any run. -/
theorem after_units (b : Bridge) (incidents : List Incident) : (b.after incidents).units = b.units := by
  induction incidents generalizing b with
  | nil => rfl
  | cons i rest ih => exact (ih (b.meet i)).trans (b.meet_units i)

end Bridge

end VehicleLink
