import Mathlib.Data.List.Nodup
import VehicleLink.Proofs.Bridge.Incidents

namespace VehicleLink

/-- The channel states of a group. -/
def inGroup (g : ChannelGroup) (us : List ChannelUpdate) : List ChannelUpdate :=
  us.filter (·.channel.group = g)

/-- The state that a channel has been told last. -/
def lastState? (history : List ChannelUpdate) (channel : Channel) : Option ChannelState :=
  (history.reverse.find? (·.channel = channel)).map (·.state)

theorem inGroup_append (g : ChannelGroup) (us vs : List ChannelUpdate) :
    inGroup g (us ++ vs) = inGroup g us ++ inGroup g vs := List.filter_append ..

/-- What is told later counts. -/
theorem lastState?_append (us vs : List ChannelUpdate) (channel : Channel) :
    lastState? (us ++ vs) channel = (lastState? vs channel).or (lastState? us channel) := by
  rw [lastState?, List.reverse_append, List.find?_append]
  cases found : vs.reverse.find? (·.channel = channel) <;> simp [lastState?, found]

/-- Only the channel's own group counts. -/
theorem lastState?_inGroup (us : List ChannelUpdate) (channel : Channel) :
    lastState? (inGroup channel.group us) channel = lastState? us channel := by
  rw [lastState?, inGroup, ← List.filter_reverse, List.find?_filter, lastState?]
  congr 2
  funext u
  by_cases same : u.channel = channel <;> simp [same]

/-- Where no channel is told twice, what it is told is what it has been told last. -/
theorem lastState?_of_mem {us : List ChannelUpdate} {u : ChannelUpdate}
    (distinct : (us.map (·.channel)).Nodup) (member : u ∈ us) : lastState? us u.channel = some u.state := by
  induction us using List.reverseRecOn with
  | nil => cases member
  | append_singleton us last ih =>
    rw [lastState?_append]
    rw [List.map_append, List.nodup_append'] at distinct
    obtain ⟨distinct, _, apart⟩ := distinct
    rcases List.mem_append.mp member with old | new
    · have other : last.channel ≠ u.channel := fun same =>
        apart (List.mem_map_of_mem old) (same ▸ List.mem_singleton_self _)
      simp [lastState?, other, ← ih distinct old]
    · cases List.mem_singleton.mp new
      simp [lastState?]

/-- What holds of all that can be told holds of what is told of something that may be missing. -/
theorem forall_mem_getD {α : Type} {P : ChannelUpdate → Prop} {shown : α → List ChannelUpdate}
    (all : ∀ x, ∀ u ∈ shown x, P u) (x : Option α) : ∀ u ∈ (x.map shown).getD [], P u := by
  cases x with
  | none => exact fun _ member => nomatch member
  | some x => exact all x

/-- A part of a bridge that has a group of channels for itself. -/
inductive Panel where
  | services
  | checks
  | destinations
  | profile
deriving DecidableEq

namespace Panel

def group : Panel → ChannelGroup
  | .services => .service
  | .checks => .check
  | .destinations => .destination
  | .profile => .charge

/-- Each panel has a group of its own. -/
theorem group_inj {panel other : Panel} (same : panel.group = other.group) : panel = other := by
  cases panel <;> cases other <;> first | rfl | cases same

/-- The names of the channels of a panel, in the order in which they are told. -/
def ids : Panel → List String
  | .services => ["name", "date", "mileage", "size", "index"]
  | .checks => ["name", "mileage", "size", "index"]
  | .destinations => ["name", "latitude", "longitude", "size", "index"]
  | .profile => ChargeTarget.readable.map ChargeTarget.id

def channels (panel : Panel) : List Channel := panel.ids.map fun id => ⟨panel.group, id⟩

/-- What a bridge shows on a panel: the list and its cursor, and the unit system where there are lengths, or
the profile. -/
def view (b : Bridge) : Panel → List ChannelUpdate
  | .services => b.serviceView
  | .checks => b.checkView
  | .destinations => b.destinationView
  | .profile => b.profileView

theorem channels_nodup (panel : Panel) : panel.channels.Nodup := by
  refine List.Nodup.map (fun _ _ same => congrArg Channel.id same) ?_
  cases panel with
  | services | checks | destinations => decide
  | profile => decide +kernel

end Panel

theorem ChargeTarget.state?_of_readable {t : ChargeTarget} (readable : t ∈ readable) (p : ChargeProfile) :
    ∃ state, t.state? p = some state := by
  cases t with
  | send => exact absurd readable (by decide)
  | climate | mode | preference | time | enabled | day => exact ⟨_, rfl⟩

/-- A profile with a planner is shown on all channels of its panel. -/
theorem profileView_channels {p : ChargeProfile} (planned : p.isEmpty = false) :
    (profileView p).map (·.channel) = Panel.profile.channels := by
  have told : ∀ t ∈ ChargeTarget.readable,
      ((t.state? p).map (ChannelUpdate.of .charge t.id)).map (·.channel) = some ⟨.charge, t.id⟩ := by
    intro t readable
    obtain ⟨state, shown⟩ := ChargeTarget.state?_of_readable readable p
    rw [shown]
    rfl
  rw [profileView, planned, if_neg (by decide), List.map_filterMap, List.filterMap_congr told,
    Panel.channels, Panel.ids, List.map_map, ← List.filterMap_eq_map]
  rfl

namespace Panel

variable {b : Bridge}

/-- A view shows all channels of its panel, but for a profile without a planner, which shows nothing. -/
theorem view_channels (panel : Panel) (b : Bridge) :
    (panel.view b).map (·.channel) = panel.channels ∨ panel = .profile ∧ panel.view b = [] := by
  cases panel with
  | services | checks | destinations => exact .inl rfl
  | profile =>
    rw [view, Bridge.profileView]
    cases b.profile with
    | none => exact .inr ⟨rfl, rfl⟩
    | some p =>
      cases planned : p.isEmpty with
      | false => exact .inl (profileView_channels planned)
      | true => exact .inr ⟨rfl, by simp [profileView, planned]⟩

/-- A view tells each channel once. -/
theorem view_nodup (panel : Panel) (b : Bridge) : ((panel.view b).map (·.channel)).Nodup := by
  rcases panel.view_channels b with all | ⟨_, none⟩
  · exact all ▸ panel.channels_nodup
  · rw [none]
    exact List.nodup_nil

theorem view_group {panel : Panel} {u : ChannelUpdate} (member : u ∈ panel.view b) :
    u.channel.group = panel.group := by
  rcases panel.view_channels b with all | ⟨_, none⟩
  · have known : u.channel ∈ panel.channels := all ▸ List.mem_map_of_mem member
    obtain ⟨id, _, same⟩ := List.mem_map.mp known
    rw [← same]
  · cases none ▸ member

/-- A view is told in the group of its panel. -/
theorem inGroup_view (panel : Panel) (b : Bridge) : inGroup panel.group (panel.view b) = panel.view b :=
  List.filter_eq_self.mpr fun _ member => decide_eq_true (view_group member)

/-- A view tells nothing in the group of another panel. -/
theorem inGroup_view_of_ne {panel other : Panel} (differs : panel ≠ other) :
    inGroup panel.group (other.view b) = [] :=
  List.filter_eq_nil_iff.mpr fun _ member same =>
    differs (group_inj ((of_decide_eq_true same).symm.trans (view_group member)))

/-- Channel states that concern no panel. -/
def Aside (us : List ChannelUpdate) : Prop := ∀ u ∈ us, ∀ panel : Panel, u.channel.group ≠ panel.group

theorem Aside.inGroup {us : List ChannelUpdate} (aside : Aside us) (panel : Panel) :
    inGroup panel.group us = [] :=
  List.filter_eq_nil_iff.mpr fun u member same => aside u member panel (of_decide_eq_true same)

theorem Aside.append {us vs : List ChannelUpdate} (first : Aside us) (second : Aside vs) : Aside (us ++ vs) :=
  fun u member => (List.mem_append.mp member).elim (first u) (second u)

theorem aside_nil : Aside [] := fun _ member => nomatch member

theorem aside_of {us : List ChannelUpdate}
    (foreign : ∀ u ∈ us, u.channel.group ∉ [.service, .check, .destination, .charge]) : Aside us := by
  intro u member panel same
  refine foreign u member (same ▸ ?_)
  cases panel <;> decide

theorem aside_statusView (d : Display) (now : Calendar.Moment) (s : VehicleStatus) :
    Aside (statusView d now s) := by
  refine Aside.append (aside_of (by simp [ChannelUpdate.of])) ?_
  split
  · split
    · exact aside_of (by simp [ChannelUpdate.of])
    · exact aside_nil
  · exact aside_nil

theorem aside_openingView (s : VehicleStatus) : Aside (openingView s) :=
  aside_of (by simp [openingView, partView, ChannelUpdate.of])

theorem aside_rangeView (d : Display) (s : VehicleStatus) : Aside (rangeView d s) := by
  refine Aside.append (Aside.append (Aside.append (aside_of (by simp [ChannelUpdate.of])) ?_) ?_) ?_
  · split
    · exact aside_of (by simp [electricView, ChannelUpdate.of])
    · exact aside_nil
  · split
    · exact aside_of (by simp [fuelView, ChannelUpdate.of])
    · exact aside_nil
  · split
    · exact aside_of (by simp [hybridView, ChannelUpdate.of])
    · exact aside_nil

theorem aside_positionView (p : Position) : Aside (positionView p) :=
  aside_of (by simp [positionView, ChannelUpdate.of])

theorem aside_lastTripView (t : LastTrip) : Aside (lastTripView t) :=
  aside_of (by simp [lastTripView, ChannelUpdate.of])

theorem aside_allTripsView (t : AllTrips) : Aside (allTripsView t) :=
  aside_of (by simp [allTripsView, ChannelUpdate.of])

end Panel

/-- The channel states among what is told. -/
def channelStates (events : List Event) : List ChannelUpdate := events.filterMap Event.update?

theorem channelStates_updates (us : List ChannelUpdate) : channelStates (updates us) = us := by
  rw [channelStates, updates, List.filterMap_map]
  exact List.filterMap_some

theorem channelStates_append (first second : List Event) :
    channelStates (first ++ second) = channelStates first ++ channelStates second := List.filterMap_append ..

namespace Bridge

variable {b : Bridge}

/-- The channel states that are told when something happens. -/
def told (b : Bridge) : Incident → List ChannelUpdate
  | .answered now e body => channelStates (b.answer now e body).events
  | .failed _ _ => []
  | .ordered c => channelStates (b.order c).events

/-- The channel states that are told when several things happen, one after the other. -/
def history (b : Bridge) : List Incident → List ChannelUpdate
  | [] => []
  | i :: rest => b.told i ++ (b.meet i).history rest

theorem history_append (b : Bridge) (incidents : List Incident) (i : Incident) :
    b.history (incidents ++ [i]) = b.history incidents ++ (b.after incidents).told i := by
  induction incidents generalizing b with
  | nil => simp [history, after]
  | cons first rest ih =>
    rw [List.cons_append, history, ih, ← List.append_assoc]
    rfl

/-- What a step from one bridge to another tells of each panel: all that it shows afterwards, or nothing, and
then it shows what it showed before. -/
def Refreshed (b next : Bridge) (told : List ChannelUpdate) : Prop :=
  ∀ panel : Panel, inGroup panel.group told = panel.view next ∨
    inGroup panel.group told = [] ∧ panel.view next = panel.view b

/-- A step that concerns no panel, neither in what it tells nor in what it changes. -/
theorem Refreshed.of_aside {told : List ChannelUpdate} {next : Bridge} (aside : Panel.Aside told)
    (same : ∀ panel : Panel, panel.view next = panel.view b) : Refreshed b next told :=
  fun panel => .inr ⟨aside.inGroup panel, same panel⟩

/-- A step that tells one panel and leaves the others as they were. -/
theorem Refreshed.of_view (told : Panel) {next : Bridge}
    (same : ∀ panel : Panel, panel ≠ told → panel.view next = panel.view b) :
    Refreshed b next (told.view next) := by
  intro panel
  by_cases this : panel = told
  · subst this
    exact .inl (panel.inGroup_view next)
  · exact .inr ⟨Panel.inGroup_view_of_ne this, same panel this⟩

theorem refreshed_services (l : Browse ServiceEntry) :
    Refreshed b { b with services := l } ({ b with services := l } : Bridge).serviceView := by
  refine .of_view .services fun panel other => ?_
  cases panel with
  | services => exact absurd rfl other
  | checks | destinations | profile => rfl

theorem refreshed_checks (l : Browse CheckMessage) :
    Refreshed b { b with checks := l } ({ b with checks := l } : Bridge).checkView := by
  refine .of_view .checks fun panel other => ?_
  cases panel with
  | checks => exact absurd rfl other
  | services | destinations | profile => rfl

theorem refreshed_destinations (l : Browse Destination) :
    Refreshed b { b with destinations := l } ({ b with destinations := l } : Bridge).destinationView := by
  refine .of_view .destinations fun panel other => ?_
  cases panel with
  | destinations => exact absurd rfl other
  | services | checks | profile => rfl

theorem refreshed_profile (p : ChargeProfile) :
    Refreshed b { b with profile := some p } ({ b with profile := some p } : Bridge).profileView := by
  refine .of_view .profile fun panel other => ?_
  cases panel with
  | profile => exact absurd rfl other
  | services | checks | destinations => rfl

theorem channelStates_takeStatus (now : Calendar.Moment) (s : VehicleStatus) :
    let next := (b.takeStatus now s).1
    channelStates (b.takeStatus now s).2 =
      statusView next.display now s ++ openingView s ++ rangeView next.display s ++
        (s.position.map positionView).getD [] ++ next.serviceView ++ next.checkView := by
  have quiet (country : Option String) (old new : Bool) : channelStates (unitSwitch country old new) = [] := by
    unfold unitSwitch
    split <;> rfl
  rw [takeStatus]
  dsimp only
  rw [channelStates_append, quiet, List.nil_append, channelStates_updates]

/-- A status tells the services and the check-control messages again, and no other panel changes. -/
theorem takeStatus_refreshed (now : Calendar.Moment) (s : VehicleStatus) :
    Refreshed b (b.takeStatus now s).1 (channelStates (b.takeStatus now s).2) := by
  have aside (d : Display) : Panel.Aside (statusView d now s ++ openingView s ++ rangeView d s ++
      (s.position.map positionView).getD []) :=
    (((Panel.aside_statusView d now s).append (Panel.aside_openingView s)).append
      (Panel.aside_rangeView d s)).append (forall_mem_getD Panel.aside_positionView s.position)
  intro panel
  have told : inGroup panel.group (channelStates (b.takeStatus now s).2) =
      inGroup panel.group (Panel.services.view (b.takeStatus now s).1) ++
        inGroup panel.group (Panel.checks.view (b.takeStatus now s).1) := by
    rw [channelStates_takeStatus, inGroup_append, inGroup_append, (aside _).inGroup panel]
    rfl
  rw [told]
  cases panel with
  | services =>
    left
    rw [Panel.inGroup_view, Panel.inGroup_view_of_ne (by decide), List.append_nil]
  | checks =>
    left
    rw [Panel.inGroup_view, Panel.inGroup_view_of_ne (by decide), List.nil_append]
  | destinations | profile =>
    right
    rw [Panel.inGroup_view_of_ne (by decide), Panel.inGroup_view_of_ne (by decide)]
    exact ⟨rfl, rfl⟩

/-- An answer tells the panels that it changes. -/
theorem takeAnswer_refreshed (now : Calendar.Moment) (e : Endpoint) (body : String) :
    Refreshed b (b.takeAnswer now e body).bridge (channelStates (b.takeAnswer now e body).events) := by
  have way := takeAnswer_taken b now e body
  generalize b.takeAnswer now e body = outcome at way ⊢
  cases way with
  | unread | noStatus | unusable => exact .of_aside Panel.aside_nil fun _ => rfl
  | status s => exact takeStatus_refreshed now s
  | lastTrip trip =>
    rw [channelStates_updates]
    exact .of_aside (forall_mem_getD Panel.aside_lastTripView trip) fun _ => rfl
  | allTrips trips =>
    rw [channelStates_updates]
    exact .of_aside (forall_mem_getD Panel.aside_allTripsView trips) fun _ => rfl
  | destinations items =>
    rw [takeDestinations, channelStates_updates]
    exact refreshed_destinations _
  | profile =>
    rw [takeProfile, channelStates_updates]
    exact refreshed_profile _

/-- The fingerprint is noted line by line; all that a channel is told is that the command is off again. -/
theorem channelStates_tellFingerprint (c : ChannelCommand) :
    channelStates (b.tellFingerprint c).events = [⟨c.channel, .onOff false⟩] := by
  unfold tellFingerprint
  split
  · rw [applied, channelStates_append, channelStates, List.filterMap_map]
    simp [Function.comp_def, Event.warn, Event.update?, channelStates]
  · rfl

/-- A command tells the panel that it changes. -/
theorem order_refreshed (c : ChannelCommand) :
    Refreshed b (b.order c).bridge (channelStates (b.order c).events) := by
  have way := order_ordered b c
  generalize b.order c = outcome at way ⊢
  cases way with
  | rejected | asked | ignored => exact .of_aside Panel.aside_nil fun _ => rfl
  | edited loaded e changed =>
    subst changed
    rw [applied, channelStates_updates]
    exact refreshed_profile _
  | service =>
    rw [nextService, applied, channelStates_updates]
    exact refreshed_services _
  | check =>
    rw [nextCheck, applied, channelStates_updates]
    exact refreshed_checks _
  | destination =>
    rw [nextDestination, applied, channelStates_updates]
    exact refreshed_destinations _
  | fingerprint troubleshoot =>
    rw [channelStates_tellFingerprint]
    refine .of_aside (Panel.aside_of ?_) fun _ => rfl
    simp [troubleshoot]

/-- Whatever happens to a bridge, each panel is told as a whole or stays as it is. -/
theorem meet_refreshed (b : Bridge) (i : Incident) : Refreshed b (b.meet i) (b.told i) := by
  cases i with
  | answered now e body => exact takeAnswer_refreshed now e body
  | failed e f => exact .of_aside Panel.aside_nil fun _ => rfl
  | ordered c => exact order_refreshed c

/-- A panel of which nothing has been told is as it was at the beginning, and any other has been told last what
it shows now. -/
theorem history_panel (b : Bridge) (incidents : List Incident) (panel : Panel) :
    inGroup panel.group (b.history incidents) = [] ∧ panel.view (b.after incidents) = panel.view b ∨
    ∀ u ∈ panel.view (b.after incidents), lastState? (b.history incidents) u.channel = some u.state := by
  induction incidents using List.reverseRecOn with
  | nil => exact .inl ⟨rfl, rfl⟩
  | append_singleton incidents i ih =>
    rw [history_append, after_append]
    rcases (b.after incidents).meet_refreshed i panel with told | ⟨quiet, same⟩
    · right
      intro u member
      have latest : lastState? ((b.after incidents).told i) u.channel = some u.state := by
        rw [← lastState?_inGroup, Panel.view_group member, told]
        exact lastState?_of_mem (panel.view_nodup _) member
      rw [lastState?_append, latest, Option.some_or]
    · rw [same, inGroup_append, quiet, List.append_nil]
      refine ih.imp_right fun shown u member => ?_
      have silent : lastState? ((b.after incidents).told i) u.channel = none := by
        rw [← lastState?_inGroup, Panel.view_group member, quiet]
        rfl
      rw [lastState?_append, silent, Option.none_or]
      exact shown u member

end Bridge

end VehicleLink
