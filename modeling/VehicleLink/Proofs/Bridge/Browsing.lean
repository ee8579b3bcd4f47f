import VehicleLink.Proofs.Bridge.Contents
import VehicleLink.Proofs.Decimal.Counts

namespace VehicleLink

namespace Browse

variable {α : Type} {l : Browse α}

/-- A list with its cursor on an entry, or with neither. -/
structure Settled (l : Browse α) : Prop where
  nowhere : l.cursor = none ↔ l.items = []
  within : ∀ i, l.cursor = some i → i < l.items.length

theorem settle_of_nil (empty : l.items = []) : l.settle = ⟨[], none⟩ := by
  simp [settle, empty]

theorem settle_of_ne_nil (nonempty : l.items ≠ []) :
    l.settle = ⟨l.items, some (l.cursor.elim 0 fun i => if i < l.items.length then i else 0)⟩ := by
  rw [settle, if_neg (by simpa using nonempty)]
  cases place : l.cursor <;> simp

/-- However a list is filled, settling puts its cursor on an entry. -/
theorem settle_settled (l : Browse α) : l.settle.Settled := by
  by_cases empty : l.items = []
  · rw [settle_of_nil empty]
    exact ⟨by simp, by simp⟩
  · have pos : 0 < l.items.length := List.length_pos_iff.mpr empty
    rw [settle_of_ne_nil empty]
    refine ⟨by simp [empty], fun i place => ?_⟩
    rw [← Option.some.inj place]
    cases l.cursor with
    | none => exact pos
    | some i =>
      dsimp only [Option.elim]
      split
      · assumption
      · exact pos

/-- A refresh keeps the cursor where it is, or puts it on the first entry. -/
theorem replace_settle (l : Browse α) (items : List α) : (l.replace items).settle =
    ⟨items, if items = [] then none else some (l.cursor.elim 0 fun i => if i < items.length then i else 0)⟩ := by
  by_cases empty : items = []
  · rw [settle_of_nil (l := l.replace items) empty, if_pos empty, empty]
  · rw [settle_of_ne_nil (l := l.replace items) empty, if_neg empty]
    rfl

/-- Moving on goes around the list. -/
theorem Settled.advance_settle (settled : l.Settled) :
    l.advance.settle = ⟨l.items, l.cursor.map fun i => (i + 1) % l.items.length⟩ := by
  cases place : l.cursor with
  | none =>
    have empty := settled.nowhere.mp place
    have same : l.advance.items = [] := by rw [advance, place, ← empty]
    rw [settle_of_nil same, empty, Option.map_none]
  | some i =>
    have bound := settled.within i place
    have nonempty : l.items ≠ [] := List.ne_nil_of_length_pos (by omega)
    rw [advance, place]
    dsimp only
    rw [settle_of_ne_nil (l := ⟨l.items, some (i + 1)⟩) nonempty]
    dsimp only [Option.elim, Option.map]
    by_cases last : i + 1 < l.items.length
    · rw [if_pos last, Nat.mod_eq_of_lt last]
    · have atEnd : i + 1 = l.items.length := by omega
      rw [if_neg last, atEnd, Nat.mod_self]

/-- The entry under the cursor. -/
def entry? (l : Browse α) : Option α := l.cursor.bind (l.items[·]?)

theorem current?_eq (l : Browse α) : l.current?.map Prod.snd = l.entry? := by
  rw [current?, entry?]
  cases l.cursor with
  | none => rfl
  | some i => cases entry : l.items[i]? <;> simp [entry]

/-- The place that is shown is that of the cursor. -/
theorem Settled.place_eq (settled : l.Settled) : l.current?.map Prod.fst = l.cursor := by
  rw [current?]
  cases place : l.cursor with
  | none => rfl
  | some i => simp [List.getElem?_eq_getElem (settled.within i place)]

end Browse

/-- A list that is browsed. -/
inductive Shelf where
  | services
  | checks
  | destinations
deriving DecidableEq

namespace Shelf

/-- What a list has entries of. -/
def Entry : Shelf → Type
  | .services => ServiceEntry
  | .checks => CheckMessage
  | .destinations => Destination

/-- The channels of a list. -/
def panel : Shelf → Panel
  | .services => .services
  | .checks => .checks
  | .destinations => .destinations

def group (shelf : Shelf) : ChannelGroup := shelf.panel.group

/-- The channel that asks for the next entry. -/
def next (shelf : Shelf) : Channel := ⟨shelf.group, "next"⟩

def list (b : Bridge) : (shelf : Shelf) → Browse shelf.Entry
  | .services => b.services
  | .checks => b.checks
  | .destinations => b.destinations

/-- The entries that something that happens brings. -/
def brought? (i : Incident) : (shelf : Shelf) → Option (List shelf.Entry)
  | .services => i.status?.map VehicleStatus.serviceList
  | .checks => i.status?.map VehicleStatus.checkList
  | .destinations => i.destinations?

/-- What the channels of a list show of one entry, or of none. -/
def face (imperial : Bool) : (shelf : Shelf) → Option shelf.Entry → List ChannelUpdate
  | .services, entry =>
    let name := match entry with
      | some e => words e.kind
      | none => .text absentPart
    let mileage := (entry.bind ServiceEntry.remainingMileage).map Float.ofInt
    [.of .service "name" name,
      .of .service "date" (.moment (momentText (entry.bind ServiceEntry.dueMoment?))),
      .of .service "mileage" (.quantity (Figure.roundTenth (orMinusOne mileage)) (.length imperial))]
  | .checks, entry =>
    let mileage := (entry.bind CheckMessage.mileage).map Float.ofInt
    [.of .check "name" (.text ((entry.bind CheckMessage.short).getD absentPart)),
      .of .check "mileage" (.quantity (Figure.roundTenth (orMinusOne mileage)) (.length imperial))]
  | .destinations, entry =>
    [.of .destination "name" (.text ((entry.map Destination.address).getD absentPart)),
      .of .destination "latitude" (.decimal (orMinusOne (entry.bind Destination.latitude))),
      .of .destination "longitude" (.decimal (orMinusOne (entry.bind Destination.longitude)))]

/-- What the channels of a list show. -/
def shows (shelf : Shelf) (imperial : Bool) (l : Browse shelf.Entry) : List ChannelUpdate :=
  shelf.face imperial l.entry? ++ [
    .of shelf.group "size" (.decimal (Float.ofNat l.items.length)),
    .of shelf.group "index" (.decimal (orMinusOne (l.cursor.map Float.ofNat)))]

/-- What becomes of a list in a step, and that it is told if the step has to do with it. -/
inductive Turn (shelf : Shelf) (b : Bridge) (i : Incident) (next : Bridge) (told : List ChannelUpdate) : Prop
  | refreshed {items} (brought : shelf.brought? i = some items)
      (list : shelf.list next = ((shelf.list b).replace items).settle) (shown : shelf.panel.view next ⊆ told)
  | advanced (nothing : shelf.brought? i = none) (asked : i.channel? = some shelf.next)
      (list : shelf.list next = (shelf.list b).advance.settle) (shown : shelf.panel.view next ⊆ told)
  | kept (nothing : shelf.brought? i = none) (other : i.channel? ≠ some shelf.next)
      (list : shelf.list next = shelf.list b)

variable {b : Bridge}

theorem next_inj {shelf other : Shelf} (same : shelf.next = other.next) : shelf = other := by
  have group := congrArg Channel.group same
  cases shelf <;> cases other <;> first | rfl | cases group

/-- One step of a bridge is one turn of each of its lists. -/
theorem meet_turn (shelf : Shelf) (b : Bridge) (i : Incident) : shelf.Turn b i (b.meet i) (b.told i) := by
  have foreign (other : Shelf) (differs : other ≠ shelf) : some other.next ≠ some shelf.next :=
    fun same => differs (next_inj (Option.some.inj same))
  have met := b.meet_met i
  generalize b.meet i = next, b.told i = told at met ⊢
  cases met with
  | status read =>
    cases shelf with
    | services | checks =>
      refine .refreshed (congrArg (Option.map _) read) rfl fun u member => ?_
      rw [Bridge.channelStates_takeStatus]
      simp only [List.mem_append]
      first | exact .inl (.inr member) | exact .inr member
    | destinations => exact .kept rfl nofun rfl
  | destinations read =>
    cases shelf with
    | services | checks => exact .kept rfl nofun rfl
    | destinations => exact .refreshed read rfl fun _ member => member
  | nextService command =>
    cases shelf with
    | services => exact .advanced rfl rfl rfl fun _ member => member
    | checks | destinations => exact .kept rfl (foreign .services (by decide)) rfl
  | nextCheck command =>
    cases shelf with
    | checks => exact .advanced rfl rfl rfl fun _ member => member
    | services | destinations => exact .kept rfl (foreign .checks (by decide)) rfl
  | nextDestination command =>
    cases shelf with
    | destinations => exact .advanced rfl rfl rfl fun _ member => member
    | services | checks => exact .kept rfl (foreign .destinations (by decide)) rfl
  | aside noStatus nowhere stays same =>
    have other := stays shelf.group (by cases shelf <;> decide)
    cases shelf with
    | services => exact .kept (congrArg (Option.map _) noStatus) other (congrArg (·.2.2.1) same)
    | checks => exact .kept (congrArg (Option.map _) noStatus) other (congrArg (·.2.2.2.1) same)
    | destinations => exact .kept nowhere other (congrArg (·.2.2.2.2) same)

/-- Every step keeps the cursor on an entry. -/
theorem settled_meet {shelf : Shelf} (settled : (shelf.list b).Settled) (i : Incident) :
    (shelf.list (b.meet i)).Settled := by
  cases shelf.meet_turn b i with
  | refreshed _ list => exact list ▸ Browse.settle_settled _
  | advanced _ _ list => exact list ▸ Browse.settle_settled _
  | kept _ _ list => exact list ▸ settled

/-- After any run the cursor is on an entry, or the list is empty. -/
theorem settled_after (shelf : Shelf) (units : Units) (type : VehicleType) (vin : String) (zone : Int)
    (incidents : List Incident) : (shelf.list ((Bridge.start units type vin zone).after incidents)).Settled := by
  induction incidents using List.reverseRecOn with
  | nil => cases shelf <;> exact ⟨iff_of_true rfl rfl, nofun⟩
  | append_singleton incidents i ih =>
    rw [Bridge.after_append]
    exact settled_meet ih i

/-- All that the channels of a list show is the entry under its cursor. -/
theorem view_eq (shelf : Shelf) (settled : (shelf.list b).Settled) :
    shelf.panel.view b = shelf.shows b.imperial (shelf.list b) := by
  have place : ((shelf.list b).current?.map fun (i, _) => Float.ofNat i) = (shelf.list b).cursor.map Float.ofNat := by
    rw [← settled.place_eq, Option.map_map]
    rfl
  rw [shows, ← place, ← Browse.current?_eq]
  cases shelf <;> rfl

/-- A step that tells a list at all tells all of it. -/
theorem inGroup_told (shelf : Shelf) {i : Incident} (settled : (shelf.list b).Settled)
    (shown : shelf.panel.view (b.meet i) ⊆ b.told i) :
    inGroup shelf.group (b.told i) = shelf.shows (b.meet i).imperial (shelf.list (b.meet i)) := by
  rw [← shelf.view_eq (settled_meet settled i)]
  refine (b.meet_refreshed i shelf.panel).resolve_right fun ⟨quiet, _⟩ => ?_
  -- Even an empty list shows its length, so the group has not been left out.
  obtain ⟨u, member⟩ : ∃ u, u ∈ shelf.panel.view (b.meet i) := by
    rw [shelf.view_eq (settled_meet settled i)]
    exact ⟨_, List.mem_append_right _ (List.mem_cons_self ..)⟩
  have here : u ∈ inGroup shelf.panel.group (b.told i) :=
    List.mem_filter.mpr ⟨shown member, decide_eq_true (Panel.view_group member)⟩
  cases quiet ▸ here

/-- A document that brings a list replaces it, and keeps the place of the cursor where the new list has one. -/
theorem meet_brought {shelf : Shelf} {i : Incident} {items : List shelf.Entry} (settled : (shelf.list b).Settled)
    (brought : shelf.brought? i = some items) :
    shelf.list (b.meet i) = ⟨items, if items = [] then none else
      some ((shelf.list b).cursor.elim 0 fun place => if place < items.length then place else 0)⟩ ∧
    inGroup shelf.group (b.told i) = shelf.shows (b.meet i).imperial (shelf.list (b.meet i)) := by
  cases shelf.meet_turn b i with
  | refreshed same list shown =>
    cases brought.symm.trans same
    exact ⟨list.trans (Browse.replace_settle _ items), shelf.inGroup_told settled shown⟩
  | advanced nothing | kept nothing => cases brought.symm.trans nothing

theorem brought?_ordered (shelf : Shelf) (c : ChannelCommand) : shelf.brought? (.ordered c) = none := by
  cases shelf <;> rfl

theorem meet_next {shelf : Shelf} (settled : (shelf.list b).Settled) (command : Command) :
    let i := .ordered ⟨shelf.next, command⟩
    shelf.list (b.meet i) =
      ⟨(shelf.list b).items, (shelf.list b).cursor.map fun place => (place + 1) % (shelf.list b).items.length⟩ ∧
    inGroup shelf.group (b.told i) = shelf.shows (b.meet i).imperial (shelf.list (b.meet i)) := by
  cases shelf.meet_turn b (.ordered ⟨shelf.next, command⟩) with
  | refreshed brought => cases (shelf.brought?_ordered _).symm.trans brought
  | advanced _ _ list shown => exact ⟨list.trans settled.advance_settle, shelf.inGroup_told settled shown⟩
  | kept _ other => exact absurd rfl other

/-- Nothing else moves the cursor or touches the list. -/
theorem meet_other {shelf : Shelf} {i : Incident} (nothing : shelf.brought? i = none)
    (other : i.channel? ≠ some shelf.next) : shelf.list (b.meet i) = shelf.list b := by
  cases shelf.meet_turn b i with
  | refreshed brought => cases nothing.symm.trans brought
  | advanced _ asked => exact absurd asked other
  | kept _ _ list => exact list

/-- Commands for the next entry, one after the other. -/
theorem list_nexts {shelf : Shelf} (settled : (shelf.list b).Settled) (commands : List Command) :
    shelf.list (b.after (commands.map fun command => .ordered ⟨shelf.next, command⟩)) =
      ⟨(shelf.list b).items,
        (shelf.list b).cursor.map fun place => (place + commands.length) % (shelf.list b).items.length⟩ := by
  induction commands generalizing b with
  | nil =>
    have stays : (shelf.list b).cursor.map (fun i => (i + 0) % (shelf.list b).items.length) =
        (shelf.list b).cursor := by
      cases place : (shelf.list b).cursor with
      | none => rfl
      | some i => exact congrArg some (Nat.mod_eq_of_lt (settled.within i place))
    rw [List.length_nil, stays]
    rfl
  | cons command commands ih =>
    have first := (meet_next settled command).1
    have rest := ih (settled_meet settled (.ordered ⟨shelf.next, command⟩))
    rw [first] at rest
    refine rest.trans ?_
    simp only [Option.map_map, Function.comp_def, Nat.mod_add_mod, List.length_cons]
    simp only [Nat.add_assoc, Nat.add_comm 1]

end Shelf

namespace Bridge

/-- Whatever happens to a bridge, in any order, and for each of its lists. What its channels have been told last is
the number of entries, the place of the cursor, which is -1 exactly where the number is zero, and the entry there.
A refresh keeps the cursor in its place if there still is an entry, and else puts it on the first one. Commands for
the next entry move it around the list. Both tell all channels of the list, and nothing else moves the cursor, least
of all a command for the next entry of another list. -/
theorem browsing (units : Units) (type : VehicleType) (vin : String) (zone : Int) (incidents : List Incident)
    (shelf : Shelf) :
    let start := Bridge.start units type vin zone
    let b := start.after incidents
    let history := start.history incidents
    let l := shelf.list b
    ((∃ u ∈ history, u.channel.group = shelf.group) →
      ∀ u ∈ shelf.shows b.imperial l, lastState? history u.channel = some u.state) ∧
    (orMinusOne (l.cursor.map Float.ofNat) = -1.0 ↔ Float.ofNat l.items.length = 0.0) ∧
    (∀ place, l.cursor = some place → ∃ bound : place < l.items.length, l.entry? = some l.items[place]) ∧
    (∀ i items, shelf.brought? i = some items →
      shelf.list (b.meet i) = ⟨items, if items = [] then none else
        some (l.cursor.elim 0 fun place => if place < items.length then place else 0)⟩ ∧
      inGroup shelf.group (b.told i) = shelf.shows (b.meet i).imperial (shelf.list (b.meet i))) ∧
    (∀ command : Command,
      let i := .ordered ⟨shelf.next, command⟩
      shelf.list (b.meet i) = ⟨l.items, l.cursor.map fun place => (place + 1) % l.items.length⟩ ∧
      inGroup shelf.group (b.told i) = shelf.shows (b.meet i).imperial (shelf.list (b.meet i))) ∧
    (∀ commands : List Command,
      shelf.list (b.after (commands.map fun command => .ordered ⟨shelf.next, command⟩)) =
        ⟨l.items, l.cursor.map fun place => (place + commands.length) % l.items.length⟩) ∧
    (∀ i, shelf.brought? i = none → i.channel? ≠ some shelf.next → shelf.list (b.meet i) = l) ∧
    ∀ other, other ≠ shelf → ∀ command, shelf.list (b.meet (.ordered ⟨other.next, command⟩)) = l := by
  intro start b history l
  have settled : l.Settled := shelf.settled_after units type vin zone incidents
  refine ⟨fun ⟨u, member, own⟩ => ?_, ?_, fun place on => ?_, fun i items => Shelf.meet_brought settled,
    Shelf.meet_next settled, Shelf.list_nexts settled, fun i => Shelf.meet_other, fun other differs command => ?_⟩
  · rw [← shelf.view_eq settled]
    refine (start.history_panel incidents shelf.panel).resolve_left fun ⟨quiet, _⟩ => ?_
    have here : u ∈ inGroup shelf.panel.group history := List.mem_filter.mpr ⟨member, decide_eq_true own⟩
    cases quiet ▸ here
  · rw [orMinusOne_eq_iff, ofNat_eq_zero_iff, settled.nowhere, List.length_eq_zero_iff]
  · have bound := settled.within place on
    exact ⟨bound, by rw [Browse.entry?, on, Option.bind_some, List.getElem?_eq_getElem bound]⟩
  · have foreign : some other.next ≠ some shelf.next := fun same =>
      differs (Shelf.next_inj (Option.some.inj same))
    exact Shelf.meet_other (shelf.brought?_ordered _) foreign

/-- A status with two services, and a command for the next one. After two more commands the second one is shown
again; a status with a single service puts the cursor back on the first. -/
theorem browsing_sample :
    let status (services : String) : Incident := .answered ⟨⟨2020, 1, 1⟩, 0, false⟩ .status
      ("\x7b\"vehicleStatus\":\x7b\"cbsData\":" ++ services ++ "\x7d\x7d")
    let next (c : Command) : Incident := .ordered ⟨⟨.service, "next"⟩, c⟩
    let start := Bridge.start .metric .conventional "" 0
    let incidents := [status "[\x7b\x7d,\x7b\x7d]", next (.onOff true)]
    let b := start.after incidents
    lastState? (start.history incidents) ⟨.service, "index"⟩ = some (.decimal (Float.ofNat 1)) ∧
      (b.after [next (.onOff true), next (.onOff false)]).services.cursor = some 1 ∧
      (b.meet (status "[\x7b\x7d]")).services.cursor = some 0 := by
  intro status next start incidents b
  obtain ⟨shown, _, _, refresh, _, nexts, _⟩ := browsing .metric .conventional "" 0 incidents .services
  have two : (Shelf.services.list b).items.length = 2 ∧ (Shelf.services.list b).cursor = some 1 := by
    decide +kernel
  have told : ((start.history incidents).any (·.channel.group = .service)) = true := by decide +kernel
  have one : (Shelf.brought? (status "[\x7b\x7d]") .services).map List.length = some 1 := by decide +kernel
  obtain ⟨length, cursor⟩ := two
  refine ⟨?_, ?_, ?_⟩
  · obtain ⟨u, member, own⟩ := List.any_eq_true.mp told
    refine shown ⟨u, member, of_decide_eq_true own⟩ ⟨⟨.service, "index"⟩, .decimal (Float.ofNat 1)⟩ ?_
    refine List.mem_append_right _ (List.mem_cons_of_mem _ (List.mem_singleton.mpr ?_))
    rw [cursor]
    rfl
  · refine (congrArg Browse.cursor (nexts [.onOff true, .onOff false])).trans ?_
    dsimp only
    rw [cursor, length]
    rfl
  · obtain ⟨items, brought, single⟩ := Option.map_eq_some_iff.mp one
    refine (congrArg Browse.cursor (refresh _ items brought).1).trans ?_
    dsimp only
    rw [cursor, single]
    cases items with
    | nil => cases single
    | cons => rfl

end Bridge

end VehicleLink
