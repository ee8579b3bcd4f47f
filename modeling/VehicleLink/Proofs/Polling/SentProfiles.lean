import VehicleLink.Polling
import VehicleLink.Proofs.Bridge.Steps
import Mathlib.Tactic.ByContra

namespace VehicleLink

/-- Something that has happened between a poller and the world. -/
inductive Exchange where
  /-- A request was answered, or failed. -/
  | answered (e : Endpoint) (answer : Except Failure String)
  /-- A command came in and was accepted or rejected. -/
  | ordered (c : ChannelCommand) (result : Except CommandProblem CommandResult)
  /-- The text of a profile was sent, or its sending failed. -/
  | sent (payload : String) (result : Except Failure Unit)

/-- What has happened, the last first. -/
abbrev Journal := List Exchange

/-- The rest of the world. What it does may depend on all that has happened. -/
structure World where
  fetch : Journal → Endpoint → Except Failure String
  send : Journal → String → Except Failure Unit
  today : Journal → Calendar.Moment

/-- Reaches a world, and keeps the journal. -/
def World.link (w : World) : Link (StateM Journal) where
  fetch e := modifyGet fun journal =>
    let answer := w.fetch journal e
    (answer, .answered e answer :: journal)
  send payload := modifyGet fun journal =>
    let result := w.send journal payload
    (result, .sent payload result :: journal)
  today := w.today <$> get
  tell _ := pure ()

/-- What a poller is made to do. -/
inductive Move where
  | poll
  | command (c : ChannelCommand)

/-- Makes one move. -/
def Poller.move (w : World) (p : Poller) : Move → StateM Journal Poller
  | .poll => p.poll w.link
  | .command c => do
    modify (.ordered c (p.bridge.order c).result :: ·)
    p.apply w.link c

/-- Makes moves, one after the other. -/
def Poller.run (w : World) (p : Poller) (moves : List Move) : StateM Journal Poller :=
  moves.foldlM (Poller.move w) p

namespace ChannelCommand

/-- Whether a command asks for the profile to be sent. -/
def AsksToSend (c : ChannelCommand) : Prop :=
  c.channel.group = .charge ∧ ChargeTarget.ofId? c.channel.id = some .send ∧ c.command = .onOff true

/-- The edit that a command asks for, if it is one for a channel of the profile. -/
def chargeEdit? (c : ChannelCommand) : Option ChargeEdit :=
  if c.channel.group = .charge then
    (ChargeTarget.ofId? c.channel.id).bind fun target => (target.edit c.command).toOption
  else none

end ChannelCommand

namespace Exchange

/-- The profile that an answer contains, if it can be read. -/
def profile? : Exchange → Option ChargeProfile
  | .answered .chargeProfile (.ok body) => (ChargeProfile.ofText body).toOption
  | _ => none

/-- The edit of the profile that was accepted. -/
def edit? : Exchange → Option ChargeEdit
  | .ordered c (.ok _) => c.chargeEdit?
  | _ => none

end Exchange

namespace Journal

/-- The last profile that could be read. -/
def profile? (journal : Journal) : Option ChargeProfile := journal.findSome? Exchange.profile?

/-- The edits that have been accepted since, in order. -/
def edits (journal : Journal) : List ChargeEdit :=
  ((journal.takeWhile (·.profile?.isNone)).filterMap Exchange.edit?).reverse

/-- The profile that must be in use. -/
def current? (journal : Journal) : Option ChargeProfile :=
  (profile? journal).map fun p => p.edits (edits journal)

end Journal

namespace ChargeProfile

end ChargeProfile

namespace Bridge

variable {b : Bridge}

/-- Of all answers only a charge profile that can be read takes the place of the one in use. -/
theorem answer_spec (now : Calendar.Moment) (e : Endpoint) (body : String) :
    (b.answer now e body).bridge.profile = (Exchange.answered e (.ok body)).profile?.or b.profile ∧
      (b.answer now e body).bridge.vehicleType = b.vehicleType := by
  have way := takeAnswer_taken (b.remember e body) now e body
  rw [answer]
  generalize (b.remember e body).takeAnswer now e body = outcome at way ⊢
  cases way with
  | unread other =>
    cases e with
    | chargeProfile => exact absurd rfl other
    | status | lastTrip | allTrips | destinations => exact ⟨rfl, rfl⟩
  | status | noStatus | lastTrip | allTrips | destinations => exact ⟨rfl, rfl⟩
  | profile read =>
    rw [Exchange.profile?, read]
    exact ⟨rfl, rfl⟩
  | unusable unread =>
    rw [Exchange.profile?, unread]
    exact ⟨rfl, rfl⟩

theorem loadedProfile?_eq_some {p : ChargeProfile} :
    b.loadedProfile? = some p ↔ b.profile = some p ∧ p.isEmpty = false := by
  simp [loadedProfile?, Option.filter_eq_some_iff]

/-- What a command can come to. One that asks for the profile to be sent changes nothing, nor does one that
is rejected. Any other that is accepted edits the profile in use as it asks for. -/
inductive Obeys (b : Bridge) (c : ChannelCommand)
    (outcome : Outcome (Except CommandProblem CommandResult)) : Prop
  | asked (asks : c.AsksToSend) (bridge : outcome.bridge = b)
      (result : outcome.result = b.payload.map .send)
  | rejected (other : ¬c.AsksToSend) (bridge : outcome.bridge = b) (problem : CommandProblem)
      (result : outcome.result = .error problem)
  | applied (other : ¬c.AsksToSend) (result : outcome.result = .ok .applied)
      (profile : outcome.bridge.profile = b.profile.map fun p => p.edits c.chargeEdit?.toList)
      (vehicleType : outcome.bridge.vehicleType = b.vehicleType)

theorem Obeys.kept {c : ChannelCommand} {outcome : Outcome (Except CommandProblem CommandResult)}
    (other : ¬c.AsksToSend) (noEdit : c.chargeEdit? = none) (result : outcome.result = .ok .applied)
    (profile : outcome.bridge.profile = b.profile)
    (vehicleType : outcome.bridge.vehicleType = b.vehicleType) : b.Obeys c outcome := by
  refine .applied other result ?_ vehicleType
  rw [profile, noEdit]
  exact Option.map_id'.symm

theorem editProfile_obeys {c : ChannelCommand} {target : ChargeTarget} (charge : c.channel.group = .charge)
    (found : ChargeTarget.ofId? c.channel.id = some target) (other : ¬c.AsksToSend) :
    b.Obeys c (b.editProfile target c.command) := by
  unfold editProfile
  cases loaded : b.loadedProfile? with
  | none => exact .rejected other rfl _ rfl
  | some p =>
    cases asked : target.edit c.command with
    | error problem => exact .rejected other rfl _ rfl
    | ok e =>
      have edit : c.chargeEdit? = some e := by
        rw [ChannelCommand.chargeEdit?, if_pos charge, found, Option.bind_some, asked]
        rfl
      refine .applied other rfl ?_ rfl
      rw [(loadedProfile?_eq_some.mp loaded).1, edit]
      rfl

theorem orderCharge_of_found {c : ChannelCommand} {target : ChargeTarget}
    (found : ChargeTarget.ofId? c.channel.id = some target) (other : target ≠ .send) :
    b.orderCharge c = b.editProfile target c.command := by
  rw [orderCharge, found]
  cases target with
  | send => exact absurd rfl other
  | climate | mode | preference | time | enabled | day => rfl

/-- A command for a channel of the charge profile edits the profile, asks for it to be sent, or is rejected. -/
theorem orderCharge_obeys {c : ChannelCommand} (charge : c.channel.group = .charge) :
    b.Obeys c (b.orderCharge c) := by
  cases found : ChargeTarget.ofId? c.channel.id with
  | none =>
    rw [orderCharge, found]
    refine .rejected (fun asks => ?_) rfl _ rfl
    cases found.symm.trans asks.2.1
  | some target =>
    by_cases send : target = .send
    · subst send
      have step : b.orderCharge c = b.sendProfile c.command := by rw [orderCharge, found]
      rw [step]
      by_cases on : c.command = .onOff true
      · rw [on]
        exact .asked ⟨charge, found, on⟩ rfl rfl
      · have step : b.sendProfile c.command = b.applied [] := by
          unfold sendProfile
          split
          · rename_i on'
            exact absurd on' on
          · rfl
        have noEdit : c.chargeEdit? = none := by
          rw [ChannelCommand.chargeEdit?, if_pos charge, found]
          rfl
        rw [step]
        exact .kept (fun asks => on asks.2.2) noEdit rfl rfl rfl
    · have other : ¬c.AsksToSend := by
        intro asks
        cases found.symm.trans asks.2.1
        exact send rfl
      rw [orderCharge_of_found found send]
      exact editProfile_obeys charge found other

theorem order_obeys (b : Bridge) (c : ChannelCommand) : b.Obeys c (b.order c) := by
  by_cases charge : c.channel.group = .charge
  · have step : b.order c = b.orderCharge c := by rw [order, charge]
    rw [step]
    exact orderCharge_obeys charge
  · -- The other channels move what is shown, or tell something: none of them knows of the profile.
    have other : ¬c.AsksToSend := fun asks => charge asks.1
    have noEdit : c.chargeEdit? = none := if_neg charge
    rw [order]
    split
    · rename_i group
      exact absurd group charge
    · split
      · exact .kept other noEdit rfl rfl rfl
      · exact .rejected other rfl _ rfl
    · split
      · exact .kept other noEdit rfl rfl rfl
      · exact .rejected other rfl _ rfl
    · split
      · exact .kept other noEdit rfl rfl rfl
      · exact .rejected other rfl _ rfl
    · split
      · exact .kept other noEdit rfl rfl rfl
      · exact .rejected other rfl _ rfl
    · exact .rejected other rfl _ rfl

end Bridge

namespace Faithful

variable {journal before : Journal} {c : ChannelCommand}

end Faithful

namespace Poller

variable {type : VehicleType} {journal : Journal} {p : Poller}

theorem absorb_spec (now : Calendar.Moment) (e : Endpoint) (answer : Except Failure String) :
    (p.absorb now e answer).1.bridge.profile = (Exchange.answered e answer).profile?.or p.bridge.profile ∧
      (p.absorb now e answer).1.bridge.vehicleType = p.bridge.vehicleType := by
  cases answer with
  | ok body => exact Bridge.answer_spec now e body
  | error f =>
    have none : (Exchange.answered e (.error f)).profile? = none := by cases e <;> rfl
    rw [none, absorb]
    dsimp only
    split <;> exact ⟨rfl, rfl⟩

theorem request_run (w : World) (p : Poller) (e : Endpoint) (journal : Journal) :
    ∃ now answer, (p.request w.link e).run journal =
      ((p.absorb now e answer).1, .answered e answer :: journal) :=
  ⟨w.today (.answered e (w.fetch journal e) :: journal), w.fetch journal e, rfl⟩

/-- The journal after a command. -/
theorem move_command (w : World) (c : ChannelCommand) :
    (p.move w (.command c)).run journal = ({ p with bridge := (p.bridge.order c).bridge },
      match (p.bridge.order c).result with
      | .ok (.send payload) =>
        .sent payload (w.send (.ordered c (.ok (.send payload)) :: journal) payload) ::
          .ordered c (.ok (.send payload)) :: journal
      | result => .ordered c result :: journal) := by
  cases result : (p.bridge.order c).result with
  | error problem => simp [move, apply, result, World.link]; rfl
  | ok outcome =>
    cases outcome with
    | applied => simp [move, apply, result, World.link]; rfl
    | send payload => simp [move, apply, result, World.link]; rfl

end Poller

end VehicleLink
