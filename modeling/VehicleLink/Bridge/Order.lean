import VehicleLink.Bridge.Fingerprint

namespace VehicleLink

/-- What is to be done after a command. -/
inductive CommandResult where
  | applied
  /-- The text of a charge profile is to be sent to the vehicle. -/
  | send (payload : String)
deriving DecidableEq, Repr

namespace Bridge

/-- The text of the charge profile, to be sent to the vehicle. -/
def payload (b : Bridge) : Except CommandProblem String :=
  match b.loadedProfile? with
  | some p => .ok p.toText
  | none => .error .noProfile

/-- A command that is carried out. -/
def applied (b : Bridge) (events : List Event) : Outcome (Except CommandProblem CommandResult) :=
  ⟨b, events, .ok .applied⟩

/-- A command that is rejected. -/
def rejected (b : Bridge) (problem : CommandProblem) :
    Outcome (Except CommandProblem CommandResult) :=
  ⟨b, [], .error problem⟩

/-- Shows the next service. -/
def nextService (b : Bridge) : Outcome (Except CommandProblem CommandResult) :=
  let next := { b with services := b.services.advance.settle }
  next.applied (updates next.serviceView)

/-- Shows the next check-control message. -/
def nextCheck (b : Bridge) : Outcome (Except CommandProblem CommandResult) :=
  let next := { b with checks := b.checks.advance.settle }
  next.applied (updates next.checkView)

/-- Shows the next destination. -/
def nextDestination (b : Bridge) : Outcome (Except CommandProblem CommandResult) :=
  let next := { b with destinations := b.destinations.advance.settle }
  next.applied (updates next.destinationView)

/-- Asks for the profile to be sent, if the command says so. -/
def sendProfile (command : Command) (b : Bridge) : Outcome (Except CommandProblem CommandResult) :=
  match command with
  | .onOff true => ⟨b, [], b.payload.map .send⟩
  | _ => b.applied []

/-- Edits the profile. -/
def editProfile (target : ChargeTarget) (command : Command) (b : Bridge) :
    Outcome (Except CommandProblem CommandResult) :=
  match b.loadedProfile? with
  | none => b.rejected .noProfile
  | some p =>
    match target.edit command with
    | .error problem => b.rejected problem
    | .ok e =>
      let next := { b with profile := some (p.edit e) }
      next.applied (updates next.profileView)

/-- Notes the fingerprint, if the command says so. The channel goes back to off at once. -/
def tellFingerprint (c : ChannelCommand) (b : Bridge) :
    Outcome (Except CommandProblem CommandResult) :=
  let notes := match c.command with
    | .onOff true =>
      (Text.lines b.fingerprint.toList).map fun line => Event.warn (String.ofList line)
    | _ => []
  b.applied (notes ++ [.update ⟨c.channel, .onOff false⟩])

/-- Handles a command for a channel of the charge profile. -/
def orderCharge (c : ChannelCommand) (b : Bridge) : Outcome (Except CommandProblem CommandResult) :=
  match ChargeTarget.ofId? c.channel.id with
  | none => b.rejected (.notAccepted c.channel)
  | some .send => b.sendProfile c.command
  | some target => b.editProfile target c.command

/-- Handles a command. One that is rejected changes nothing. -/
def order (c : ChannelCommand) (b : Bridge) : Outcome (Except CommandProblem CommandResult) :=
  match c.channel.group with
  | .charge => b.orderCharge c
  | .service => if c.channel.id = "next" then b.nextService else b.rejected (.notAccepted c.channel)
  | .check => if c.channel.id = "next" then b.nextCheck else b.rejected (.notAccepted c.channel)
  | .destination =>
    if c.channel.id = "next" then b.nextDestination else b.rejected (.notAccepted c.channel)
  | .troubleshoot =>
    if c.channel.id = "vehicle-fingerprint" then b.tellFingerprint c
    else b.rejected (.notAccepted c.channel)
  | _ => b.rejected (.notAccepted c.channel)

end Bridge

end VehicleLink
