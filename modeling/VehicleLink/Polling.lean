import VehicleLink.Bridge.Answer
import VehicleLink.Bridge.Order
import VehicleLink.Web.Instant

namespace VehicleLink

/-- What polling needs of the world. -/
structure Link (m : Type → Type) where
  fetch : Endpoint → m (Except Failure String)
  /-- Sends a charge profile. -/
  send : String → m (Except Failure Unit)
  /-- The present moment in UTC. -/
  today : m Calendar.Moment
  tell : List Event → m Unit

/-- The documents that some vehicles do not have. -/
def optionalEndpoints : List Endpoint := [.lastTrip, .allTrips, .destinations]

/-- The state of polling. -/
structure Poller where
  bridge : Bridge
  /-- The documents that are not requested any more. -/
  unsupported : List Endpoint

namespace Poller

/-- The documents that are due in a cycle, in order. -/
def due (p : Poller) : List Endpoint :=
  [.status] ++ optionalEndpoints.filter (!p.unsupported.contains ·) ++
    if p.bridge.vehicleType.isElectric then [.chargeProfile] else []

/-- What an answer does, or the failure to get one, at a moment in UTC. -/
def absorb (now : Calendar.Moment) (e : Endpoint) (answer : Except Failure String) (p : Poller) :
    Poller × List Event :=
  match answer with
  | .ok body =>
    let outcome := p.bridge.answer now e body
    let notes := match outcome.result with
      | .ok () => []
      | .error f => [.warn ("Could not decode " ++ e.path ++ " response: " ++ f.message)]
    ({ p with bridge := outcome.bridge }, outcome.events ++ notes)
  | .error f =>
    let failed := Event.warn ("Request for " ++ e.path ++ " failed: " ++ f.message)
    let next := { p with bridge := p.bridge.fail e f }
    if optionalEndpoints.contains e && f.unsupported then
      ({ next with unsupported := e :: p.unsupported },
        [failed, .inform ("Vehicle does not support " ++ e.path ++ "; no longer polling it")])
    else (next, [failed])

variable {m : Type → Type} [Monad m]

/-- Requests one document. -/
def request (link : Link m) (p : Poller) (e : Endpoint) : m Poller := do
  let answer ← link.fetch e
  let now ← link.today
  let (next, events) := p.absorb now e answer
  link.tell events
  return next

/-- Requests the documents that are due. -/
def poll (link : Link m) (p : Poller) : m Poller := p.due.foldlM (request link) p

/-- What is noted when a command is rejected. -/
def rejection (c : ChannelCommand) (problem : CommandProblem) : Event :=
  .warn ("Command " ++ c.command.label ++ " on " ++ c.channel.text ++ " rejected: " ++
    problem.message)

/-- What is noted when a charge profile has been sent, or could not be. -/
def sent : Except Failure Unit → Event
  | .ok () => .inform "Charge profile sent to vehicle"
  | .error f => .warn ("Sending charge profile failed: " ++ f.message)

/-- Carries out a command. -/
def apply (link : Link m) (c : ChannelCommand) (p : Poller) : m Poller := do
  let outcome := p.bridge.order c
  link.tell outcome.events
  match outcome.result with
  | .error problem => link.tell [rejection c problem]
  | .ok .applied => pure ()
  | .ok (.send payload) =>
    let result ← link.send payload
    link.tell [sent result]
  return { p with bridge := outcome.bridge }

/-- A turn of serving commands: the clock at its beginning, and the commands that came in since the
turn before or while the turn waited for one. -/
structure Turn where
  now : Instant
  arrived : List ChannelCommand

/-- Serves commands until a deadline, the earliest first. A turn that begins before the deadline
carries one command out; where none comes, the time until the deadline is waited out. What is left over
is kept. -/
def serve (link : Link m) (deadline : Instant) (queue : List ChannelCommand) :
    List Turn → Poller → m (Poller × List ChannelCommand)
  | [], p => return (p, queue)
  | turn :: rest, p =>
    if turn.now.before deadline then
      match queue ++ turn.arrived with
      | [] => return (p, [])
      | c :: queue => do
        let p ← p.apply link c
        serve link deadline queue rest p
    else return (p, queue ++ turn.arrived)

/-- The instant at which a cycle ends that began at another one. -/
def deadline [MonadExceptOf Overflow m] (start : Instant) (interval : Nat) : m Instant :=
  orOverflow (start.later? interval)

/-- A cycle of an interval in nanoseconds: requests, and then commands for the rest of it. -/
def cycle [MonadExceptOf Overflow m] (link : Link m) (interval : Nat) (start : Instant)
    (queue : List ChannelCommand) (turns : List Turn) (p : Poller) :
    m (Poller × List ChannelCommand) := do
  let p ← p.poll link
  let deadline ← deadline start interval
  p.serve link deadline queue turns

end Poller

end VehicleLink
