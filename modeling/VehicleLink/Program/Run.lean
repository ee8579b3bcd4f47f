import VehicleLink.Polling
import VehicleLink.Program.Filter
import VehicleLink.Settings.Config
import VehicleLink.Web.Session

namespace VehicleLink

/-- What the program needs of the world. -/
structure Host (m : Type → Type) where
  files : Files m
  /-- The file that fills the environment up where the arguments name none. -/
  usualFile : RawText
  wire : Wire m
  /-- The present moment in UTC. -/
  today : m Calendar.Moment
  /-- Writes a line outside the log. -/
  complain : String → m Unit
  /-- The zone of local times, in seconds east of UTC. -/
  zone : Int
  /-- Which state of the program this is. -/
  revision : String

/-- A program that has logged in. -/
structure Running where
  filter : LogFilter
  session : Session
  poller : Poller
  /-- From the start of one cycle to that of the next, in seconds. -/
  refreshSeconds : Nat

namespace Program

/-- The name of the program. -/
def name : String := "connected-drive"

/-- The version of the program. -/
def version : String := "0.1.0"

/-- What is noted at the start. -/
def banner (revision : String) : String :=
  name ++ " " ++ version ++ " (git " ++ revision ++ ") starting"

/-- What is noted when the environment was filled up from a file. -/
def loadedLine (file : LoadedFile) : String :=
  "Environment loaded from " ++ (if file.explicit then "CLI-specified" else "default") ++
    " .env file: " ++ file.path.shown

/-- What is noted when the configuration was read. -/
def configLine (c : Config) : String :=
  "Config loaded (region=" ++ c.region.label ++ ", vehicle_type=" ++ c.vehicleType.label ++
    ", units=" ++ c.units.label ++ ", refresh_interval=" ++
    Decimal.integerText c.refreshSeconds ++ "s, request_timeout=" ++
    Decimal.integerText c.timeoutSeconds ++ "s)"

/-- Why the program ends when it could not log in. -/
def loginProblem (f : Failure) : String :=
  "ConnectedDrive auth failed (credentials or client auth wrong?): " ++ f.message

/-- The line with which the program ends early. -/
def fatal (reason : String) : String := "fatal: " ++ reason

/-- The exit code of a program that ends early. -/
def failureCode : UInt32 := 1

end Program

/-- A wire that takes only the notes that a filter lets through. -/
def LogFilter.wire {m : Type → Type} [Monad m] (f : LogFilter) (w : Wire m) : Wire m :=
  { w with note := fun n => if f.shows n then w.note n else pure () }

variable {m : Type → Type} [Monad m] [MonadExceptOf Overflow m]

namespace Program

/-- Reads the configuration, logs in and gets ready to poll. -/
def login (host : Host m) (env : Environment) : m (Except UInt32 Running) := do
  let filter := LogFilter.ofEnvironment env
  let wire := filter.wire host.wire
  let inform := fun text => wire.note ⟨.info, text⟩
  let stop := fun reason => wire.note ⟨.error, fatal reason⟩
  match Config.read env.text? with
  | .error overflow => throw overflow
  | .ok (.error problem) =>
    stop problem.message
    return .error failureCode
  | .ok (.ok config) =>
    inform (configLine config)
    match ← Session.login wire config.account with
    | .error f =>
      stop (loginProblem f)
      return .error failureCode
    | .ok session =>
      inform ("Authenticated to ConnectedDrive at " ++ config.region.server)
      inform ("Starting poll loop: interval=" ++ Decimal.integerText config.refreshSeconds ++ "s")
      let bridge := Bridge.start config.units config.vehicleType config.vin host.zone
      return .ok ⟨filter, session, ⟨bridge, []⟩, config.refreshSeconds⟩

/-- Runs the program up to its first cycle. It may end there, with an exit code. -/
def start (host : Host m) (arguments : List RawText) (env : Environment) :
    m (Except UInt32 Running) := do
  match ← host.files.makeEnvironment host.usualFile arguments env with
  | .error problem =>
    host.complain (fatal problem.message)
    return .error failureCode
  | .ok (loaded, env) =>
    let wire := (LogFilter.ofEnvironment env).wire host.wire
    match loaded with
    | some file => wire.note ⟨.info, loadedLine file⟩
    | none => pure ()
    wire.note ⟨.info, banner host.revision⟩
    login host env

end Program

namespace Running

/-- How a running program reaches its vehicle: through its session. -/
def link (host : Host m) (filter : LogFilter) : Link (StateT Session m) :=
  let wire := filter.wire host.wire
  { fetch := fun e s => s.fetch wire e
    send := fun payload s => s.sendProfile wire payload
    today := fun s => do return (← host.today, s)
    tell := fun events s => do
      events.forM fun event => wire.note event.logged
      return ((), s) }

/-- The interval of a cycle, in nanoseconds. -/
def interval (r : Running) : Nat := r.refreshSeconds * secondLength.toNat

/-- The requests of a cycle. -/
def poll (host : Host m) (r : Running) : m Running := do
  let (poller, session) ← (r.poller.poll (link host r.filter)).run r.session
  return { r with poller, session }

/-- The commands of a cycle. -/
def serve (host : Host m) (deadline : Instant) (queue : List ChannelCommand)
    (turns : List Poller.Turn) (r : Running) : m (Running × List ChannelCommand) := do
  let ((poller, queue), session) ←
    (r.poller.serve (link host r.filter) deadline queue turns).run r.session
  return ({ r with poller, session }, queue)

/-- A cycle. -/
def cycle (host : Host m) (start : Instant) (queue : List ChannelCommand)
    (turns : List Poller.Turn) (r : Running) : m (Running × List ChannelCommand) := do
  let r ← r.poll host
  let deadline ← Poller.deadline start r.interval
  r.serve host deadline queue turns

end Running

end VehicleLink
