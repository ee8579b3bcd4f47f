import VehicleLink.Program.Run

namespace VehicleLink

/-- The program as it runs. -/
abbrev Live := ExceptT Overflow IO

namespace Live

/-- The pieces of bytes of which a zero ends each. -/
def pieces (bytes : ByteArray) : List (List UInt8) :=
  (Text.splitAll (· == 0) bytes.toList).dropLast

/-- The last arguments of the process, as bytes. -/
def arguments (count : Nat) : IO (List RawText) := do
  let all := pieces (← IO.FS.readBinFile "/proc/self/cmdline")
  return (all.drop (all.length - count)).map RawText.ofBytes

/-- The environment of the process. A name that is no text is left out: nothing asks for it or assigns to it. -/
def environment : IO Environment := do
  let all := pieces (← IO.FS.readBinFile "/proc/self/environ")
  return all.filterMap fun bytes =>
    (Text.cutAt (· == 61) bytes).bind fun (name, value) =>
      (Text.decodeUtf8? name).map fun name => (name, RawText.ofBytes value)

/-- The seconds since the beginning of 1970: those when the machine was started, and those since. -/
def epochSeconds : IO Int := do
  let words := fun s : String => (Text.splitAll Text.isBlank s.toList).map String.ofList
  let started := ((words (← IO.FS.readFile "/proc/stat")).dropWhile (· ≠ "btime"))[1]?
  let since := (Text.splitAll (fun c => !c.isDigit) (← IO.FS.readFile "/proc/uptime").toList).head?
  let number := fun cs : Option (List Char) => (cs.map Decimal.ofDigits).getD 0
  return (number (started.map String.toList) + number since : Nat)

/-- The present moment in UTC. -/
def today : IO Calendar.Moment := return Calendar.Moment.ofEpoch (← epochSeconds)

/-- Writes a note to the log. -/
def note (n : Note) : IO Unit := do
  let level := n.level.name ++ if n.level.name.length < 5 then " " else ""
  let start := "[" ++ (← today).text ++ "Z " ++ level ++ " " ++ Program.name ++ "] "
  IO.eprintln (start ++ "\n".intercalate n.lines)

/-- The bytes of a file, or why they cannot be had, and whether there is a file. -/
def readFile (path : RawText) : IO (Bool × Except String (List UInt8)) := do
  match path with
  | .broken _ => return (false, .error "the path is no text")
  | .text s =>
    try
      return (true, .ok (← IO.FS.readBinFile s).toList)
    catch
      | .permissionDenied .. => return (true, .error "Permission denied (os error 13)")
      | e => return (false, .error (toString e))

/-- The file system. -/
def files : Files Live where
  isFile path := return (← readFile path).1
  read path := return (← readFile path).2

/-- The world of a program that runs in a directory. -/
def host (directory : String) : Host Live where
  files := files
  usualFile := .text (directory ++ "/.env")
  wire :=
    { exchange := fun _ => return .error "io: network is unreachable"
      now := return ⟨← IO.monoNanosNow⟩
      note := fun n => note n }
  today := today
  complain line := IO.eprintln line
  zone := 0
  revision := "unknown"

/-- Reads the command input to its end, or to the first line that is no text. -/
partial def readCommandInput (input : IO.FS.Stream) (queue : IO.Ref (List ChannelCommand))
    (filter : LogFilter) (left : List UInt8) : IO Unit := do
  let chunk ← input.read 4096
  let ((results, broken), left) :=
    if chunk.isEmpty then (readInput left, []) else readPiece left chunk.toList
  queue.modify (· ++ results.filterMap LineResult.command?)
  for text in inputNotes (results, broken) do
    let n : Note := ⟨.warning, text⟩
    if filter.shows n then note n
  if broken || chunk.isEmpty then return ()
  readCommandInput input queue filter left

/-- Serves commands until a deadline. -/
partial def serve (host : Host Live) (deadline : Instant) (queue : IO.Ref (List ChannelCommand))
    (r : Running) : Live Running := do
  let now ← host.wire.now
  if now.before deadline then
    let waiting ← queue.modifyGet fun waiting => (waiting, [])
    if waiting.isEmpty then
      IO.sleep 50
      serve host deadline queue r
    else
      let (r, left) ← r.serve host deadline waiting [⟨now, []⟩]
      queue.modify (left ++ ·)
      serve host deadline queue r
  else return r

/-- Runs cycles for good. -/
partial def cycles (host : Host Live) (queue : IO.Ref (List ChannelCommand)) (r : Running) :
    Live UInt32 := do
  let start ← host.wire.now
  let r ← r.poll host
  let deadline ← Poller.deadline start r.interval
  let r ← serve host deadline queue r
  cycles host queue r

/-- The whole program. -/
def program (arguments : List RawText) (env : Environment) (directory : String) : Live UInt32 := do
  let host := host directory
  match ← Program.start host arguments env with
  | .error code => return code
  | .ok running =>
    let queue ← IO.mkRef []
    let input ← IO.getStdin
    discard (IO.asTask (readCommandInput input queue running.filter []))
    cycles host queue running

end Live

end VehicleLink

def main (args : List String) : IO UInt32 := do
  let arguments ← VehicleLink.Live.arguments args.length
  let env ← VehicleLink.Live.environment
  let directory ← IO.currentDir
  match ← (VehicleLink.Live.program arguments env directory.toString).run with
  | .ok code => return code
  | .error _ =>
    IO.eprintln "a count of 64 bits has run over"
    return 101
