import VehicleLink.Proofs.Channel.Input
import VehicleLink.Proofs.Polling.SentProfiles
import VehicleLink.Proofs.Polling.Serving

namespace VehicleLink

/-- The command that a move carries out. -/
def Move.command? : Move → Option ChannelCommand
  | .poll => none
  | .command c => some c

/-- A cycle of the poll loop as it went: when it began, and the turns of serving that took place. -/
structure Lap where
  start : Instant
  turns : List Poller.Turn

namespace Poller

variable {m : Type → Type} [Monad m]

/-- Makes a move. -/
def perform (link : Link m) (p : Poller) : Move → m Poller
  | .poll => p.poll link
  | .command c => p.apply link c

/-- Makes moves, one after the other. -/
def performAll (link : Link m) (moves : List Move) (p : Poller) : m Poller := moves.foldlM (perform link) p

theorem performAll_concat [LawfulMonad m] (link : Link m) (moves : List Move) (move : Move) (p : Poller) :
    p.performAll link (moves ++ [move]) = p.performAll link moves >>= fun p => p.perform link move := by
  simp [performAll]

variable [MonadExceptOf Overflow m]

/-- Runs cycles, one after the other. What is left in the channel is there in the next cycle. -/
def cycles (link : Link m) (interval : Nat) (laps : List Lap) (p : Poller) :
    m (Poller × List ChannelCommand) :=
  laps.foldlM (fun (p, queue) lap => p.cycle link interval lap.start queue lap.turns) (p, [])

theorem cycles_concat [LawfulMonad m] (link : Link m) (interval : Nat) (laps : List Lap) (lap : Lap)
    (p : Poller) :
    p.cycles link interval (laps ++ [lap]) = p.cycles link interval laps >>= fun (p, queue) =>
      p.cycle link interval lap.start queue lap.turns := by
  simp [cycles]

end Poller

/-- What the poll loop is doing. -/
inductive Phase where
  | resting
  /-- Requesting documents, in a cycle that began at an instant. -/
  | requesting (start : Instant)
  /-- Serving commands until a deadline, in a cycle as it went so far. -/
  | serving (deadline : Instant) (lap : Lap)

/-- The command reader and the poll loop, and what has been so far. -/
structure Station where
  /-- The lines that have not been read. -/
  ahead : List (List UInt8)
  /-- The commands in the channel that were there when the loop looked into it last. -/
  queue : List ChannelCommand
  /-- The commands that have been sent since. -/
  arrived : List ChannelCommand
  phase : Phase
  /-- The cycles that are over. -/
  laps : List Lap
  /-- What the loop has done. -/
  moves : List Move

namespace Station

/-- Before anything has happened. -/
def start (bytes : List UInt8) : Station := ⟨Text.byteLines bytes, [], [], .resting, [], []⟩

/-- The cycles that are over, and the one whose commands are being served. -/
def rounds (s : Station) : List Lap :=
  s.laps ++ match s.phase with
    | .serving _ lap => [lap]
    | _ => []

/-- The commands that the loop has carried out, in order. -/
def carriedOut (s : Station) : List ChannelCommand := s.moves.filterMap Move.command?

/-- A step of the reader or of the loop. -/
inductive Step (interval : Nat) (s : Station) : Station → Prop
  | line {line ahead text} (next : s.ahead = line :: ahead) (read : Text.decodeUtf8? line = some text) :
      Step interval s
        { s with ahead := ahead, arrived := s.arrived ++ (LineResult.ofLine text).command?.toList }
  | broken {line ahead} (next : s.ahead = line :: ahead) (noText : Text.decodeUtf8? line = none) :
      Step interval s { s with ahead := [] }
  | begins (now : Instant) (phase : s.phase = .resting) : Step interval s { s with phase := .requesting now }
  | requested {start deadline} (phase : s.phase = .requesting start)
      (ends : start.later? interval = some deadline) :
      Step interval s { s with phase := .serving deadline ⟨start, []⟩, moves := s.moves ++ [.poll] }
  | takes {deadline lap now c queue} (phase : s.phase = .serving deadline lap)
      (inTime : now.before deadline = true) (first : s.queue ++ s.arrived = c :: queue) :
      Step interval s { s with
        queue := queue
        arrived := []
        phase := .serving deadline { lap with turns := lap.turns ++ [⟨now, s.arrived⟩] }
        moves := s.moves ++ [.command c] }
  | late {deadline lap now} (phase : s.phase = .serving deadline lap) (late : now.before deadline = false) :
      Step interval s { s with
        queue := s.queue ++ s.arrived
        arrived := []
        phase := .resting
        laps := s.laps ++ [{ lap with turns := lap.turns ++ [⟨now, s.arrived⟩] }] }
  | idle {deadline lap now} (phase : s.phase = .serving deadline lap) (inTime : now.before deadline = true)
      (empty : s.queue ++ s.arrived = []) :
      Step interval s { s with
        phase := .resting
        laps := s.laps ++ [{ lap with turns := lap.turns ++ [⟨now, s.arrived⟩] }] }

/-- What can come of an input, whatever the reader and the loop take turns at. -/
inductive Reach (interval : Nat) (bytes : List UInt8) : Station → Prop
  | start : Reach interval bytes (.start bytes)
  | next {s t} : Reach interval bytes s → s.Step interval t → Reach interval bytes t

section Commands

variable {interval : Nat} {bytes : List UInt8} {s t : Station}

/-- The commands that have been carried out, those on their way, and those that are still to be read. -/
def commands (s : Station) : List ChannelCommand := s.carriedOut ++ s.queue ++ s.arrived ++ commandsIn s.ahead

/-- No step loses a command, makes one twice, or changes their order. -/
theorem Step.commands_eq (step : s.Step interval t) : t.commands = s.commands := by
  cases step with
  | line next read => simp [commands, carriedOut, next, commandsIn_cons read]
  | broken next noText =>
    have nothing : commandsIn [] = [] := rfl
    simp [commands, carriedOut, next, commandsIn_broken noText, nothing]
  | begins => rfl
  | requested => simp [commands, carriedOut, Move.command?]
  | @takes _ _ _ c queue _ _ first =>
    have order : c :: (queue ++ commandsIn s.ahead) = s.queue ++ (s.arrived ++ commandsIn s.ahead) := by
      rw [← List.append_assoc, first, List.cons_append]
    simp [commands, carriedOut, Move.command?, order]
  | late => simp [commands, carriedOut]
  | idle => rfl

theorem Reach.conserved (reached : Reach interval bytes s) : s.commands = readCommands bytes := by
  induction reached with
  | start => rfl
  | next _ step ih => exact step.commands_eq.trans ih

theorem Reach.carriedOut_initial (reached : Reach interval bytes s) :
    s.carriedOut <+: (Text.byteLines bytes).filterMap lineCommand? := by
  have done : s.carriedOut <+: readCommands bytes := by
    rw [← reached.conserved, commands, List.append_assoc, List.append_assoc]
    exact List.prefix_append ..
  exact done.trans (commandsIn_initial _)

end Commands

section Moves

variable {m : Type → Type} [Monad m] [MonadExceptOf Overflow m] {link : Link m} {interval : Nat} {p : Poller}
  {bytes : List UInt8} {s t : Station}

/-- What the loop is doing is what the moves do, with the rest of the cycle to come. -/
def Moved (link : Link m) (interval : Nat) (p : Poller) (s : Station) : Prop :=
  match s.phase with
  | .serving deadline lap =>
    lap.start.later? interval = some deadline ∧ ∀ turns,
      p.cycles link interval (s.laps ++ [{ lap with turns := lap.turns ++ turns }]) =
        p.performAll link s.moves >>= fun p => p.serve link deadline s.queue turns
  | _ => p.cycles link interval s.laps = (fun p => (p, s.queue)) <$> p.performAll link s.moves

theorem moved_of_serving {deadline : Instant} {lap : Lap} (phase : s.phase = .serving deadline lap) :
    s.Moved link interval p ↔ lap.start.later? interval = some deadline ∧ ∀ turns,
      p.cycles link interval (s.laps ++ [{ lap with turns := lap.turns ++ turns }]) =
        p.performAll link s.moves >>= fun p => p.serve link deadline s.queue turns := by
  rw [Moved, phase]

variable [LawfulMonad m]

/-- A step of the reader leaves the loop alone, and one of the loop is the move that it stands for. -/
theorem Step.moved (step : s.Step interval t) (moved : s.Moved link interval p) : t.Moved link interval p := by
  -- While commands are served the turns to come stay general. The last turn closes the cycle.
  cases step with
  | line => exact moved
  | broken => exact moved
  | begins now phase =>
    rw [Moved, phase] at moved
    exact moved
  | @requested start deadline phase ends =>
    rw [Moved, phase] at moved
    refine ⟨ends, fun turns => ?_⟩
    rw [Poller.cycles_concat, moved, Poller.performAll_concat, bind_map_left, bind_assoc]
    exact bind_congr fun p => Poller.cycle_eq link ends s.queue turns p
  | @takes deadline lap now c queue phase inTime first =>
    obtain ⟨ends, going⟩ := (moved_of_serving phase).mp moved
    refine ⟨ends, fun turns => ?_⟩
    have joined : lap.turns ++ [⟨now, s.arrived⟩] ++ turns = lap.turns ++ ⟨now, s.arrived⟩ :: turns := by simp
    simp only [joined]
    rw [going, Poller.performAll_concat, bind_assoc]
    exact bind_congr fun p => Poller.serve_take link p inTime first turns
  | @late deadline lap now phase late =>
    obtain ⟨ends, going⟩ := (moved_of_serving phase).mp moved
    refine (going [⟨now, s.arrived⟩]).trans ?_
    rw [map_eq_pure_bind]
    exact bind_congr fun p => Poller.serve_late link p late s.queue []
  | @idle deadline lap now phase inTime empty =>
    obtain ⟨ends, going⟩ := (moved_of_serving phase).mp moved
    refine (going [⟨now, s.arrived⟩]).trans ?_
    have none : s.queue = [] := (List.append_eq_nil_iff.mp empty).1
    rw [map_eq_pure_bind, none]
    exact bind_congr fun p => Poller.serve_idle link p inTime (none ▸ empty) []

theorem Reach.moved (reached : Reach interval bytes s) : s.Moved link interval p := by
  induction reached with
  | start => simp [Moved, Station.start, Poller.cycles, Poller.performAll]
  | next _ step ih => exact step.moved ih

/-- Between two cycles the loop has done what the cycles so far do, and what waits is what they have left. -/
theorem Reach.cycles_eq (reached : Reach interval bytes s) :
    p.cycles link interval s.rounds = (fun p => (p, s.queue)) <$> p.performAll link s.moves := by
  have moved : s.Moved link interval p := reached.moved
  rw [rounds]
  cases phase : s.phase with
  | resting | requesting =>
    rw [Moved, phase] at moved
    simpa using moved
  | serving deadline lap =>
    obtain ⟨_, going⟩ := (moved_of_serving phase).mp moved
    have now := going []
    rw [List.append_nil] at now
    simpa [Poller.serve] using now

end Moves

/-- However the reader and the loop take turns, the commands that the loop has carried out are a first part of
those on the lines of the input, in order. None is lost or made twice: the rest is on its way or still to be
read. What the loop does is making whole moves, so no command comes in between the requests of a cycle. -/
theorem commands_in_order {interval : Nat} {bytes : List UInt8} {s : Station} (reached : Reach interval bytes s) :
    s.carriedOut <+: (Text.byteLines bytes).filterMap lineCommand? ∧
    s.carriedOut ++ s.queue ++ s.arrived ++ commandsIn s.ahead = readCommands bytes ∧
    ∀ {m : Type → Type} [Monad m] [LawfulMonad m] [MonadExceptOf Overflow m] (link : Link m) (p : Poller),
      p.cycles link interval s.rounds = (fun p => (p, s.queue)) <$> p.performAll link s.moves :=
  ⟨reached.carriedOut_initial, reached.conserved, fun _ _ => reached.cycles_eq⟩

/-- The first command is read during the requests and carried out. The third line is read while it is, and the
cycle ends before the command on it can be carried out. -/
theorem commands_in_order_sample :
    let bytes := "service#next ON\nnonsense\ncheck#next ON".toUTF8.toList
    let service : ChannelCommand := ⟨⟨.service, "next"⟩, .onOff true⟩
    let check : ChannelCommand := ⟨⟨.check, "next"⟩, .onOff true⟩
    let laps : List Lap := [⟨⟨0⟩, [⟨⟨10⟩, [service]⟩, ⟨⟨60⟩, [check]⟩]⟩]
    let s : Station := ⟨[], [check], [], .resting, laps, [.poll, .command service]⟩
    Reach 60 bytes s ∧ [service] <+: (Text.byteLines bytes).filterMap lineCommand? ∧
      [service, check] = readCommands bytes ∧
      ∀ (link : Link (Except Overflow)) (p : Poller), p.cycles link 60 laps =
        (fun p => (p, [check])) <$> p.performAll link [.poll, .command service] := by
  intro bytes service check laps s
  have lines : Text.byteLines bytes = ["service#next ON", "nonsense", "check#next ON"].map (·.toUTF8.toList) := by
    decide +kernel
  have read : ∀ line ∈ ["service#next ON", "nonsense", "check#next ON"],
      Text.decodeUtf8? line.toUTF8.toList = some line := by decide +kernel
  have deadline : (⟨0⟩ : Instant).later? 60 = some ⟨60⟩ := by decide
  have inTime : (⟨10⟩ : Instant).before ⟨60⟩ = true := by decide
  have late : (⟨60⟩ : Instant).before ⟨60⟩ = false := by decide
  have reached : Reach 60 bytes s := by
    have fresh : Reach 60 bytes (.start bytes) := .start
    have begun := fresh.next (.begins ⟨0⟩ rfl)
    have first := begun.next (.line lines (read "service#next ON" (by simp)))
    have polled := first.next (.requested rfl deadline)
    have taken := polled.next (.takes rfl inTime rfl)
    have second := taken.next (.line rfl (read "nonsense" (by simp)))
    have third := second.next (.line rfl (read "check#next ON" (by simp)))
    have ended := third.next (.late rfl late)
    exact ended
  obtain ⟨first, all, moves⟩ := commands_in_order reached
  exact ⟨reached, first, all, fun link p => moves link p⟩

end Station

end VehicleLink
