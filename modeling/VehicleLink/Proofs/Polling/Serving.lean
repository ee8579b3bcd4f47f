import VehicleLink.Polling

namespace VehicleLink.Poller

section Serve

variable {m : Type → Type} [Monad m] (link : Link m) {deadline : Instant} (p : Poller)

/-- Carries out commands, one after the other. -/
def applyAll (cs : List ChannelCommand) (p : Poller) : m Poller := cs.foldlM (fun p c => p.apply link c) p

theorem applyAll_cons (c : ChannelCommand) (cs : List ChannelCommand) :
    applyAll link (c :: cs) p = p.apply link c >>= applyAll link cs := List.foldlM_cons ..

theorem applyAll_append [LawfulMonad m] (cs ds : List ChannelCommand) :
    applyAll link (cs ++ ds) p = applyAll link cs p >>= applyAll link ds := List.foldlM_append

theorem serve_take {turn : Turn} {queue rest : List ChannelCommand} {c : ChannelCommand}
    (inTime : turn.now.before deadline = true) (first : queue ++ turn.arrived = c :: rest) (turns : List Turn) :
    p.serve link deadline queue (turn :: turns) =
      p.apply link c >>= fun p => p.serve link deadline rest turns := by
  rw [serve, if_pos inTime, first]

/-- A turn that begins at the deadline or later carries nothing out. -/
theorem serve_late {turn : Turn} (late : turn.now.before deadline = false) (queue : List ChannelCommand)
    (turns : List Turn) :
    p.serve link deadline queue (turn :: turns) = pure (p, queue ++ turn.arrived) := by
  rw [serve, if_neg (by simp [late])]

theorem serve_idle {turn : Turn} {queue : List ChannelCommand} (inTime : turn.now.before deadline = true)
    (none : queue ++ turn.arrived = []) (turns : List Turn) :
    p.serve link deadline queue (turn :: turns) = pure (p, []) := by
  rw [serve, if_pos inTime, none]

variable [LawfulMonad m]

/-- As many commands as there are turns that begin in time are carried out first, whatever comes in meanwhile
and whatever becomes of the rest. -/
theorem serve_append {first : List ChannelCommand} {turns : List Turn}
    (inTime : ∀ turn ∈ turns, turn.now.before deadline = true) (enough : turns.length = first.length)
    (queue : List ChannelCommand) (rest : List Turn) :
    p.serve link deadline (first ++ queue) (turns ++ rest) =
      applyAll link first p >>= fun p =>
        p.serve link deadline (queue ++ turns.flatMap Turn.arrived) rest := by
  -- The queue stays general: what comes in during a turn joins it at its end.
  induction first generalizing turns queue p with
  | nil =>
    have none : turns = [] := List.length_eq_zero_iff.mp enough
    simp [none, applyAll]
  | cons c first ih =>
    cases turns with
    | nil => cases enough
    | cons turn turns =>
      obtain ⟨now, later⟩ := List.forall_mem_cons.mp inTime
      have taken : c :: (first ++ queue) ++ turn.arrived = c :: (first ++ (queue ++ turn.arrived)) := by simp
      rw [List.cons_append, List.cons_append, serve_take link p now taken, applyAll_cons, bind_assoc]
      refine bind_congr fun p => ?_
      rw [ih p later (Nat.succ.inj enough) (queue ++ turn.arrived), List.flatMap_cons, List.append_assoc]

/-- Serving is nothing but carrying out commands, in the order in which they came in. -/
theorem serve_spec (deadline : Instant) (queue : List ChannelCommand) (turns : List Turn) :
    ∃ applied left, applied ++ left <+: queue ++ turns.flatMap Turn.arrived ∧
      ∀ {m : Type → Type} [Monad m] [LawfulMonad m] (link : Link m) (p : Poller),
        p.serve link deadline queue turns = (fun p => (p, left)) <$> applyAll link applied p := by
  induction turns generalizing queue with
  | nil => exact ⟨[], queue, by simp, fun link p => by simp [serve, applyAll]⟩
  | cons turn turns ih =>
    cases inTime : turn.now.before deadline with
    | false =>
      refine ⟨[], queue ++ turn.arrived, ?_, fun link p => ?_⟩
      · exact ⟨turns.flatMap Turn.arrived, by simp⟩
      · simp [serve_late link p inTime, applyAll]
    | true =>
      cases waiting : queue ++ turn.arrived with
      | nil =>
        refine ⟨[], [], List.nil_prefix, fun link p => ?_⟩
        simp [serve_idle link p inTime waiting, applyAll]
      | cons c rest =>
        obtain ⟨applied, left, order, serves⟩ := ih rest
        refine ⟨c :: applied, left, ?_, fun link p => ?_⟩
        · rw [List.flatMap_cons, ← List.append_assoc, waiting]
          exact (List.prefix_cons_inj c).mpr order
        · rw [serve_take link p inTime waiting, applyAll_cons, map_bind]
          exact bind_congr fun p => serves link p

end Serve

variable {m : Type → Type} [Monad m] [LawfulMonad m] [MonadExceptOf Overflow m]

theorem cycle_eq (link : Link m) {interval : Nat} {start deadline : Instant}
    (ends : start.later? interval = some deadline) (queue : List ChannelCommand) (turns : List Turn)
    (p : Poller) :
    p.cycle link interval start queue turns =
      p.poll link >>= fun p => p.serve link deadline queue turns := by
  simp [cycle, Poller.deadline, ends, orOverflow]

/-- How many turns begin before a deadline, up to the first one that does not. -/
def inTime (deadline : Instant) (turns : List Turn) : Nat := turns.findIdx (!·.now.before deadline)

theorem before_of_mem_take {deadline : Instant} {turns : List Turn} {n : Nat} (few : n ≤ inTime deadline turns) :
    ∀ turn ∈ turns.take n, turn.now.before deadline = true := by
  intro turn member
  obtain ⟨i, bound, rfl⟩ := List.mem_take_iff_getElem.mp member
  have early : i < turns.findIdx (!·.now.before deadline) := Nat.lt_of_lt_of_le (by omega) few
  simpa using List.not_of_lt_findIdx early

theorem late_of_inTime {deadline : Instant} {turns : List Turn} (stops : inTime deadline turns < turns.length) :
    turns[inTime deadline turns].now.before deadline = false := by
  have late := List.findIdx_getElem (w := stops)
  simp only [Bool.not_eq_true'] at late
  exact late

/-- The commands that wait when the requests of a cycle are done are carried out in this cycle, in order and
before anything else, as far as there are turns that begin before the deadline. If there are enough of them,
all are carried out. Otherwise the first ones are, one in each of these turns, and the others wait for the next
cycle, in order and before all that have come in since. -/
theorem cycle_serves_waiting {interval : Nat} {start deadline : Instant}
    (ends : start.later? interval = some deadline) (queue : List ChannelCommand) (turns : List Turn) :
    let served := inTime deadline turns
    (queue.length ≤ served → ∃ later left, later ++ left <+: turns.flatMap Turn.arrived ∧
      ∀ (link : Link m) (p : Poller), p.cycle link interval start queue turns =
        (fun p => (p, left)) <$> (p.poll link >>= applyAll link (queue ++ later))) ∧
    (served < queue.length → served < turns.length → ∀ (link : Link m) (p : Poller),
      p.cycle link interval start queue turns =
        (fun p => (p, queue.drop served ++ (turns.take (served + 1)).flatMap Turn.arrived)) <$>
          (p.poll link >>= applyAll link (queue.take served))) := by
  intro served
  constructor
  · intro enough
    have bound : queue.length ≤ turns.length := Nat.le_trans enough List.findIdx_le_length
    obtain ⟨later, left, order, serves⟩ := serve_spec deadline
      ((turns.take queue.length).flatMap Turn.arrived) (turns.drop queue.length)
    refine ⟨later, left, ?_, fun link p => ?_⟩
    · rwa [← List.flatMap_append, List.take_append_drop] at order
    · have split (p : Poller) : p.serve link deadline queue turns =
          (fun p => (p, left)) <$> applyAll link (queue ++ later) p := by
        have first := serve_append link p (before_of_mem_take enough) (List.length_take_of_le bound) []
          (turns.drop queue.length)
        rw [List.append_nil, List.take_append_drop] at first
        rw [first, applyAll_append, map_bind]
        exact bind_congr fun p => serves link p
      rw [cycle_eq link ends, map_bind]
      exact bind_congr split
  · intro short stops link p
    have late := late_of_inTime stops
    have split (p : Poller) : p.serve link deadline queue turns =
        (fun p => (p, queue.drop served ++ (turns.take (served + 1)).flatMap Turn.arrived)) <$>
          applyAll link (queue.take served) p := by
      have length : (turns.take served).length = (queue.take served).length := by
        rw [List.length_take_of_le (Nat.le_of_lt stops), List.length_take_of_le (Nat.le_of_lt short)]
      have first := serve_append link p (before_of_mem_take (Nat.le_refl _)) length (queue.drop served)
        (turns.drop served)
      rw [List.take_append_drop, List.take_append_drop, List.drop_eq_getElem_cons stops] at first
      rw [first, List.take_succ_eq_append_getElem stops, List.flatMap_append, map_eq_pure_bind]
      refine bind_congr fun p => ?_
      rw [serve_late link p late]
      simp [served]
    rw [cycle_eq link ends, map_bind]
    exact bind_congr split

/-- Of two commands that wait the first is carried out, since the second turn begins at the deadline. One
command alone is carried out. -/
theorem cycle_serves_waiting_sample :
    let next : ChannelCommand := ⟨⟨.service, "next"⟩, .onOff true⟩
    let turns : List Turn := [⟨⟨30000000000⟩, []⟩, ⟨⟨60000000000⟩, [next]⟩]
    (∃ later left, later ++ left <+: [next] ∧ ∀ (link : Link (Except Overflow)) (p : Poller),
      p.cycle link 60000000000 ⟨0⟩ [next] turns =
        (fun p => (p, left)) <$> (p.poll link >>= applyAll link (next :: later))) ∧
    ∀ (link : Link (Except Overflow)) (p : Poller), p.cycle link 60000000000 ⟨0⟩ [next, next] turns =
      (fun p => (p, [next, next])) <$> (p.poll link >>= applyAll link [next]) := by
  intro next turns
  have ends : (⟨0⟩ : Instant).later? 60000000000 = some ⟨60000000000⟩ := by decide
  have served : inTime ⟨60000000000⟩ turns = 1 := by decide
  obtain ⟨all, _⟩ := cycle_serves_waiting (m := Except Overflow) ends [next] turns
  obtain ⟨_, some⟩ := cycle_serves_waiting (m := Except Overflow) ends [next, next] turns
  rw [served] at all some
  exact ⟨all (by decide), some (by decide) (by decide)⟩

/-- A vehicle with two services that gives nothing but its status. -/
def twoServices : Link (Except Overflow) where
  fetch e := .ok (if e = .status then .ok "\x7b\"vehicleStatus\":\x7b\"cbsData\":[\x7b\x7d,\x7b\x7d]\x7d\x7d"
    else .error .missingToken)
  send _ := .ok (.ok ())
  today := .ok ⟨⟨2020, 1, 1⟩, 0, false⟩
  tell _ := .ok ()

/-- Requests that take as long as the interval leave a command waiting, cycle after cycle: the first service is
still shown at the end of the second cycle, where the command would have shown the second one. -/
theorem slow_requests_starve :
    let next : ChannelCommand := ⟨⟨.service, "next"⟩, .onOff true⟩
    let p : Poller := ⟨Bridge.start .metric .conventional "" 0, []⟩
    let seen := fun (p, left) => (p.bridge.services.cursor, left.map ChannelCommand.channel)
    let first := p.cycle twoServices 60000000000 ⟨0⟩ [next] [⟨⟨60000000000⟩, []⟩]
    let second := first >>= fun (p, left) =>
      p.cycle twoServices 60000000000 ⟨60000000000⟩ left [⟨⟨120000000000⟩, []⟩]
    first.toOption.map seen = some (some 0, [⟨.service, "next"⟩]) ∧
    second.toOption.map seen = some (some 0, [⟨.service, "next"⟩]) ∧
    (p.poll twoServices >>= applyAll twoServices [next]).toOption.map (·.bridge.services.cursor) =
      some (some 1) := by
  intro next p seen first second
  decide +kernel

end VehicleLink.Poller
