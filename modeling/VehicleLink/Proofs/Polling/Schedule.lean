import VehicleLink.Proofs.Bridge.Incidents
import VehicleLink.Proofs.Polling.SentProfiles

namespace VehicleLink

/-- Whether the vehicle refuses a document, rather than failing to give it. -/
def Exchange.refuses (e : Endpoint) : Exchange → Bool
  | .answered f (.error (.http status _)) => f = e && (status = 403 || status = 404)
  | _ => false

theorem Exchange.refuses_error (e f : Endpoint) (problem : Failure) :
    (Exchange.answered f (.error problem)).refuses e = (decide (f = e) && problem.unsupported) := by
  cases problem with
  | http status body => simp [refuses, Failure.unsupported, Failure.status?]
  | missingToken | transport | document | refused => simp [refuses, Failure.unsupported, Failure.status?]

theorem Exchange.refuses_other {e f : Endpoint} (other : f ≠ e) (answer : Except Failure String) :
    (Exchange.answered f answer).refuses e = false := by
  cases answer with
  | ok body => rfl
  | error problem => simp [refuses_error, other]

/-- Whether the vehicle has ever refused a document. -/
def Journal.refused (journal : Journal) (e : Endpoint) : Bool := journal.any (·.refuses e)

/-- The documents that a cycle requests, in order. -/
def Journal.agenda (type : VehicleType) (journal : Journal) : List Endpoint :=
  [.status] ++ [.lastTrip, .allTrips, .destinations].filter (!journal.refused ·) ++
    if type.isElectric then [.chargeProfile] else []

theorem Journal.agenda_nodup (type : VehicleType) (journal : Journal) : (agenda type journal).Nodup := by
  have all : ([.status] ++ [.lastTrip, .allTrips, .destinations] ++ [.chargeProfile] : List Endpoint).Nodup := by
    decide
  refine List.Nodup.sublist ?_ all
  refine List.Sublist.append (List.Sublist.append (List.Sublist.refl _) List.filter_sublist) ?_
  split
  · exact List.Sublist.refl _
  · exact List.nil_sublist _

/-- A document that a vehicle may refuse is on the agenda only as long as it has not done so. -/
theorem Journal.not_refused_of_agenda {type : VehicleType} {journal : Journal} {e : Endpoint}
    (member : e ∈ agenda type journal) (optional : e ∈ optionalEndpoints) : journal.refused e = false := by
  cases refused : journal.refused e with
  | false => rfl
  | true =>
    simp [optionalEndpoints] at optional
    rcases optional with rfl | rfl | rfl <;> simp [agenda, refused] at member

/-- What holds between a poller and its journal: it has given up the documents that the vehicle has refused, it
has not requested them since, and of what was requested it has an answer or a report. -/
structure Heeds (type : VehicleType) (journal : Journal) (p : Poller) : Prop where
  vehicleType : p.bridge.vehicleType = type
  givenUp : ∀ e ∈ optionalEndpoints, p.unsupported.contains e = journal.refused e
  spared : ∀ e ∈ optionalEndpoints, ∀ answer (before : Journal), .answered e answer :: before <:+ journal →
    before.refused e = false
  answered : ∀ e, p.bridge.hasAnswer e = true ↔ ∃ answer, .answered e answer ∈ journal

/-- What is no request changes nothing. -/
theorem Heeds.noted {type : VehicleType} {journal : Journal} {p : Poller} {x : Exchange}
    (quiet : ∀ e answer, x ≠ .answered e answer)
    (heeds : Heeds type journal p) : Heeds type (x :: journal) p where
  vehicleType := heeds.vehicleType
  givenUp e optional := by
    rw [heeds.givenUp e optional]
    cases x with
    | answered f answer => exact absurd rfl (quiet f answer)
    | ordered | sent => rfl
  spared e optional answer before earlier := by
    rcases List.suffix_cons_iff.mp earlier with same | earlier
    · cases same
      exact absurd rfl (quiet e answer)
    · exact heeds.spared e optional answer before earlier
  answered e := by
    rw [heeds.answered e]
    have other (answer : Except Failure String) : .answered e answer ≠ x := fun same => quiet e answer same.symm
    simp [other]

namespace Poller

variable {type : VehicleType} {journal : Journal} {p : Poller}

/-- The documents that are due are those on the agenda of the journal. -/
theorem due_eq (heeds : Heeds type journal p) : p.due = journal.agenda type := by
  have kept : optionalEndpoints.filter (!p.unsupported.contains ·) =
      [.lastTrip, .allTrips, .destinations].filter (!journal.refused ·) :=
    List.filter_congr fun e member => by rw [heeds.givenUp e member]
  rw [due, Journal.agenda, kept, heeds.vehicleType]

/-- What a poller takes in of an answer or a failure is an incident for its bridge. -/
theorem absorb_bridge (now : Calendar.Moment) (e : Endpoint) (answer : Except Failure String) :
    ∃ i text, (p.absorb now e answer).1.bridge = p.bridge.meet i ∧ i.kept? = some (e, text) := by
  cases answer with
  | ok body => exact ⟨.answered now e body, body, rfl, rfl⟩
  | error f =>
    refine ⟨.failed e f, _, ?_, rfl⟩
    rw [absorb]
    dsimp only
    split <;> rfl

/-- A document is given up when the vehicle refuses it. -/
theorem absorb_unsupported (now : Calendar.Moment) (e : Endpoint) (answer : Except Failure String)
    {f : Endpoint} (optional : f ∈ optionalEndpoints) :
    (p.absorb now e answer).1.unsupported.contains f =
      ((Exchange.answered e answer).refuses f || p.unsupported.contains f) := by
  cases answer with
  | ok body => rfl
  | error problem =>
    rw [absorb, Exchange.refuses_error]
    dsimp only
    by_cases same : e = f
    · subst same
      cases unsupported : problem.unsupported with
      | true => simp [optional]
      | false => simp
    · have other : f ≠ e := fun wrong => same wrong.symm
      split <;> simp [same, other]

theorem hasAnswer_absorb (now : Calendar.Moment) (e : Endpoint) (answer : Except Failure String) (f : Endpoint) :
    (p.absorb now e answer).1.bridge.hasAnswer f = (decide (f = e) || p.bridge.hasAnswer f) := by
  obtain ⟨i, text, bridge, kept⟩ := absorb_bridge (p := p) now e answer
  rw [bridge, Bridge.hasAnswer, Bridge.meet_answers, kept]
  by_cases same : f = e <;> simp [same, Bridge.hasAnswer]

/-- A request that is due keeps a poller and its journal together. -/
theorem absorb_heeds (now : Calendar.Moment) {e : Endpoint} (answer : Except Failure String)
    (due : e ∈ optionalEndpoints → journal.refused e = false) (heeds : Heeds type journal p) :
    Heeds type (.answered e answer :: journal) (p.absorb now e answer).1 where
  vehicleType := (absorb_spec now e answer).2.trans heeds.vehicleType
  givenUp f optional := by
    rw [absorb_unsupported now e answer optional, heeds.givenUp f optional]
    rfl
  spared f optional answer' before earlier := by
    rcases List.suffix_cons_iff.mp earlier with same | earlier
    · cases same
      exact due optional
    · exact heeds.spared f optional answer' before earlier
  answered f := by
    rw [hasAnswer_absorb, Bool.or_eq_true, heeds.answered f]
    simp [exists_or]

theorem requests_heeds (w : World) {es : List Endpoint} (distinct : es.Nodup)
    (due : ∀ e ∈ es, e ∈ optionalEndpoints → journal.refused e = false) (heeds : Heeds type journal p) :
    ∃ fetched : List (Endpoint × Except Failure String), fetched.map Prod.fst = es ∧
      ((es.foldlM (request w.link) p).run journal).2 =
        (fetched.map fun (e, answer) => .answered e answer).reverse ++ journal ∧
      Heeds type ((es.foldlM (request w.link) p).run journal).2 ((es.foldlM (request w.link) p).run journal).1 := by
  induction es generalizing p journal with
  | nil => exact ⟨[], rfl, rfl, heeds⟩
  | cons e es ih =>
    obtain ⟨new, distinct⟩ := List.nodup_cons.mp distinct
    obtain ⟨here, later⟩ := List.forall_mem_cons.mp due
    obtain ⟨now, answer, result⟩ := request_run w p e journal
    rw [List.foldlM_cons, StateT.run_bind, result]
    -- What the vehicle says about one document does not touch the others.
    have due' : ∀ f ∈ es, f ∈ optionalEndpoints → Journal.refused (.answered e answer :: journal) f = false := by
      intro f member optional
      have other : e ≠ f := fun same => new (same ▸ member)
      rw [Journal.refused, List.any_cons, Exchange.refuses_other other]
      exact later f member optional
    obtain ⟨fetched, keys, passed, heeds'⟩ := ih distinct due' (absorb_heeds now answer here heeds)
    refine ⟨(e, answer) :: fetched, by rw [List.map_cons, keys], passed.trans ?_, heeds'⟩
    simp

theorem poll_heeds (w : World) (heeds : Heeds type journal p) :
    ∃ fetched : List (Endpoint × Except Failure String), fetched.map Prod.fst = journal.agenda type ∧
      ((p.poll w.link).run journal).2 = (fetched.map fun (e, answer) => .answered e answer).reverse ++ journal ∧
      Heeds type ((p.poll w.link).run journal).2 ((p.poll w.link).run journal).1 := by
  rw [poll, due_eq heeds]
  exact requests_heeds w (Journal.agenda_nodup type journal) (fun _ => Journal.not_refused_of_agenda) heeds

theorem command_heeds (w : World) (c : ChannelCommand) (heeds : Heeds type journal p) :
    ∃ news, ((p.move w (.command c)).run journal).2 = news ++ journal ∧ (∀ e answer, .answered e answer ∉ news) ∧
      Heeds type ((p.move w (.command c)).run journal).2 ((p.move w (.command c)).run journal).1 := by
  have ordered : Heeds type journal { p with bridge := (p.bridge.order c).bridge } :=
    { heeds with
      vehicleType := (p.bridge.meet_vehicleType (.ordered c)).trans heeds.vehicleType
      answered := fun e => by
        rw [← heeds.answered e, Bridge.hasAnswer]
        exact (congrArg (Option.isSome · = true) (p.bridge.meet_answers (.ordered c) e)).to_iff }
  rw [move_command]
  cases result : (p.bridge.order c).result with
  | error problem =>
    exact ⟨[.ordered c (.error problem)], rfl, by simp, ordered.noted fun _ _ wrong => by cases wrong⟩
  | ok outcome =>
    cases outcome with
    | applied => exact ⟨[.ordered c (.ok .applied)], rfl, by simp, ordered.noted fun _ _ wrong => by cases wrong⟩
    | send payload =>
      refine ⟨[.sent payload _, .ordered c (.ok (.send payload))], rfl, by simp, ?_⟩
      exact (ordered.noted fun _ _ wrong => by cases wrong).noted fun _ _ wrong => by cases wrong

/-- A run keeps a poller and its journal together, from one move to the next. -/
theorem run_heeds (w : World) (moves : List Move) (heeds : Heeds type journal p) :
    Heeds type ((p.run w moves).run journal).2 ((p.run w moves).run journal).1 := by
  induction moves generalizing p journal with
  | nil => exact heeds
  | cons move moves ih =>
    rw [run, List.foldlM_cons, StateT.run_bind]
    refine ih ?_
    cases move with
    | poll =>
      obtain ⟨_, _, _, heeds'⟩ := poll_heeds w heeds
      exact heeds'
    | command c =>
      obtain ⟨_, _, _, heeds'⟩ := command_heeds w c heeds
      exact heeds'

theorem start_heeds (units : Units) (type : VehicleType) (vin : String) (zone : Int) :
    Heeds type [] ⟨Bridge.start units type vin zone, []⟩ where
  vehicleType := rfl
  givenUp _ _ := rfl
  spared _ _ _ _ earlier := by cases List.suffix_nil.mp earlier
  answered e := by simp [Bridge.hasAnswer, Bridge.start]

theorem run_append (w : World) (p : Poller) (moves : List Move) (m : Move) (journal : Journal) :
    (p.run w (moves ++ [m])).run journal =
      (((p.run w moves).run journal).1.move w m).run ((p.run w moves).run journal).2 := by
  rw [run, List.foldlM_append, StateT.run_bind]
  rfl

/-- Whatever the vehicle answers, and whatever is commanded between the cycles: a cycle requests the status,
the documents that the vehicle has not refused in an earlier cycle, and the charge profile of an electric
vehicle, each of them once and in this order. A command requests none. What has been refused is not requested
any more, and a document has been requested exactly if the poller has an answer or a report of it. -/
theorem schedule (w : World) (units : Units) (type : VehicleType) (vin : String) (zone : Int)
    (moves : List Move) :
    let p : Poller := ⟨Bridge.start units type vin zone, []⟩
    let journal : Journal := ((p.run w moves).run []).2
    (∃ fetched : List (Endpoint × Except Failure String), fetched.map Prod.fst = journal.agenda type ∧
      ((p.run w (moves ++ [.poll])).run []).2 =
        (fetched.map fun (e, answer) => .answered e answer).reverse ++ journal) ∧
    (∀ c, ∃ news, ((p.run w (moves ++ [.command c])).run []).2 = news ++ journal ∧
      ∀ e answer, .answered e answer ∉ news) ∧
    (∀ e ∈ optionalEndpoints, ∀ answer (before : Journal), .answered e answer :: before <:+ journal →
      before.refused e = false) ∧
    ∀ e, ((p.run w moves).run []).1.bridge.hasAnswer e = true ↔ ∃ answer, .answered e answer ∈ journal := by
  intro p journal
  have heeds := run_heeds w moves (start_heeds units type vin zone)
  refine ⟨?_, fun c => ?_, heeds.spared, heeds.answered⟩
  · obtain ⟨fetched, keys, passed, _⟩ := poll_heeds w heeds
    rw [run_append]
    exact ⟨fetched, keys, passed⟩
  · obtain ⟨news, passed, quiet, _⟩ := command_heeds w c heeds
    rw [run_append]
    exact ⟨news, passed, quiet⟩

/-- A world that refuses the destinations, and gives nothing else. -/
def refusingWorld : World where
  fetch _ e := .error (if e = .destinations then .http 404 "" else .http 500 "")
  send _ _ := .error .missingToken
  today _ := ⟨⟨2020, 1, 1⟩, 0, false⟩

/-- The destinations are requested in the first cycle and not in the second, all else is requested again. -/
theorem schedule_sample :
    let p : Poller := ⟨Bridge.start .metric .electric "" 0, []⟩
    let journal : Journal := ((p.run refusingWorld [.poll]).run []).2
    (∃ answer before, .answered .destinations answer :: before <:+ journal ∧
      Journal.refused before .destinations = false) ∧
    ∃ fetched : List (Endpoint × Except Failure String),
      fetched.map Prod.fst = [.status, .lastTrip, .allTrips, .chargeProfile] ∧
      ((p.run refusingWorld [.poll, .poll]).run []).2 =
        (fetched.map fun (e, answer) => .answered e answer).reverse ++ journal := by
  intro p journal
  obtain ⟨⟨fetched, keys, passed⟩, _, spared, _⟩ := schedule refusingWorld .metric .electric "" 0 [.poll]
  have agenda : journal.agenda .electric = [.status, .lastTrip, .allTrips, .chargeProfile] := by decide +kernel
  refine ⟨⟨.error (.http 404 ""), journal.drop 2, ?_, ?_⟩, fetched, keys.trans agenda, passed⟩
  · exact ⟨journal.take 1, rfl⟩
  · exact spared .destinations (by decide) _ _ ⟨journal.take 1, rfl⟩

end Poller

end VehicleLink
