import VehicleLink.Web.Session

namespace VehicleLink

/-- Something that a session is called to do. -/
inductive Call where
  | fetch (e : Endpoint)
  | send (payload : String)

namespace Call

def endpoint : Call → Endpoint
  | .fetch e => e
  | .send _ => .chargeProfile

def payload : Call → Option String
  | .fetch _ => none
  | .send payload => some payload

/-- The request of a call, with the token that it shows. -/
def request (c : Call) (a : Account) (bearer : String) : Request :=
  .vehicle a c.endpoint c.payload bearer

/-- What a call hands on of the body of an answer. -/
def received : Call → String → Option String
  | .fetch _, body => some body
  | .send _, _ => none

end Call

/-- Something that passes between a session and the world, or between a session and its user. -/
inductive Traffic where
  | exchanged (r : Request) (answer : Except String Reply)
  | looked (now : Instant)
  | called (c : Call)
  | returned (result : Except Failure (Option String))

def Traffic.request? : Traffic → Option Request
  | .exchanged r _ => some r
  | _ => none

/-- What has passed, the last first. -/
abbrev Transcript := List Traffic

/-- What lies outside a session. What it says may depend on all that has passed. -/
structure Outside where
  answer : Transcript → Request → Except String Reply
  clock : Transcript → Instant

/-- A program whose traffic is recorded. The record stays when the program runs over. -/
abbrev Recorded := ExceptT Overflow (StateM Transcript)

/-- Reaches the world, and records it. -/
def Outside.wire (o : Outside) : Wire Recorded where
  exchange r := modifyGet fun before =>
    let answer := o.answer before r
    (answer, .exchanged r answer :: before)
  now := modifyGet fun before =>
    let now := o.clock before
    (now, .looked now :: before)
  note _ := pure ()

namespace Recorded

variable {α β : Type} {program : Recorded α} {next : α → Recorded β} {before : Transcript}

/-- Runs a program after something has passed: what came of it, and the transcript afterwards. -/
def perform (program : Recorded α) (before : Transcript) : Except Overflow α × Transcript :=
  program before

theorem perform_bind : (program >>= next).perform before = match program.perform before with
    | (.ok a, after) => (next a).perform after
    | (.error o, after) => (.error o, after) := by
  have step : (program >>= next).perform before =
      ExceptT.bindCont next (program.perform before).1 (program.perform before).2 := rfl
  rw [step]
  rcases program.perform before with ⟨_ | a, after⟩ <;> rfl

/-- Whatever has passed before, a program adds traffic that goes with its result. -/
def Follows (program : Recorded α) (course : Transcript → Except Overflow α → Prop) : Prop :=
  ∀ before, ∃ news, (program.perform before).2 = news ++ before ∧
    course news (program.perform before).1

variable {course : Transcript → Except Overflow α → Prop} {whole : Transcript → Except Overflow β → Prop}

theorem Follows.pure {a : α} (here : course [] (.ok a)) : Follows (pure a) course :=
  fun _ => ⟨[], rfl, here⟩

/-- The traffic of two programs, one after the other. -/
theorem Follows.bind (first : program.Follows course)
    (rest : ∀ a news, course news (.ok a) → (next a).Follows fun later result => whole (later ++ news) result)
    (overrun : ∀ overflow news, course news (.error overflow) → whole news (.error overflow)) :
    (program >>= next).Follows whole := by
  intro before
  obtain ⟨news, passed, goes⟩ := first before
  rw [perform_bind]
  rcases result : program.perform before with ⟨overflow | a, after⟩
  · rw [result] at passed goes
    exact ⟨news, passed, overrun overflow news goes⟩
  · rw [result] at passed goes
    obtain ⟨later, passed', goes'⟩ := rest a news goes after
    refine ⟨later ++ news, ?_, goes'⟩
    rw [List.append_assoc, ← passed]
    exact passed'

/-- Traffic that goes with a result may be described with less. -/
theorem Follows.mono {wider : Transcript → Except Overflow α → Prop} (follows : program.Follows course)
    (into : ∀ news result, course news result → wider news result) : program.Follows wider := by
  intro before
  obtain ⟨news, passed, goes⟩ := follows before
  exact ⟨news, passed, into news _ goes⟩

/-- A program whose first part never runs over. -/
theorem Follows.bind_ok {step : Transcript → α → Prop}
    (first : program.Follows fun news result => ∃ a, step news a ∧ result = .ok a)
    (rest : ∀ a news, step news a → (next a).Follows fun later result => whole (later ++ news) result) :
    (program >>= next).Follows whole := by
  refine first.bind (fun a news goes => ?_) (fun overflow news goes => ?_)
  · obtain ⟨_, here, same⟩ := goes
    cases same
    exact rest a news here
  · obtain ⟨_, _, wrong⟩ := goes
    cases wrong

end Recorded

open Recorded

namespace Outside

variable (o : Outside)

theorem exchange_follows (r : Request) : (o.wire.exchange r).Follows fun news result =>
    ∃ answer, news = [.exchanged r answer] ∧ result = .ok answer :=
  fun before => ⟨[.exchanged r (o.answer before r)], rfl, _, rfl, rfl⟩

theorem now_follows : o.wire.now.Follows fun news result =>
    ∃ now, news = [.looked now] ∧ result = .ok now :=
  fun before => ⟨[.looked (o.clock before)], rfl, _, rfl, rfl⟩

theorem note_follows (n : Note) : (o.wire.note n).Follows fun news result =>
    ∃ done : Unit, news = [] ∧ result = .ok done :=
  fun _ => ⟨[], rfl, (), rfl, rfl⟩

end Outside

theorem orOverflow_follows {α : Type} (value : Option α) :
    (orOverflow value : Recorded α).Follows fun news result => news = [] ∧
      ((∃ a, value = some a ∧ result = .ok a) ∨ value = none ∧ result = .error Overflow.mk) := by
  cases value with
  | some a => exact fun _ => ⟨[], rfl, rfl, Or.inl ⟨a, rfl, rfl⟩⟩
  | none => exact fun _ => ⟨[], rfl, rfl, Or.inr ⟨rfl, rfl⟩⟩

/-- The token that an answer grants at an instant. -/
def Reply.token? (reply : Reply) (now : Instant) : Option Token :=
  if reply.succeeded then do
    let grant ← (Grant.ofText reply.body).toOption
    let expiresAt ← now.secondsLater? grant.expiresIn
    return ⟨grant.accessToken, expiresAt⟩
  else none

/-- Why the answer to a request for a token gives none. -/
inductive Denied : Except String Reply → Failure → Prop
  | unreachable (text : String) : Denied (.error text) (.transport text)
  | refused {reply : Reply} (failed : reply.succeeded = false) :
      Denied (.ok reply) (.refused (Failure.statusLine reply.status reply.body))
  | unreadable {reply : Reply} {problem : Json.Problem} (succeeded : reply.succeeded = true)
      (read : Grant.ofText reply.body = .error problem) : Denied (.ok reply) (.document problem)

/-- The answer grants a token that would outlast the clock. -/
def Reply.Endless (reply : Reply) (now : Instant) : Prop :=
  reply.succeeded = true ∧ ∃ grant, Grant.ofText reply.body = .ok grant ∧
    now.secondsLater? grant.expiresIn = none

/-- The courses of a request for a token. -/
inductive Granting (a : Account) : Transcript → Except Overflow (Except Failure Token) → Prop
  | denied {answer : Except String Reply} {f : Failure} (why : Denied answer f) :
      Granting a [.exchanged (.grant a) answer] (.ok (.error f))
  | granted {reply : Reply} {now : Instant} {token : Token} (gives : reply.token? now = some token) :
      Granting a [.looked now, .exchanged (.grant a) (.ok reply)] (.ok (.ok token))
  | endless {reply : Reply} {now : Instant} (endless : reply.Endless now) :
      Granting a [.looked now, .exchanged (.grant a) (.ok reply)] (.error Overflow.mk)

namespace Outside

variable (o : Outside)

theorem accept_follows (grant : Grant) : (o.wire.accept grant).Follows fun news result =>
    ∃ now, news = [.looked now] ∧
      ((∃ expiresAt, now.secondsLater? grant.expiresIn = some expiresAt ∧
          result = .ok ⟨grant.accessToken, expiresAt⟩) ∨
        now.secondsLater? grant.expiresIn = none ∧ result = .error Overflow.mk) := by
  refine (o.note_follows _).bind_ok fun _ _ noted => ?_
  subst noted
  refine o.now_follows.bind_ok fun now _ looked => ?_
  subst looked
  refine (orOverflow_follows _).bind (fun expiresAt news goes => ?_) (fun overflow news goes => ?_)
  · obtain ⟨rfl, ⟨_, found, same⟩ | ⟨_, wrong⟩⟩ := goes
    · cases same
      exact Follows.pure ⟨now, rfl, Or.inl ⟨expiresAt, found, rfl⟩⟩
    · cases wrong
  · obtain ⟨rfl, ⟨_, _, wrong⟩ | ⟨missing, _⟩⟩ := goes
    · cases wrong
    · exact ⟨now, rfl, Or.inr ⟨missing, rfl⟩⟩

/-- Asking for a token takes one of the courses of it. -/
theorem requestToken_follows (a : Account) : (o.wire.requestToken a).Follows (Granting a) := by
  refine (o.exchange_follows _).bind_ok fun answer _ exchanged => ?_
  subst exchanged
  cases answer with
  | error text => exact Follows.pure (.denied (.unreachable text))
  | ok reply =>
    by_cases succeeded : reply.succeeded = true
    · simp only [succeeded, if_true]
      cases read : Grant.ofText reply.body with
      | error problem => exact Follows.pure (.denied (.unreadable succeeded read))
      | ok grant =>
        refine (o.accept_follows grant).bind (fun token news goes => ?_) (fun overflow news goes => ?_)
        · obtain ⟨now, rfl, ⟨expiresAt, found, same⟩ | ⟨_, wrong⟩⟩ := goes
          · cases same
            refine Follows.pure (.granted ?_)
            rw [Reply.token?, if_pos succeeded, read]
            simp [Except.toOption, found]
          · cases wrong
        · obtain ⟨now, rfl, ⟨_, _, wrong⟩ | ⟨missing, _⟩⟩ := goes
          · cases wrong
          · exact .endless ⟨succeeded, grant, read, missing⟩
    · simp only [succeeded]
      exact Follows.pure (.denied (.refused (by simpa using succeeded)))

end Outside

/-- A token is no longer used when it expires within the margin. -/
def Token.Stale (token : Token) (now : Instant) : Prop :=
  token.expiresAt.nanoseconds ≤ now.nanoseconds + tokenMargin * secondLength

/-- Where it can be told whether a token is stale, it is told. -/
theorem Token.stale?_eq_some {token : Token} {now : Instant} {stale : Bool}
    (known : token.stale? now = some stale) : stale = true ↔ token.Stale now := by
  obtain ⟨limit, later, rfl⟩ := Option.map_eq_some_iff.mp known
  obtain ⟨reached, _⟩ := Instant.secondsLater?_eq_some_iff.mp later
  rw [Token.Stale, ← reached]
  simp [Instant.before]

namespace Session

/-- The courses of finding out whether a token has to be asked for. -/
inductive Checking (s : Session) (forced : Bool) : Transcript → Except Overflow Bool → Prop
  | forced (demanded : forced = true) : Checking s forced [] (.ok true)
  | missing (missing : s.token = none) : Checking s forced [] (.ok true)
  | stale {token : Token} {now : Instant} (held : s.token = some token) (unforced : forced = false)
      (stale : token.Stale now) : Checking s forced [.looked now] (.ok true)
  | fresh {token : Token} {now : Instant} (held : s.token = some token) (unforced : forced = false)
      (fresh : ¬token.Stale now) : Checking s forced [.looked now] (.ok false)
  | late {token : Token} {now : Instant} (held : s.token = some token) (unforced : forced = false)
      (late : now.secondsLater? tokenMargin = none) : Checking s forced [.looked now] (.error Overflow.mk)

/-- The courses of coming by a token to show. -/
inductive Showing (s : Session) (forced : Bool) :
    Transcript → Except Overflow (Except Failure String × Session) → Prop
  | held {news : Transcript} {token : Token} (checking : s.Checking forced news (.ok false))
      (held : s.token = some token) : Showing s forced news (.ok (.ok token.bearer, s))
  | renewed {news asked : Transcript} {token : Token} (checking : s.Checking forced news (.ok true))
      (granting : Granting s.account asked (.ok (.ok token))) :
      Showing s forced (asked ++ news) (.ok (.ok token.bearer, { s with token := some token }))
  | denied {news asked : Transcript} {f : Failure} (checking : s.Checking forced news (.ok true))
      (granting : Granting s.account asked (.ok (.error f))) :
      Showing s forced (asked ++ news) (.ok (.error f, s))
  | late {news : Transcript} {overflow : Overflow} (checking : s.Checking forced news (.error overflow)) :
      Showing s forced news (.error overflow)
  | endless {news asked : Transcript} {overflow : Overflow} (checking : s.Checking forced news (.ok true))
      (granting : Granting s.account asked (.error overflow)) :
      Showing s forced (asked ++ news) (.error overflow)

/-- The courses of one attempt of a call. -/
inductive Attempt (s : Session) (c : Call) (forced : Bool) :
    Transcript → Except Overflow (Except Failure Reply × Session) → Prop
  | stopped {news : Transcript} {f : Failure} {s' : Session}
      (showing : s.Showing forced news (.ok (.error f, s'))) : Attempt s c forced news (.ok (.error f, s'))
  | unanswered {news : Transcript} {bearer : String} {s' : Session}
      (showing : s.Showing forced news (.ok (.ok bearer, s'))) (text : String) :
      Attempt s c forced (.exchanged (c.request s.account bearer) (.error text) :: news)
        (.ok (.error (.transport text), s'))
  | answered {news : Transcript} {bearer : String} {s' : Session}
      (showing : s.Showing forced news (.ok (.ok bearer, s'))) (reply : Reply) :
      Attempt s c forced (.exchanged (c.request s.account bearer) (.ok reply) :: news) (.ok (.ok reply, s'))
  | overrun {news : Transcript} {overflow : Overflow} (showing : s.Showing forced news (.error overflow)) :
      Attempt s c forced news (.error overflow)

/-- The courses of a call: a second attempt is made after an answer that the token is not accepted. -/
inductive Course (s : Session) (c : Call) :
    Transcript → Except Overflow (Except Failure String × Session) → Prop
  | once {news : Transcript} {result : Except Failure Reply} {s' : Session}
      (attempt : s.Attempt c false news (.ok (result, s')))
      (accepted : ∀ reply, result = .ok reply → reply.status ≠ unauthorized) :
      Course s c news (.ok (settle result, s'))
  | twice {news later : Transcript} {reply : Reply} {result : Except Failure Reply} {s' s'' : Session}
      (first : s.Attempt c false news (.ok (.ok reply, s'))) (refused : reply.status = unauthorized)
      (second : s'.Attempt c true later (.ok (result, s''))) :
      Course s c (later ++ news) (.ok (settle result, s''))
  | overrun {news : Transcript} {overflow : Overflow} (attempt : s.Attempt c false news (.error overflow)) :
      Course s c news (.error overflow)
  | overrunLater {news later : Transcript} {reply : Reply} {s' : Session} {overflow : Overflow}
      (first : s.Attempt c false news (.ok (.ok reply, s'))) (refused : reply.status = unauthorized)
      (second : s'.Attempt c true later (.error overflow)) : Course s c (later ++ news) (.error overflow)

variable {s s' : Session} {c : Call} {forced : Bool} {news : Transcript}

theorem Checking.of_forced {result : Except Overflow Bool} (checking : s.Checking true news result) :
    news = [] ∧ result = .ok true := by
  cases checking with
  | forced => exact ⟨rfl, rfl⟩
  | missing => exact ⟨rfl, rfl⟩
  | stale _ unforced => cases unforced
  | fresh _ unforced => cases unforced
  | late _ unforced => cases unforced

theorem Showing.account {shown : Except Failure String} (showing : s.Showing forced news (.ok (shown, s'))) :
    s'.account = s.account := by
  cases showing <;> rfl

theorem Attempt.account {result : Except Failure Reply} (attempt : s.Attempt c forced news (.ok (result, s'))) :
    s'.account = s.account := by
  cases attempt with
  | stopped showing => exact showing.account
  | unanswered showing => exact showing.account
  | answered showing => exact showing.account

/-- The vehicle's answer is the last thing in an attempt. -/
theorem Attempt.reply_cases {reply : Reply} (attempt : s.Attempt c forced news (.ok (.ok reply, s'))) :
    ∃ bearer shown, news = .exchanged (c.request s.account bearer) (.ok reply) :: shown ∧
      s.Showing forced shown (.ok (.ok bearer, s')) := by
  cases attempt with
  | answered showing => exact ⟨_, _, rfl, showing⟩

variable (o : Outside) (s)

theorem needsToken_follows (forced : Bool) :
    (s.needsToken o.wire forced).Follows (s.Checking forced) := by
  unfold needsToken
  cases forced with
  | true => exact Follows.pure (.forced rfl)
  | false =>
    simp only [Bool.false_eq_true, if_false]
    cases held : s.token with
    | none => exact Follows.pure (.missing held)
    | some token =>
      refine o.now_follows.bind_ok fun now _ looked => ?_
      subst looked
      refine (orOverflow_follows _).mono fun news result goes => ?_
      obtain ⟨rfl, ⟨stale, known, rfl⟩ | ⟨unknown, rfl⟩⟩ := goes
      · have meaning := Token.stale?_eq_some known
        cases stale with
        | true => exact .stale held rfl (meaning.mp rfl)
        | false => exact .fresh held rfl fun stale => Bool.false_ne_true (meaning.mpr stale)
      · exact .late held rfl (Option.map_eq_none_iff.mp unknown)

/-- Coming by a token to show takes one of the courses of it. -/
theorem bearer_follows (forced : Bool) : (s.bearer o.wire forced).Follows (s.Showing forced) := by
  refine (s.needsToken_follows o forced).bind (fun needed news checking => ?_)
    (fun overflow news checking => .late checking)
  cases needed with
  | true =>
    refine (o.requestToken_follows s.account).bind (fun result asked granting => ?_)
      (fun overflow asked granting => .endless checking granting)
    cases result with
    | error f => exact Follows.pure (.denied checking granting)
    | ok token => exact Follows.pure (.renewed checking granting)
  | false =>
    -- A token that is not asked for is there, so this is no way to be without one.
    obtain ⟨token, held⟩ : ∃ token, s.token = some token := by
      cases checking with
      | fresh held => exact ⟨_, held⟩
    simp only [held]
    exact Follows.pure (.held checking held)

/-- An attempt takes one of its courses. -/
theorem attempt_follows (c : Call) (forced : Bool) :
    (s.attempt o.wire c.endpoint c.payload forced).Follows (s.Attempt c forced) := by
  refine (s.bearer_follows o forced).bind (fun shown news showing => ?_)
    (fun overflow news showing => .overrun showing)
  obtain ⟨_ | bearer, s'⟩ := shown
  · exact Follows.pure (.stopped showing)
  · refine (o.exchange_follows _).bind_ok fun answer _ exchanged => ?_
    subst exchanged
    simp only [showing.account]
    cases answer with
    | error text => exact Follows.pure (.unanswered showing text)
    | ok reply => exact Follows.pure (.answered showing reply)

/-- A call takes one of its courses. -/
theorem request_follows (c : Call) :
    (s.request o.wire c.endpoint c.payload).Follows (s.Course c) := by
  refine (s.attempt_follows o c false).bind (fun tried news first => ?_)
    (fun overflow news attempt => .overrun attempt)
  obtain ⟨_ | reply, s'⟩ := tried
  · exact Follows.pure (.once first (fun _ wrong => by cases wrong))
  · by_cases refused : reply.status = unauthorized
    · simp only [refused, if_true]
      refine (s'.attempt_follows o c true).bind (fun tried later second => ?_)
        (fun overflow later second => .overrunLater first refused second)
      exact Follows.pure (.twice first refused second)
    · simp only [refused, if_false]
      refine Follows.pure (.once first fun reply' same => ?_)
      cases same
      exact refused

/-- Does what a session is called to do. Of the answer to a sent profile nothing is handed on. -/
def call {m : Type → Type} [Monad m] [MonadExceptOf Overflow m] (w : Wire m) (c : Call) (s : Session) :
    m (Except Failure (Option String) × Session) :=
  match c with
  | .fetch e => do
    let (result, s) ← s.fetch w e
    return (result.map some, s)
  | .send payload => do
    let (result, s) ← s.sendProfile w payload
    return (result.map fun _ => none, s)

/-- What a call comes to. -/
theorem call_follows (c : Call) : (s.call o.wire c).Follows fun news result =>
    ∃ outcome, s.Course c news outcome ∧
      result = outcome.map fun (result, s') => (result.map c.received, s') := by
  cases c with
  | fetch e =>
    refine (s.request_follows o (.fetch e)).bind (fun outcome news course => ?_)
      (fun overflow news course => ⟨_, course, rfl⟩)
    exact Follows.pure ⟨_, course, rfl⟩
  | send payload =>
    have sends : (s.sendProfile o.wire payload).Follows fun news result => ∃ outcome,
        s.Course (.send payload) news outcome ∧
          result = outcome.map fun (result, s') => (result.map fun _ => (), s') := by
      refine (s.request_follows o (.send payload)).bind (fun outcome news course => ?_)
        (fun overflow news course => ⟨_, course, rfl⟩)
      exact Follows.pure ⟨_, course, rfl⟩
    refine sends.bind (fun done news goes => ?_) (fun overflow news goes => ?_)
    · obtain ⟨_ | ⟨result, s'⟩, course, same⟩ := goes
      · cases same
      · cases same
        refine Follows.pure ⟨_, course, ?_⟩
        cases result <;> rfl
    · obtain ⟨_ | _, course, same⟩ := goes
      · cases same
        exact ⟨_, course, rfl⟩
      · cases same

end Session

end VehicleLink
