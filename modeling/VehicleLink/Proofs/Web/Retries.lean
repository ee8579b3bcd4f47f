import Mathlib.Data.List.Infix
import VehicleLink.Proofs.Web.Courses

namespace VehicleLink

/-- The answers to requests other than those for a token, the last first. -/
def Transcript.answers (a : Account) (news : Transcript) : List (Except String Reply) :=
  news.filterMap fun
    | .exchanged r answer => if r = .grant a then none else some answer
    | _ => none

/-- What a call comes to by the answer to its last request. -/
inductive Settles (a : Account) (c : Call) :
    Request → Except String Reply → Except Failure (Option String) → Prop
  | denied {answer : Except String Reply} {f : Failure} (why : Denied answer f) :
      Settles a c (.grant a) answer (.error f)
  | unreachable {bearer : String} (text : String) :
      Settles a c (c.request a bearer) (.error text) (.error (.transport text))
  | failed {bearer : String} {reply : Reply} (failed : reply.succeeded = false) :
      Settles a c (c.request a bearer) (.ok reply) (.error (.http reply.status reply.body))
  | succeeded {bearer : String} {reply : Reply} (succeeded : reply.succeeded = true) :
      Settles a c (c.request a bearer) (.ok reply) (.ok (c.received reply.body))

/-- The clock was looked at too late: no margin is left to it, or no room for the life of a new token. -/
inductive OutOfTime (a : Account) : Transcript → Prop
  | margin {now : Instant} (late : now.secondsLater? tokenMargin = none) : OutOfTime a [.looked now]
  | life {now : Instant} {reply : Reply} {earlier : Transcript} (endless : reply.Endless now) :
      OutOfTime a (.looked now :: .exchanged (.grant a) (.ok reply) :: earlier)

/-- What follows a first answer that the token is not accepted. Another token is asked for. If it is granted, the
vehicle is asked again with it, and that answer is what the call comes to. -/
inductive Renewal (a : Account) (c : Call) : Transcript → Except Overflow (Except Failure (Option String)) → Prop
  | denied {answer : Except String Reply} {f : Failure} (why : Denied answer f) :
      Renewal a c [.exchanged (.grant a) answer] (.ok (.error f))
  | endless {granted : Reply} {now : Instant} (endless : granted.Endless now) :
      Renewal a c [.looked now, .exchanged (.grant a) (.ok granted)] (.error Overflow.mk)
  | asked {granted : Reply} {now : Instant} {token : Token} {answer : Except String Reply}
      {outcome : Except Failure (Option String)} (gives : granted.token? now = some token)
      (settles : Settles a c (c.request a token.bearer) answer outcome) :
      Renewal a c [.exchanged (c.request a token.bearer) answer, .looked now, .exchanged (.grant a) (.ok granted)]
        (.ok outcome)

/-- What a call promises of its traffic and its result. -/
structure Call.Contract (c : Call) (a : Account) (news : Transcript)
    (result : Except Overflow (Except Failure (Option String))) : Prop where
  requests : ∀ r answer, .exchanged r answer ∈ news → r = .grant a ∨ ∃ bearer, r = c.request a bearer
  atMostTwice : (news.answers a).length ≤ 2
  twice : (news.answers a).length = 2 ↔ ∃ now granted token bearer reply,
    [.looked now, .exchanged (.grant a) (.ok granted), .exchanged (c.request a bearer) (.ok reply)] <:+: news ∧
      granted.token? now = some token ∧ reply.status = Session.unauthorized
  /-- No other answer is followed by anything. -/
  followed : ∀ r answer, .exchanged r answer ∈ news.tail → (r = .grant a ∧ ∀ f, ¬Denied answer f) ∨
    ∃ bearer reply, r = c.request a bearer ∧ answer = .ok reply ∧ reply.status = Session.unauthorized
  settled : match result with
    | .ok outcome => ∃ r answer earlier, news = .exchanged r answer :: earlier ∧ Settles a c r answer outcome
    | .error _ => OutOfTime a news
  /-- The first answer of the vehicle that its token is not accepted is always followed by a renewal. -/
  renewed : ∀ bearer reply (earlier later : Transcript),
    news = later ++ .exchanged (c.request a bearer) (.ok reply) :: earlier → earlier.answers a = [] →
      reply.status = Session.unauthorized → Renewal a c later result
  success : ∀ value, result = .ok (.ok value) ↔ ∃ reply, (news.answers a).head? = some (.ok reply) ∧
    reply.succeeded = true ∧ value = c.received reply.body
  /-- A failure has no other status than that of the vehicle's last answer. -/
  status : ∀ f status, result = .ok (.error f) → f.status? = some status →
    ∃ reply, (news.answers a).head? = some (.ok reply) ∧ reply.succeeded = false ∧ f = .http reply.status reply.body

theorem Call.request_ne_grant (c : Call) (a : Account) (bearer : String) : c.request a bearer ≠ .grant a := by
  intro same
  have types := congrArg Request.contentType same
  cases c with
  | fetch e => cases types
  | send payload =>
    change some jsonType = some "application/x-www-form-urlencoded" at types
    exact absurd types (by decide)

theorem Reply.not_denied_of_token {reply : Reply} {now : Instant} {token : Token}
    (gives : reply.token? now = some token) (f : Failure) : ¬Denied (.ok reply) f := by
  intro denied
  rw [Reply.token?] at gives
  split at gives
  · rename_i succeeded
    obtain ⟨grant, read, _⟩ := Option.bind_eq_some_iff.mp gives
    cases denied with
    | refused failed => exact Bool.false_ne_true (failed.symm.trans succeeded)
    | unreadable _ unread =>
      rw [unread] at read
      cases read
  · cases gives

theorem Reply.Endless.not_denied {reply : Reply} {now : Instant} (endless : reply.Endless now) (f : Failure) :
    ¬Denied (.ok reply) f := by
  intro denied
  obtain ⟨succeeded, grant, read, _⟩ := endless
  cases denied with
  | refused failed => exact Bool.false_ne_true (failed.symm.trans succeeded)
  | unreadable _ unread => cases unread.symm.trans read

theorem Reply.Endless.token? {reply : Reply} {now : Instant} (endless : reply.Endless now) :
    reply.token? now = none := by
  obtain ⟨succeeded, grant, read, past⟩ := endless
  rw [Reply.token?, if_pos succeeded, read]
  simp [Except.toOption, past]

namespace Transcript

variable {a : Account} {news later : Transcript}

theorem answers_append : (later ++ news).answers a = later.answers a ++ news.answers a :=
  List.filterMap_append

theorem answers_request (c : Call) (bearer : String) (answer : Except String Reply) :
    answers a (.exchanged (c.request a bearer) answer :: news) = answer :: news.answers a := by
  have other := c.request_ne_grant a bearer
  simp [answers, other]

theorem eq_nil_of_first {c : Call} {bearer bearer' : String} {answer answer' : Except String Reply}
    {between earlier earlier' : Transcript} (first : earlier.answers a = [])
    (same : .exchanged (c.request a bearer) answer :: earlier =
      between ++ .exchanged (c.request a bearer') answer' :: earlier') : between = [] := by
  cases between with
  | nil => rfl
  | cons x between =>
    have rest : earlier = between ++ .exchanged (c.request a bearer') answer' :: earlier' := (List.cons.inj same).2
    rw [rest, answers_append, answers_request] at first
    exact absurd first (by simp)

/-- The vehicle's first answer stands at one place only. -/
theorem first_answer {c : Call} {bearer bearer' : String} {answer answer' : Except String Reply}
    {earlier earlier' later' : Transcript} (first : earlier.answers a = []) (first' : earlier'.answers a = [])
    (same : later ++ .exchanged (c.request a bearer) answer :: earlier =
      later' ++ .exchanged (c.request a bearer') answer' :: earlier') : later = later' := by
  rcases List.append_eq_append_iff.mp same with ⟨between, rfl, rest⟩ | ⟨between, rfl, rest⟩
  · rw [eq_nil_of_first first rest, List.append_nil]
  · rw [eq_nil_of_first first' rest, List.append_nil]

/-- An answer of the vehicle was given to a request that is none for a token. -/
theorem mem_of_mem_answers {answer : Except String Reply} (member : answer ∈ news.answers a) :
    ∃ r, .exchanged r answer ∈ news ∧ r ≠ .grant a := by
  obtain ⟨x, within, kept⟩ := List.mem_filterMap.mp member
  cases x with
  | exchanged r answer' =>
    change (if r = .grant a then none else some answer') = some answer at kept
    split at kept
    · cases kept
    · rename_i other
      cases kept
      exact ⟨r, within, other⟩
  | looked | called | returned => cases kept

/-- Where nothing but tokens is asked for, there are no answers. -/
theorem answers_eq_nil (grants : ∀ r answer, .exchanged r answer ∈ news → r = .grant a) :
    news.answers a = [] := by
  refine List.filterMap_eq_nil_iff.mpr fun x member => ?_
  cases x with
  | exchanged r answer => exact if_pos (grants r answer member)
  | looked | called | returned => rfl

end Transcript

theorem Granting.exchanged {a : Account} {news : Transcript} {result : Except Overflow (Except Failure Token)}
    (granting : Granting a news result) {r : Request} {answer : Except String Reply}
    (member : .exchanged r answer ∈ news) :
    r = .grant a ∧ ((∀ f, ¬Denied answer f) ∨ ∃ f, result = .ok (.error f)) := by
  cases granting with
  | denied why =>
    cases List.mem_singleton.mp member
    exact ⟨rfl, Or.inr ⟨_, rfl⟩⟩
  | granted gives =>
    cases (List.mem_cons.mp member).resolve_left (by simp) with
    | head => exact ⟨rfl, Or.inl (Reply.not_denied_of_token gives)⟩
    | tail _ wrong => cases wrong
  | endless endless =>
    cases (List.mem_cons.mp member).resolve_left (by simp) with
    | head => exact ⟨rfl, Or.inl endless.not_denied⟩
    | tail _ wrong => cases wrong

namespace Session

variable {s s' : Session} {c : Call} {forced : Bool} {news : Transcript} {r : Request}
  {answer : Except String Reply} {bearer : String} {f : Failure} {overflow : Overflow}

theorem Checking.quiet {result : Except Overflow Bool} (checking : s.Checking forced news result) :
    .exchanged r answer ∉ news := by
  cases checking <;> simp

namespace Showing

variable {result : Except Overflow (Except Failure String × Session)}

/-- While a token is come by, nothing but tokens is asked for, and only a last request is in vain. -/
theorem exchanged (showing : s.Showing forced news result) (member : .exchanged r answer ∈ news) :
    r = .grant s.account ∧ ((∀ f, ¬Denied answer f) ∨ ∃ f, result = .ok (.error f, s)) := by
  have granted {asked checked : Transcript} {granted : Except Overflow (Except Failure Token)}
      {checking : Except Overflow Bool} (quiet : s.Checking forced checked checking)
      (granting : Granting s.account asked granted) (member : .exchanged r answer ∈ asked ++ checked) :=
    granting.exchanged ((List.mem_append.mp member).resolve_right quiet.quiet)
  cases showing with
  | held checking => exact absurd member checking.quiet
  | renewed checking granting =>
    obtain ⟨same, kept | ⟨_, wrong⟩⟩ := granted checking granting member
    · exact ⟨same, Or.inl kept⟩
    · cases wrong
  | denied checking granting =>
    obtain ⟨same, _⟩ := granted checking granting member
    exact ⟨same, Or.inr ⟨_, rfl⟩⟩
  | late checking => exact absurd member checking.quiet
  | endless checking granting =>
    obtain ⟨same, kept | ⟨_, wrong⟩⟩ := granted checking granting member
    · exact ⟨same, Or.inl kept⟩
    · cases wrong

theorem answers (showing : s.Showing forced news result) : news.answers s.account = [] :=
  Transcript.answers_eq_nil fun _ _ member => (showing.exchanged member).1

/-- Without a token the last thing was a request for one, in vain. -/
theorem stops (showing : s.Showing forced news (.ok (.error f, s'))) : ∃ answer earlier,
    news = .exchanged (.grant s.account) answer :: earlier ∧ Denied answer f ∧
      ∀ r answer, .exchanged r answer ∉ earlier := by
  cases showing with
  | denied checking granting =>
    cases granting with
    | denied why => exact ⟨_, _, rfl, why, fun _ _ => checking.quiet⟩

theorem outOfTime (showing : s.Showing forced news (.error overflow)) : OutOfTime s.account news := by
  cases showing with
  | late checking =>
    cases checking with
    | late _ _ late => exact .margin late
  | endless _ granting =>
    cases granting with
    | endless endless => exact .life endless

/-- A token that is asked for on demand. -/
theorem of_forced (showing : s.Showing true news result) : ∃ granted, Granting s.account news granted ∧
    result = granted.map fun
      | .ok token => (.ok token.bearer, { s with token := some token })
      | .error f => (.error f, s) := by
  cases showing with
  | held checking => cases checking.of_forced.2
  | renewed checking granting =>
    obtain ⟨rfl, -⟩ := checking.of_forced
    exact ⟨_, by rwa [List.append_nil], rfl⟩
  | denied checking granting =>
    obtain ⟨rfl, -⟩ := checking.of_forced
    exact ⟨_, by rwa [List.append_nil], rfl⟩
  | late checking => cases checking.of_forced.2
  | endless checking granting =>
    obtain ⟨rfl, -⟩ := checking.of_forced
    exact ⟨_, by rwa [List.append_nil], rfl⟩

end Showing

namespace Attempt

variable {outcome : Except Overflow (Except Failure Reply × Session)} {reply : Reply}

theorem requests (attempt : s.Attempt c forced news outcome) (member : .exchanged r answer ∈ news) :
    r = .grant s.account ∨ ∃ bearer, r = c.request s.account bearer := by
  have asked {bearer : String} {answer' : Except String Reply} {shown : Transcript}
      {result : Except Overflow (Except Failure String × Session)} (showing : s.Showing forced shown result)
      (member : .exchanged r answer ∈ .exchanged (c.request s.account bearer) answer' :: shown) :
      r = .grant s.account ∨ ∃ bearer, r = c.request s.account bearer := by
    rcases List.mem_cons.mp member with same | earlier
    · cases same
      exact Or.inr ⟨bearer, rfl⟩
    · exact Or.inl (showing.exchanged earlier).1
  cases attempt with
  | stopped showing => exact Or.inl (showing.exchanged member).1
  | unanswered showing => exact asked showing member
  | answered showing => exact asked showing member
  | overrun showing => exact Or.inl (showing.exchanged member).1

/-- In one attempt the vehicle is asked once at most. -/
theorem answers_length (attempt : s.Attempt c forced news outcome) : (news.answers s.account).length ≤ 1 := by
  cases attempt with
  | stopped showing => simp [showing.answers]
  | unanswered showing => simp [Transcript.answers_request, showing.answers]
  | answered showing => simp [Transcript.answers_request, showing.answers]
  | overrun showing => simp [showing.answers]

/-- Whatever is not the last thing in an attempt is the request for a token that was granted. -/
theorem followed (attempt : s.Attempt c forced news outcome) (member : .exchanged r answer ∈ news.tail) :
    r = .grant s.account ∧ ∀ f, ¬Denied answer f := by
  have granted {shown : Transcript} {result : Except Overflow (Except Failure String × Session)}
      (showing : s.Showing forced shown result) (goesOn : ∀ f, result ≠ .ok (.error f, s))
      (member : .exchanged r answer ∈ shown) : r = .grant s.account ∧ ∀ f, ¬Denied answer f := by
    obtain ⟨same, kept | ⟨f, ended⟩⟩ := showing.exchanged member
    · exact ⟨same, kept⟩
    · exact absurd ended (goesOn f)
  cases attempt with
  | stopped showing =>
    obtain ⟨_, earlier, rfl, _, quiet⟩ := showing.stops
    exact absurd member (quiet r answer)
  | unanswered showing => exact granted showing (fun _ wrong => by cases wrong) member
  | answered showing => exact granted showing (fun _ wrong => by cases wrong) member
  | overrun showing => exact granted showing (fun _ wrong => by cases wrong) (List.mem_of_mem_tail member)

theorem settles_reply (c : Call) (a : Account) (bearer : String) (reply : Reply) :
    Settles a c (c.request a bearer) (.ok reply) ((settle (.ok reply)).map c.received) := by
  rw [settle]
  split
  · rename_i succeeded
    exact .succeeded succeeded
  · rename_i failed
    exact .failed (by simpa using failed)

/-- The last request of an attempt says what comes of it. -/
theorem settles {result : Except Failure Reply} (attempt : s.Attempt c forced news (.ok (result, s'))) :
    ∃ r answer earlier, news = .exchanged r answer :: earlier ∧
      Settles s.account c r answer ((settle result).map c.received) := by
  cases attempt with
  | stopped showing =>
    obtain ⟨answer, earlier, split, why, _⟩ := showing.stops
    exact ⟨_, answer, earlier, split, .denied why⟩
  | unanswered showing text => exact ⟨_, _, _, rfl, .unreachable text⟩
  | answered showing reply => exact ⟨_, _, _, rfl, settles_reply c _ _ reply⟩

theorem outOfTime (attempt : s.Attempt c forced news (.error overflow)) : OutOfTime s.account news := by
  cases attempt with
  | overrun showing => exact showing.outOfTime

/-- In one attempt no answer of the vehicle is followed by anything. -/
theorem not_renewed (attempt : s.Attempt c forced news outcome) {now : Instant} {granted : Reply} :
    ¬[.looked now, .exchanged (.grant s.account) (.ok granted),
      .exchanged (c.request s.account bearer) (.ok reply)] <:+: news := by
  intro within
  have member : .exchanged (c.request s.account bearer) (.ok reply) ∈ news.tail := by
    obtain ⟨front, back, rfl⟩ := within
    cases front <;> simp
  exact c.request_ne_grant _ _ (attempt.followed member).1

theorem ne_nil (attempt : s.Attempt c forced news outcome) : news ≠ [] := by
  rintro rfl
  rcases outcome with _ | ⟨result, s'⟩
  · cases attempt.outOfTime
  · obtain ⟨_, _, _, wrong, _⟩ := attempt.settles
    cases wrong

/-- An attempt with a new token is a renewal. -/
theorem renewal (attempt : s.Attempt c true news outcome) :
    Renewal s.account c news (outcome.map fun (result, _) => (settle result).map c.received) := by
  have asked {bearer : String} {shown : Transcript} {s' : Session} {answer : Except String Reply}
      {outcome : Except Failure (Option String)} (showing : s.Showing true shown (.ok (.ok bearer, s')))
      (settles : Settles s.account c (c.request s.account bearer) answer outcome) :
      Renewal s.account c (.exchanged (c.request s.account bearer) answer :: shown) (.ok outcome) := by
    obtain ⟨granted, granting, same⟩ := showing.of_forced
    cases granting with
    | denied => cases same
    | granted gives =>
      cases same
      exact .asked gives settles
    | endless => cases same
  cases attempt with
  | stopped showing =>
    obtain ⟨granted, granting, same⟩ := showing.of_forced
    cases granting with
    | denied why =>
      cases same
      exact .denied why
    | granted => cases same
    | endless => cases same
  | unanswered showing text => exact asked showing (.unreachable text)
  | answered showing reply => exact asked showing (settles_reply c _ _ reply)
  | overrun showing =>
    obtain ⟨granted, granting, same⟩ := showing.of_forced
    cases granting with
    | denied => cases same
    | granted => cases same
    | endless endless =>
      cases same
      exact .endless endless

/-- The vehicle has answered only if the attempt comes to its answer. -/
theorem replied (attempt : s.Attempt c forced news outcome)
    (member : .exchanged (c.request s.account bearer) (.ok reply) ∈ news) : ∃ s', outcome = .ok (.ok reply, s') := by
  have elsewhere {shown : Transcript} {result : Except Overflow (Except Failure String × Session)}
      (showing : s.Showing forced shown result) : .exchanged (c.request s.account bearer) (.ok reply) ∉ shown :=
    fun earlier => c.request_ne_grant _ _ (showing.exchanged earlier).1
  cases attempt with
  | stopped showing => exact absurd member (elsewhere showing)
  | unanswered showing =>
    injection (List.mem_cons.mp member).resolve_right (elsewhere showing) with _ wrong
    cases wrong
  | answered showing =>
    injection (List.mem_cons.mp member).resolve_right (elsewhere showing) with _ same
    cases same
    exact ⟨_, rfl⟩
  | overrun showing => exact absurd member (elsewhere showing)

section Again

variable {later : Transcript} (first : s.Attempt c false news (.ok (.ok reply, s')))
  (refused : reply.status = unauthorized) (second : s'.Attempt c true later outcome)

include first refused second

/-- After an answer that the token is not accepted, the vehicle is asked again if another one is granted. -/
theorem answers_length_again : ((later ++ news).answers s.account).length = 2 ↔
    ∃ now granted token bearer reply, [.looked now, .exchanged (.grant s.account) (.ok granted),
      .exchanged (c.request s.account bearer) (.ok reply)] <:+: later ++ news ∧
      granted.token? now = some token ∧ reply.status = unauthorized := by
  obtain ⟨bearer, shown, split, showing⟩ := first.reply_cases
  have one : (news.answers s.account).length = 1 := by
    rw [split, Transcript.answers_request, showing.answers]
    rfl
  -- What begins with another event than the looking at the clock is not the renewal itself.
  have not_here (r : Request) (answer : Except String Reply) {now : Instant} {granted : Reply} {shown : String}
      {answered : Reply} : ¬[.looked now, .exchanged (.grant s.account) (.ok granted),
        .exchanged (c.request s.account shown) (.ok answered)] <:+: .exchanged r answer :: news := by
    intro within
    rcases List.infix_cons_iff.mp within with here | earlier
    · obtain ⟨_, wrong⟩ := here
      cases wrong
    · exact first.not_renewed earlier
  have renewal := second.renewal
  rw [first.account] at renewal
  generalize (outcome.map fun (result, _) => (settle result).map c.received) = comes at renewal
  cases renewal with
  | denied =>
    constructor
    · intro many
      simp [Transcript.answers] at many one
      omega
    · rintro ⟨_, _, _, _, _, within, _⟩
      exact absurd within (not_here _ _)
  | endless endless =>
    constructor
    · intro many
      simp [Transcript.answers] at many one
      omega
    · rintro ⟨_, _, _, _, _, within, gives, _⟩
      rcases List.infix_cons_iff.mp within with here | earlier
      · obtain ⟨_, same⟩ := here
        cases same
        cases endless.token?.symm.trans gives
      · exact absurd earlier (not_here _ _)
  | @asked granted now token answer _ gives =>
    refine iff_of_true ?_ ⟨now, granted, token, bearer, reply, ?_, gives, refused⟩
    · rw [List.cons_append, Transcript.answers_request, List.length_cons]
      simp [Transcript.answers] at one ⊢
      omega
    · refine ⟨[.exchanged (c.request s.account token.bearer) answer], shown, ?_⟩
      rw [split]
      rfl

theorem followed_again (member : .exchanged r answer ∈ (later ++ news).tail) :
    (r = .grant s.account ∧ ∀ f, ¬Denied answer f) ∨
      ∃ bearer reply, r = c.request s.account bearer ∧ answer = .ok reply ∧ reply.status = unauthorized := by
  rw [List.tail_append_of_ne_nil second.ne_nil] at member
  rcases List.mem_append.mp member with later | earlier
  · exact Or.inl (first.account ▸ second.followed later)
  · obtain ⟨bearer, shown, rfl, showing⟩ := first.reply_cases
    rcases List.mem_cons.mp earlier with same | earlier
    · cases same
      exact Or.inr ⟨bearer, reply, rfl, rfl, refused⟩
    · exact Or.inl (first.followed earlier)

end Again

end Attempt

namespace Course

variable {outcome : Except Overflow (Except Failure String × Session)}

theorem requests (course : s.Course c news outcome) (member : .exchanged r answer ∈ news) :
    r = .grant s.account ∨ ∃ bearer, r = c.request s.account bearer := by
  cases course with
  | once attempt | overrun attempt => exact attempt.requests member
  | twice first _ second | overrunLater first _ second =>
    rcases List.mem_append.mp member with later | earlier
    · exact first.account ▸ second.requests later
    · exact first.requests earlier

theorem answers_length (course : s.Course c news outcome) : (news.answers s.account).length ≤ 2 := by
  cases course with
  | once attempt | overrun attempt => exact attempt.answers_length.trans (by decide)
  | twice first _ second | overrunLater first _ second =>
    have here := first.answers_length
    have later := second.answers_length
    rw [first.account] at later
    rw [Transcript.answers_append, List.length_append]
    omega

/-- The vehicle is asked again exactly if it does not accept the first token and another one is granted. -/
theorem answers_length_eq_two (course : s.Course c news outcome) :
    (news.answers s.account).length = 2 ↔ ∃ now granted token bearer reply,
      [.looked now, .exchanged (.grant s.account) (.ok granted),
        .exchanged (c.request s.account bearer) (.ok reply)] <:+: news ∧
      granted.token? now = some token ∧ reply.status = unauthorized := by
  cases course with
  | once attempt | overrun attempt =>
    have few := attempt.answers_length
    constructor
    · intro many
      omega
    · rintro ⟨_, _, _, _, _, within, _⟩
      exact absurd within attempt.not_renewed
  | twice first refused second | overrunLater first refused second =>
    exact first.answers_length_again refused second

theorem followed (course : s.Course c news outcome) (member : .exchanged r answer ∈ news.tail) :
    (r = .grant s.account ∧ ∀ f, ¬Denied answer f) ∨
      ∃ bearer reply, r = c.request s.account bearer ∧ answer = .ok reply ∧ reply.status = unauthorized := by
  cases course with
  | once attempt | overrun attempt => exact Or.inl (attempt.followed member)
  | twice first refused second | overrunLater first refused second =>
    exact first.followed_again refused second member

/-- A first answer that the token is not accepted is followed by a renewal, and that is what the call comes to. -/
theorem renewed (course : s.Course c news outcome) {earlier later : Transcript} {reply : Reply}
    (whole : news = later ++ .exchanged (c.request s.account bearer) (.ok reply) :: earlier)
    (none : earlier.answers s.account = []) (unaccepted : reply.status = unauthorized) :
    Renewal s.account c later (outcome.map fun (result, _) => result.map c.received) := by
  have member : .exchanged (c.request s.account bearer) (.ok reply) ∈ news := by
    rw [whole]
    exact List.mem_append_right later List.mem_cons_self
  cases course with
  | once attempt accepted =>
    obtain ⟨_, same⟩ := attempt.replied member
    cases same
    exact absurd unaccepted (accepted reply rfl)
  | overrun attempt =>
    obtain ⟨_, wrong⟩ := attempt.replied member
    cases wrong
  | twice first _ second | overrunLater first _ second =>
    obtain ⟨bearer', shown, rfl, showing⟩ := first.reply_cases
    cases Transcript.first_answer showing.answers none whole
    exact first.account ▸ second.renewal

theorem settled (course : s.Course c news outcome) :
    match outcome.map fun (result, _) => result.map c.received with
    | .ok result => ∃ r answer earlier, news = .exchanged r answer :: earlier ∧ Settles s.account c r answer result
    | .error _ => OutOfTime s.account news := by
  cases course with
  | once attempt => exact attempt.settles
  | twice first _ second =>
    obtain ⟨r, answer, earlier, split, settles⟩ := second.settles
    rw [first.account] at settles
    exact ⟨r, answer, _, by rw [split, List.cons_append], settles⟩
  | overrun attempt => exact attempt.outOfTime
  | overrunLater first _ second =>
    have renewal := second.renewal
    rw [first.account] at renewal
    cases renewal with
    | endless endless => exact .life endless

end Course

/-- The traffic of a call and its result are as promised. -/
theorem Course.contract {outcome : Except Overflow (Except Failure String × Session)}
    (course : s.Course c news outcome) :
    c.Contract s.account news (outcome.map fun (result, _) => result.map c.received) where
  requests _ _ member := course.requests member
  atMostTwice := course.answers_length
  twice := course.answers_length_eq_two
  followed _ _ member := course.followed member
  settled := course.settled
  renewed _ _ _ _ whole none unaccepted := course.renewed whole none unaccepted
  success value := by
    have settled := course.settled
    constructor
    · intro result
      rw [result] at settled
      obtain ⟨r, answer, earlier, rfl, settles⟩ := settled
      cases settles with
      | @succeeded bearer reply succeeded =>
        exact ⟨reply, by rw [Transcript.answers_request]; rfl, succeeded, rfl⟩
    · rintro ⟨reply, last, succeeded, rfl⟩
      obtain ⟨r, member, other⟩ := Transcript.mem_of_mem_answers (List.mem_of_head? last)
      -- An answer of success is followed by nothing.
      have ends : .exchanged r (.ok reply) ∉ news.tail := by
        intro earlier
        rcases course.followed earlier with ⟨same, _⟩ | ⟨_, _, _, same, refused⟩
        · exact other same
        · cases same
          simp [Reply.succeeded, refused, unauthorized] at succeeded
      cases result : outcome.map fun (result, _) => result.map c.received with
      | error overflow =>
        rw [result] at settled
        cases settled with
        | margin => simp at member
        | life =>
          cases member with
          | tail _ earlier => exact absurd earlier ends
      | ok outcome =>
        rw [result] at settled
        obtain ⟨r', answer, earlier, rfl, settles⟩ := settled
        cases (List.mem_cons.mp member).resolve_right ends
        cases settles with
        | denied => exact absurd rfl other
        | failed failed => exact absurd (failed.symm.trans succeeded) (by decide)
        | succeeded => rfl
  status f status result known := by
    have settled := course.settled
    rw [result] at settled
    obtain ⟨r, answer, earlier, rfl, settles⟩ := settled
    cases settles with
    | denied why => cases why <;> cases known
    | unreachable => cases known
    | @failed bearer reply failed =>
      exact ⟨reply, by rw [Transcript.answers_request]; rfl, failed, rfl⟩

/-- Whatever has passed before, and whatever the world answers: a call requests its document, or sends its
profile, at most twice. Where the first token is not accepted, another one is asked for, and the second time
comes exactly if it is granted. The last answer says what the call comes to, unless a time is reached that the
clock cannot show. -/
theorem call_contract (o : Outside) (s : Session) (c : Call) (before : Transcript) :
    ∃ news, ((s.call o.wire c).perform before).2 = news ++ before ∧
      c.Contract s.account news (((s.call o.wire c).perform before).1.map Prod.fst) := by
  obtain ⟨news, passed, outcome, course, result⟩ := s.call_follows o c before
  refine ⟨news, passed, ?_⟩
  have same : ((s.call o.wire c).perform before).1.map Prod.fst =
      outcome.map fun (result, _) => result.map c.received := by
    rw [result]
    cases outcome <;> rfl
  rw [same]
  exact course.contract

/-- A vehicle that does not accept the first token, and a server that answers as given where another one is asked
for. -/
def refusingOutside (granted : Reply) : Outside where
  answer _ r :=
    if r.contentType.isSome then .ok granted
    else if r.authorization = "Bearer first" then .ok ⟨unauthorized, ""⟩
    else .ok ⟨200, "\x7b\x7d"⟩
  clock _ := ⟨0⟩

/-- The vehicle is asked again where a second token is granted, and not where it is refused. Both times the renewal
is all that follows the first answer. -/
theorem call_contract_sample :
    let account : Account := ⟨"server", "user", "password", "client", "vin"⟩
    let s : Session := ⟨account, some ⟨"first", ⟨3600000000000⟩⟩⟩
    let grant : Reply := ⟨200, "\x7b\"access_token\":\"second\",\"expires_in\":3600\x7d"⟩
    let renewed := (s.call (refusingOutside grant).wire (.fetch .status)).perform []
    let refused := (s.call (refusingOutside ⟨503, "busy"⟩).wire (.fetch .status)).perform []
    (Renewal account (.fetch .status) (renewed.2.take 3) (renewed.1.map Prod.fst) ∧
        (renewed.2.answers account).length = 2 ∧ renewed.1.map Prod.fst = .ok (.ok (some "\x7b\x7d"))) ∧
      Renewal account (.fetch .status) (refused.2.take 1) (refused.1.map Prod.fst) ∧
        (refused.2.answers account).length = 1 ∧
        refused.1.map Prod.fst = .ok (.error (.refused (Failure.statusLine 503 "busy"))) := by
  intro account s grant renewed refused
  let first := (Call.fetch .status).request account "first"
  constructor
  · have answers : renewed.2.answers account = [.ok ⟨200, "\x7b\x7d"⟩, .ok ⟨unauthorized, ""⟩] := by decide +kernel
    obtain ⟨news, passed, contract⟩ := call_contract (refusingOutside grant) s (.fetch .status) []
    obtain rfl : news = renewed.2 := (List.append_nil news).symm.trans passed.symm
    refine ⟨?_, by rw [answers]; rfl, (contract.success _).mpr ⟨⟨200, "\x7b\x7d"⟩, by rw [answers]; rfl, rfl, rfl⟩⟩
    have shown : renewed.2[3]?.bind Traffic.request? = some first := by decide +kernel
    have only : Transcript.answers account (renewed.2.drop 3) = [.ok ⟨unauthorized, ""⟩] := by decide +kernel
    obtain ⟨x, fourth, request⟩ := Option.bind_eq_some_iff.mp shown
    obtain ⟨bound, here⟩ := List.getElem?_eq_some_iff.mp fourth
    have split := List.drop_eq_getElem_cons bound
    rw [here] at split
    cases x with
    | looked | called | returned => cases request
    | exchanged r answer =>
      cases request
      rw [split, Transcript.answers_request] at only
      obtain ⟨rfl, none⟩ := List.cons.inj only
      exact contract.renewed "first" _ _ _ (split ▸ (List.take_append_drop 3 renewed.2).symm) none rfl
  · have answers : refused.2.answers account = [.ok ⟨unauthorized, ""⟩] := by decide +kernel
    obtain ⟨news, passed, contract⟩ := call_contract (refusingOutside ⟨503, "busy"⟩) s (.fetch .status) []
    obtain rfl : news = refused.2 := (List.append_nil news).symm.trans passed.symm
    have renewal := contract.renewed "first" ⟨unauthorized, ""⟩ [.looked ⟨0⟩]
      [.exchanged (.grant account) (.ok ⟨503, "busy"⟩)] rfl rfl rfl
    refine ⟨renewal, by rw [answers]; rfl, ?_⟩
    generalize refused.1.map Prod.fst = result at renewal ⊢
    cases renewal with
    | denied why =>
      cases why with
      | refused => rfl
      | unreadable succeeded => cases succeeded

end Session

end VehicleLink
