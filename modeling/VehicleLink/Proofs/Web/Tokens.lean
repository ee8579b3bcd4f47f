import Mathlib.Data.List.Infix
import VehicleLink.Proofs.Web.Courses

namespace VehicleLink

namespace Transcript

/-- The token that was granted just now. -/
def granted? (a : Account) : Transcript → Option Token
  | .looked now :: .exchanged r (.ok reply) :: _ => if r = .grant a then reply.token? now else none
  | _ => none

/-- The token that was granted last. -/
def token? (a : Account) : Transcript → Option Token
  | [] => none
  | x :: before => (granted? a (x :: before)).or (token? a before)

/-- The call that is under way. -/
def call? : Transcript → Option Call
  | [] => none
  | .called c :: _ => some c
  | .returned _ :: _ => none
  | _ :: before => call? before

/-- Another token is due: the one granted last was stale when the call began, or the vehicle has just not
accepted it. -/
inductive RenewalDue (a : Account) : Transcript → Prop
  | stale {before : Transcript} {c : Call} {token : Token} {now : Instant}
      (held : token? a before = some token) (stale : token.Stale now) :
      RenewalDue a (.looked now :: .called c :: before)
  | refused {before : Transcript} {c : Call} {bearer : String} {reply : Reply}
      (refused : reply.status = Session.unauthorized) :
      RenewalDue a (.exchanged (c.request a bearer) (.ok reply) :: before)

/-- A token may be shown: it was not stale when the call began just now, or it has just been granted because
another one was due. -/
inductive Presentable (a : Account) (token : Token) : Transcript → Prop
  | fresh {before : Transcript} {c : Call} {now : Instant} (fresh : ¬token.Stale now) :
      Presentable a token (.looked now :: .called c :: before)
  | renewed {before : Transcript} {now : Instant} {reply : Reply} (due : RenewalDue a before)
      (gives : reply.token? now = some token) :
      Presentable a token (.looked now :: .exchanged (.grant a) (.ok reply) :: before)

/-- Transcripts in which tokens are asked for and shown as they should be. -/
inductive Orderly (a : Account) : Transcript → Prop
  | start : Orderly a []
  | opened (answer : Except String Reply) : Orderly a [.exchanged (.grant a) answer]
  | renewed {before : Transcript} (due : RenewalDue a before) (answer : Except String Reply)
      (orderly : Orderly a before) : Orderly a (.exchanged (.grant a) answer :: before)
  | asked {before : Transcript} {c : Call} {token : Token} (calling : call? before = some c)
      (held : token? a before = some token) (presentable : Presentable a token before)
      (answer : Except String Reply) (orderly : Orderly a before) :
      Orderly a (.exchanged (c.request a token.bearer) answer :: before)
  | looked {before : Transcript} (now : Instant) (orderly : Orderly a before) : Orderly a (.looked now :: before)
  | called {before : Transcript} (c : Call) (orderly : Orderly a before) : Orderly a (.called c :: before)
  | returned {before : Transcript} {result : Except Failure (Option String)}
      (known : result ≠ .error .missingToken) (orderly : Orderly a before) :
      Orderly a (.returned result :: before)

variable {a : Account} {before transcript : Transcript}

theorem token?_granted {reply : Reply} {now : Instant} {token : Token} (gives : reply.token? now = some token) :
    token? a (.looked now :: .exchanged (.grant a) (.ok reply) :: before) = some token := by
  have granted : granted? a (.looked now :: .exchanged (.grant a) (.ok reply) :: before) = some token := by
    rw [granted?, if_pos rfl, gives]
  rw [token?, granted]
  rfl

/-- A transcript was orderly at any earlier time. -/
theorem Orderly.earlier (orderly : Orderly a transcript) (earlier : before <:+ transcript) : Orderly a before := by
  induction orderly with
  | start => exact List.suffix_nil.mp earlier ▸ .start
  | opened answer =>
    rcases List.suffix_cons_iff.mp earlier with same | earlier
    · exact same ▸ .opened answer
    · exact List.suffix_nil.mp earlier ▸ .start
  | renewed due answer now ih =>
    exact (List.suffix_cons_iff.mp earlier).elim (fun same => same ▸ .renewed due answer now) ih
  | asked calling held presentable answer now ih =>
    exact (List.suffix_cons_iff.mp earlier).elim
      (fun same => same ▸ .asked calling held presentable answer now) ih
  | looked time now ih => exact (List.suffix_cons_iff.mp earlier).elim (fun same => same ▸ .looked time now) ih
  | called c now ih => exact (List.suffix_cons_iff.mp earlier).elim (fun same => same ▸ .called c now) ih
  | returned known now ih =>
    exact (List.suffix_cons_iff.mp earlier).elim (fun same => same ▸ .returned known now) ih

end Transcript

open Transcript

/-- What holds between a session and what has passed: it has the token that was granted last. -/
structure Session.Sound (a : Account) (before : Transcript) (s : Session) : Prop where
  account : s.account = a
  token : s.token = token? a before
  held : ∃ token, s.token = some token
  orderly : Orderly a before

namespace Session

variable {a : Account} {s s' : Session} {c : Call} {before news : Transcript}

/-- Where an attempt stands: at the beginning of its call, or where another token is due. -/
structure Underway (a : Account) (s : Session) (c : Call) (forced : Bool) (before : Transcript) : Prop where
  sound : s.Sound a before
  calling : call? before = some c
  begun : forced = false → ∃ earlier, before = .called c :: earlier
  due : forced = true → RenewalDue a before

namespace Checking

variable {forced : Bool} {result : Except Overflow Bool}

theorem keeps (checking : s.Checking forced news result) (underway : Underway a s c forced before) :
    Orderly a (news ++ before) ∧ token? a (news ++ before) = s.token ∧ call? (news ++ before) = some c := by
  obtain ⟨⟨_, granted, ⟨token, held⟩, orderly⟩, calling, begun, _⟩ := underway
  have looked (now : Instant) (unforced : forced = false) : Orderly a (.looked now :: before) ∧
      token? a (.looked now :: before) = s.token ∧ call? (.looked now :: before) = some c := by
    obtain ⟨earlier, rfl⟩ := begun unforced
    exact ⟨.looked now orderly, granted.symm, calling⟩
  cases checking with
  | forced => exact ⟨orderly, granted.symm, calling⟩
  | missing => exact ⟨orderly, granted.symm, calling⟩
  | stale _ unforced => exact looked _ unforced
  | fresh _ unforced => exact looked _ unforced
  | late _ unforced => exact looked _ unforced

theorem renewalDue (checking : s.Checking forced news (.ok true)) (underway : Underway a s c forced before) :
    RenewalDue a (news ++ before) := by
  obtain ⟨⟨_, granted, ⟨token, held⟩, _⟩, _, begun, due⟩ := underway
  cases checking with
  | forced demanded => exact due demanded
  | missing missing => cases held.symm.trans missing
  | stale held' unforced stale =>
    obtain ⟨earlier, rfl⟩ := begun unforced
    exact .stale (granted.symm.trans held') stale

theorem presentable (checking : s.Checking forced news (.ok false)) (underway : Underway a s c forced before)
    {token : Token} (held : s.token = some token) : Presentable a token (news ++ before) := by
  cases checking with
  | fresh held' unforced fresh =>
    obtain ⟨earlier, rfl⟩ := underway.begun unforced
    cases held'.symm.trans held
    exact .fresh fresh

end Checking

end Session

namespace Granting

variable {a : Account} {news before : Transcript}

theorem keeps {result : Except Overflow (Except Failure Token)} (granting : Granting a news result)
    (due : RenewalDue a before) (orderly : Orderly a before) :
    Orderly a (news ++ before) ∧ call? (news ++ before) = call? before := by
  cases granting with
  | denied => exact ⟨.renewed due _ orderly, rfl⟩
  | granted => exact ⟨.looked _ (.renewed due _ orderly), rfl⟩
  | endless => exact ⟨.looked _ (.renewed due _ orderly), rfl⟩

/-- Where no token is granted, the last one stays. -/
theorem failed {f : Failure} (granting : Granting a news (.ok (.error f))) :
    token? a (news ++ before) = token? a before ∧ f ≠ .missingToken := by
  cases granting with
  | denied why =>
    refine ⟨rfl, ?_⟩
    rintro rfl
    cases why

/-- A token that has just been granted is the last one, and may be shown. -/
theorem succeeded {token : Token} (granting : Granting a news (.ok (.ok token))) (due : RenewalDue a before) :
    token? a (news ++ before) = some token ∧ Presentable a token (news ++ before) := by
  cases granting with
  | granted gives => exact ⟨token?_granted gives, .renewed due gives⟩

end Granting

namespace Session

variable {a : Account} {s s' : Session} {c : Call} {before news : Transcript} {forced : Bool} {f : Failure}

namespace Showing

theorem keeps {result : Except Overflow (Except Failure String × Session)}
    (showing : s.Showing forced news result) (underway : Underway a s c forced before) :
    Orderly a (news ++ before) ∧ call? (news ++ before) = some c := by
  have asked {asked checked : Transcript} {granted : Except Overflow (Except Failure Token)}
      (checking : s.Checking forced checked (.ok true)) (granting : Granting s.account asked granted) :
      Orderly a (asked ++ checked ++ before) ∧ call? (asked ++ checked ++ before) = some c := by
    obtain ⟨orderly, _, calling⟩ := checking.keeps underway
    rw [underway.sound.account] at granting
    obtain ⟨orderly', same⟩ := granting.keeps (checking.renewalDue underway) orderly
    rw [List.append_assoc]
    exact ⟨orderly', same.trans calling⟩
  cases showing with
  | held checking =>
    obtain ⟨orderly, _, calling⟩ := checking.keeps underway
    exact ⟨orderly, calling⟩
  | renewed checking granting => exact asked checking granting
  | denied checking granting => exact asked checking granting
  | late checking =>
    obtain ⟨orderly, _, calling⟩ := checking.keeps underway
    exact ⟨orderly, calling⟩
  | endless checking granting => exact asked checking granting

theorem failed (showing : s.Showing forced news (.ok (.error f, s'))) (underway : Underway a s c forced before) :
    s' = s ∧ token? a (news ++ before) = s.token ∧ f ≠ .missingToken := by
  cases showing with
  | denied checking granting =>
    rw [underway.sound.account] at granting
    obtain ⟨same, known⟩ := granting.failed
    obtain ⟨_, held, _⟩ := checking.keeps underway
    rw [List.append_assoc]
    exact ⟨rfl, same.trans held, known⟩

/-- A token that is shown is the last one that was granted, and may be shown. -/
theorem shown {bearer : String} (showing : s.Showing forced news (.ok (.ok bearer, s')))
    (underway : Underway a s c forced before) : ∃ token, bearer = token.bearer ∧ s'.token = some token ∧
      token? a (news ++ before) = some token ∧ Presentable a token (news ++ before) := by
  cases showing with
  | @held _ token checking held =>
    obtain ⟨_, granted, _⟩ := checking.keeps underway
    exact ⟨token, rfl, held, granted.trans held, checking.presentable underway held⟩
  | @renewed _ _ token checking granting =>
    rw [underway.sound.account] at granting
    obtain ⟨granted, presentable⟩ := granting.succeeded (checking.renewalDue underway)
    rw [List.append_assoc]
    exact ⟨token, rfl, rfl, granted, presentable⟩

end Showing

namespace Attempt

theorem keeps {result : Except Overflow (Except Failure Reply × Session)}
    (attempt : s.Attempt c forced news result) (underway : Underway a s c forced before) :
    Orderly a (news ++ before) ∧ call? (news ++ before) = some c := by
  have asked {bearer : String} {shown : Transcript} {s' : Session} (answer : Except String Reply)
      (showing : s.Showing forced shown (.ok (.ok bearer, s'))) :
      Orderly a (.exchanged (c.request s.account bearer) answer :: shown ++ before) ∧
        call? (.exchanged (c.request s.account bearer) answer :: shown ++ before) = some c := by
    obtain ⟨orderly, calling⟩ := showing.keeps underway
    obtain ⟨token, rfl, _, held, presentable⟩ := showing.shown underway
    rw [underway.sound.account]
    exact ⟨.asked calling held presentable answer orderly, calling⟩
  cases attempt with
  | stopped showing => exact showing.keeps underway
  | unanswered showing text => exact asked _ showing
  | answered showing reply => exact asked _ showing
  | overrun showing => exact showing.keeps underway

theorem sound {result : Except Failure Reply} (attempt : s.Attempt c forced news (.ok (result, s')))
    (underway : Underway a s c forced before) :
    s'.Sound a (news ++ before) ∧ result ≠ .error .missingToken := by
  have account := attempt.account.trans underway.sound.account
  have orderly := (attempt.keeps underway).1
  cases attempt with
  | stopped showing =>
    obtain ⟨rfl, held, known⟩ := showing.failed underway
    refine ⟨⟨account, held.symm, underway.sound.held, orderly⟩, fun same => ?_⟩
    cases same
    exact known rfl
  | unanswered showing text =>
    obtain ⟨token, _, held, granted, _⟩ := showing.shown underway
    exact ⟨⟨account, held.trans granted.symm, ⟨token, held⟩, orderly⟩, fun wrong => by cases wrong⟩
  | answered showing reply =>
    obtain ⟨token, _, held, granted, _⟩ := showing.shown underway
    exact ⟨⟨account, held.trans granted.symm, ⟨token, held⟩, orderly⟩, fun wrong => by cases wrong⟩

end Attempt

namespace Course

/-- A call that has just begun. -/
theorem underway (sound : s.Sound a before) : Underway a s c false (.called c :: before) where
  sound := ⟨sound.account, sound.token, sound.held, .called c sound.orderly⟩
  calling := rfl
  begun _ := ⟨before, rfl⟩
  due wrong := by cases wrong

/-- A call that goes on after the token was not accepted. -/
theorem underway_again {reply : Reply} (first : s.Attempt c false news (.ok (.ok reply, s')))
    (refused : reply.status = unauthorized) (sound : s.Sound a before) :
    Underway a s' c true (news ++ .called c :: before) where
  sound := (first.sound (underway sound)).1
  calling := (first.keeps (underway sound)).2
  begun wrong := by cases wrong
  due _ := by
    obtain ⟨bearer, shown, rfl, _⟩ := first.reply_cases
    rw [sound.account]
    exact .refused refused

/-- A call keeps a transcript orderly, even where it runs over. -/
theorem keeps {outcome : Except Overflow (Except Failure String × Session)} (course : s.Course c news outcome)
    (sound : s.Sound a before) : Orderly a (news ++ .called c :: before) := by
  cases course with
  | once attempt | overrun attempt => exact (attempt.keeps (underway sound)).1
  | twice first refused second | overrunLater first refused second =>
    rw [List.append_assoc]
    exact (second.keeps (underway_again first refused sound)).1

theorem sound {result : Except Failure String} (course : s.Course c news (.ok (result, s')))
    (sound : s.Sound a before) : s'.Sound a (news ++ .called c :: before) ∧ result ≠ .error .missingToken := by
  have settled {last : Except Failure Reply} (known : last ≠ .error .missingToken) :
      settle last ≠ .error .missingToken := by
    cases last with
    | error f => exact fun same => known (by cases same; rfl)
    | ok reply =>
      rw [settle]
      split <;> exact fun wrong => by cases wrong
  cases course with
  | once attempt =>
    obtain ⟨sound', known⟩ := attempt.sound (underway sound)
    exact ⟨sound', settled known⟩
  | twice first refused second =>
    obtain ⟨sound', known⟩ := second.sound (underway_again first refused sound)
    rw [List.append_assoc]
    exact ⟨sound', settled known⟩

end Course

open Recorded

end Session

end VehicleLink
