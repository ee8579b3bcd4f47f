import VehicleLink.Proofs.Json.Closed
import VehicleLink.Proofs.Web.Courses

namespace VehicleLink

open Json

namespace Grant

/-- A grant as a document. -/
def toJson (g : Grant) : Json :=
  .object [("access_token", .text g.accessToken), ("expires_in", .whole g.expiresIn)]

theorem shape_closed : Grant.shape.Closed := by
  refine .record (by simp [neededField]) fun f declared => ?_
  simp only [neededField, List.mem_cons, List.not_mem_nil, or_false] at declared
  rcases declared with rfl | rfl
  · exact .text
  · exact .whole (by decide) (by decide)

/-- Every number of 64 bits can be granted. -/
theorem ofText_toText {g : Grant} (small : g.expiresIn ≤ Decimal.max64) : Grant.ofText g.toJson.toText = .ok g := by
  let value : String → Json := fun key => if key = "access_token" then .text g.accessToken else .whole g.expiresIn
  have filled : Filled depthLimit .required Grant.shape g.toJson := by
    refine @Filled.record 126 .required _ value fun f declared => ?_
    simp only [neededField, List.mem_cons, List.not_mem_nil, or_false] at declared
    rcases declared with rfl | rfl
    · exact .text g.accessToken
    · exact .whole ⟨by omega, by simpa [Decimal.max64] using Int.ofNat_le.mpr small⟩
  have read : Json.read Grant.shape g.toJson.toText = .ok g.toJson := by
    refine read_toText shape_closed filled fun x part => ?_
    simp only [toJson, parts, partsOfMembers, List.append_nil, List.cons_append, List.nil_append, List.mem_cons,
      List.not_mem_nil, or_false] at part
    rcases part with wrong | wrong | wrong <;> cases wrong
  rw [Grant.ofText, read]
  rfl

end Grant

/-- In the last half minute of the clock it cannot be told whether a token is stale. -/
theorem Token.stale?_eq_none_iff {token : Token} {now : Instant} :
    token.stale? now = none ↔ clockEnd ≤ now.nanoseconds + tokenMargin * secondLength := by
  rw [Token.stale?, Option.map_eq_none_iff, Instant.secondsLater?_eq_none_iff]

open Recorded

namespace Outside

variable (o : Outside)

theorem accept_perform (grant : Grant) (before : Transcript) :
    (o.wire.accept grant).perform before =
      (match (o.clock before).secondsLater? grant.expiresIn with
        | some expiresAt => .ok ⟨grant.accessToken, expiresAt⟩
        | none => .error Overflow.mk, .looked (o.clock before) :: before) := by
  have shown : (o.wire.accept grant).perform before =
      ((orOverflow ((o.clock before).secondsLater? grant.expiresIn) >>= fun expiresAt =>
        pure ⟨grant.accessToken, expiresAt⟩ : Recorded Token)).perform (.looked (o.clock before) :: before) := rfl
  rw [shown]
  cases (o.clock before).secondsLater? grant.expiresIn <;> rfl

section Granted

variable (a : Account) (before : Transcript) {reply : Reply} {grant : Grant}
  (answered : o.answer before (.grant a) = .ok reply) (succeeded : reply.succeeded = true)
  (read : Grant.ofText reply.body = .ok grant)
include answered succeeded read

theorem requestToken_perform : ((o.wire.requestToken a).perform before).1 =
    match (o.clock (.exchanged (.grant a) (.ok reply) :: before)).secondsLater? grant.expiresIn with
    | some expiresAt => .ok (.ok ⟨grant.accessToken, expiresAt⟩)
    | none => .error Overflow.mk := by
  have exchanged : (o.wire.exchange (.grant a)).perform before =
      (.ok (.ok reply), .exchanged (.grant a) (.ok reply) :: before) := by
    rw [← answered]
    rfl
  rw [Wire.requestToken, perform_bind, exchanged]
  simp only [succeeded, if_true, read]
  rw [perform_bind, accept_perform]
  cases (o.clock (.exchanged (.grant a) (.ok reply) :: before)).secondsLater? grant.expiresIn <;> rfl

theorem requestToken_endless (passed : clockEnd ≤
    (o.clock (.exchanged (.grant a) (.ok reply) :: before)).nanoseconds + grant.expiresIn * secondLength) :
    ((o.wire.requestToken a).perform before).1 = .error Overflow.mk := by
  rw [o.requestToken_perform a before answered succeeded read, Instant.secondsLater?_eq_none_iff.mpr passed]

theorem requestToken_granted (reached :
    (o.clock (.exchanged (.grant a) (.ok reply) :: before)).nanoseconds + grant.expiresIn * secondLength < clockEnd) :
    ((o.wire.requestToken a).perform before).1 = .ok (.ok ⟨grant.accessToken,
      ⟨(o.clock (.exchanged (.grant a) (.ok reply) :: before)).nanoseconds + grant.expiresIn * secondLength⟩⟩) := by
  rw [o.requestToken_perform a before answered succeeded read,
    Instant.secondsLater?_eq_some_iff.mpr ⟨rfl, reached⟩]

end Granted

/-- The server grants a token for any number of seconds of 64 bits. Asking for it runs over exactly if the token
would expire behind the end of the clock, and gives the token otherwise. Whether the token is stale can be told until
half a minute before the end of the clock: it is from half a minute before its expiry on. -/
theorem token_lifetime (a : Account) (before : Transcript) {reply : Reply} {grant : Grant}
    (answered : o.answer before (.grant a) = .ok reply) (succeeded : reply.succeeded = true)
    (read : Grant.ofText reply.body = .ok grant) :
    let now := o.clock (.exchanged (.grant a) (.ok reply) :: before)
    let expiry := now.nanoseconds + grant.expiresIn * secondLength
    let result := ((o.wire.requestToken a).perform before).1
    (result = .error Overflow.mk ↔ clockEnd ≤ expiry) ∧
    (expiry < clockEnd → result = .ok (.ok ⟨grant.accessToken, ⟨expiry⟩⟩)) ∧
    ∀ token, result = .ok (.ok token) → ∀ later : Instant,
      (token.stale? later = none ↔ clockEnd ≤ later.nanoseconds + 30 * secondLength) ∧
      ∀ stale, token.stale? later = some stale →
        (stale = true ↔ expiry - 30 * secondLength ≤ later.nanoseconds) := by
  intro now expiry result
  have endless (passed : clockEnd ≤ expiry) : result = .error Overflow.mk :=
    o.requestToken_endless a before answered succeeded read passed
  have lasts (reached : expiry < clockEnd) : result = .ok (.ok ⟨grant.accessToken, ⟨expiry⟩⟩) :=
    o.requestToken_granted a before answered succeeded read reached
  have known {token : Token} (granted : result = .ok (.ok token)) : token.expiresAt.nanoseconds = expiry := by
    rcases Int.lt_or_le expiry clockEnd with reached | passed
    · cases (lasts reached).symm.trans granted
      rfl
    · cases (endless passed).symm.trans granted
  refine ⟨⟨fun overrun => ?_, endless⟩, lasts, fun token granted later =>
    ⟨Token.stale?_eq_none_iff, fun stale told => ?_⟩⟩
  · rcases Int.lt_or_le expiry clockEnd with reached | passed
    · cases (lasts reached).symm.trans overrun
    · exact passed
  · rw [Token.stale?_eq_some told, Token.Stale, known granted]
    simp only [tokenMargin]
    omega

/-- A server that grants what it is told to, while the clock stands still. -/
def granting (grant : Grant) (now : Instant) : Outside where
  answer _ _ := .ok ⟨200, grant.toJson.toText⟩
  clock _ := now

/-- A token for an hour is stale half a minute before its expiry, and not a nanosecond earlier. -/
theorem token_lifetime_sample :
    let account : Account := ⟨"server", "user", "password", "client", "vin"⟩
    let token : Token := ⟨"first", ⟨3600000000005⟩⟩
    (((granting ⟨"first", 3600⟩ ⟨5⟩).wire.requestToken account).perform []).1 = .ok (.ok token) ∧
      (∀ stale, token.stale? ⟨3570000000005⟩ = some stale → stale = true) ∧
      (∀ stale, token.stale? ⟨3570000000004⟩ = some stale → stale = false) ∧
      token.stale? ⟨3570000000004⟩ ≠ none := by
  intro account token
  have read : Grant.ofText (Grant.toJson ⟨"first", 3600⟩).toText = .ok ⟨"first", 3600⟩ :=
    Grant.ofText_toText (by decide)
  obtain ⟨_, lasts, tells⟩ := token_lifetime (granting ⟨"first", 3600⟩ ⟨5⟩) account [] rfl (by decide) read
  have granted := lasts (by decide)
  have at_margin := tells token granted ⟨3570000000005⟩
  have before_margin := tells token granted ⟨3570000000004⟩
  refine ⟨granted, fun stale known => ?_, fun stale known => ?_, fun wrong => ?_⟩
  · exact (at_margin.2 stale known).mpr (by decide)
  · exact Bool.eq_false_iff.mpr fun wrong => absurd ((before_margin.2 stale known).mp wrong) (by decide)
  · exact absurd (before_margin.1.mp wrong) (by decide)

/-- Asking for a token runs over where the server grants the longest time there is. Of a token that expires a second
before the end of the clock it cannot be told in the last half minute whether it is stale. -/
theorem token_overflows :
    let account : Account := ⟨"server", "user", "password", "client", "vin"⟩
    (((granting ⟨"first", Decimal.max64⟩ ⟨0⟩).wire.requestToken account).perform []).1 = .error Overflow.mk ∧
      ∃ token, (((granting ⟨"first", 1800⟩ ⟨clockEnd - 1801 * secondLength⟩).wire.requestToken account).perform []).1 =
          .ok (.ok token) ∧
        token.stale? ⟨clockEnd - 30 * secondLength⟩ = none := by
  intro account
  have longest : Grant.ofText (Grant.toJson ⟨"first", Decimal.max64⟩).toText = .ok ⟨"first", Decimal.max64⟩ :=
    Grant.ofText_toText (by decide)
  have usual : Grant.ofText (Grant.toJson ⟨"first", 1800⟩).toText = .ok ⟨"first", 1800⟩ :=
    Grant.ofText_toText (by decide)
  have runs_over := requestToken_endless (granting ⟨"first", Decimal.max64⟩ ⟨0⟩) account [] rfl (by decide) longest
    (by decide)
  have granted := requestToken_granted (granting ⟨"first", 1800⟩ ⟨clockEnd - 1801 * secondLength⟩) account [] rfl
    (by decide) usual (by decide)
  exact ⟨runs_over, _, granted, by decide⟩

end Outside

end VehicleLink
