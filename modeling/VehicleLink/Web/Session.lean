import VehicleLink.Log
import VehicleLink.Web.Failure
import VehicleLink.Web.Instant
import VehicleLink.Web.Request

namespace VehicleLink

/-- What a session needs of the world. -/
structure Wire (m : Type → Type) where
  /-- Sends a request; without an answer there is a text that says why. -/
  exchange : Request → m (Except String Reply)
  now : m Instant
  note : Note → m Unit

/-- A token and the instant at which it expires. -/
structure Token where
  bearer : String
  expiresAt : Instant
deriving DecidableEq, Repr

/-- The seconds before its expiry in which a token is not used any more. -/
def tokenMargin : Nat := 30

/-- Whether a token is not to be used any more, if the clock goes on for as long as the margin. -/
def Token.stale? (t : Token) (now : Instant) : Option Bool :=
  (now.secondsLater? tokenMargin).map fun limit => !limit.before t.expiresAt

/-- The answer to a request for a token. -/
structure Grant where
  accessToken : String
  /-- In seconds. -/
  expiresIn : Nat
deriving DecidableEq, Repr

/-- The shape of the answer. -/
def Grant.shape : Json.Shape := .record .closed [
  Json.neededField "access_token" .text, Json.neededField "expires_in" .natural]

/-- Reads the answer. -/
def Grant.ofText (s : String) : Except Json.Problem Grant :=
  (Json.read Grant.shape s).map fun v =>
    ⟨(v.textAt "access_token").getD "", ((v.wholeAt "expires_in").getD 0).toNat⟩

/-- A session: an account and the token that was granted last. -/
structure Session where
  account : Account
  token : Option Token
deriving DecidableEq, Repr

variable {m : Type → Type} [Monad m] [MonadExceptOf Overflow m]

/-- The token of a grant, from now on. -/
def Wire.accept (w : Wire m) (g : Grant) : m Token := do
  w.note ⟨.info, "Obtained ConnectedDrive token valid for " ++ Decimal.integerText g.expiresIn ++ "s"⟩
  let now ← w.now
  let expiresAt ← orOverflow (now.secondsLater? g.expiresIn)
  return ⟨g.accessToken, expiresAt⟩

/-- Asks for a token. -/
def Wire.requestToken (w : Wire m) (a : Account) : m (Except Failure Token) := do
  match ← w.exchange (.grant a) with
  | .error text => return .error (.transport text)
  | .ok reply =>
    if reply.succeeded then
      match Grant.ofText reply.body with
      | .error problem => return .error (.document problem)
      | .ok grant =>
        let token ← w.accept grant
        return .ok token
    else return .error (.refused (Failure.statusLine reply.status reply.body))

namespace Session

/-- Opens a session, which has a token from the beginning. -/
def login (w : Wire m) (a : Account) : m (Except Failure Session) := do
  match ← w.requestToken a with
  | .error f => return .error f
  | .ok token => return .ok ⟨a, some token⟩

/-- Whether a token has to be asked for: because that is demanded, because there is none, or because
the one there is stale. -/
def needsToken (w : Wire m) (forced : Bool) (s : Session) : m Bool := do
  if forced then return true
  else
    match s.token with
    | none => return true
    | some token =>
      let now ← w.now
      orOverflow (token.stale? now)

/-- The token to show, renewed where that is needed. -/
def bearer (w : Wire m) (forced : Bool) (s : Session) : m (Except Failure String × Session) := do
  if ← s.needsToken w forced then
    match ← w.requestToken s.account with
    | .error f => return (.error f, s)
    | .ok token => return (.ok token.bearer, { s with token := some token })
  else
    match s.token with
    | none => return (.error .missingToken, s)
    | some token => return (.ok token.bearer, s)

/-- Requests a document once, or sends one. Every answer counts, whatever its status. -/
def attempt (w : Wire m) (e : Endpoint) (payload : Option String) (forced : Bool) (s : Session) :
    m (Except Failure Reply × Session) := do
  match ← s.bearer w forced with
  | (.error f, s) => return (.error f, s)
  | (.ok bearer, s) =>
    match ← w.exchange (.vehicle s.account e payload bearer) with
    | .error text => return (.error (.transport text), s)
    | .ok reply => return (.ok reply, s)

/-- The status of an answer to a token that the server does not accept. -/
def unauthorized : Nat := 401

/-- The body of an answer of success. -/
def settle : Except Failure Reply → Except Failure String
  | .error f => .error f
  | .ok reply => if reply.succeeded then .ok reply.body else .error (.http reply.status reply.body)

/-- Requests a document, or sends one; a second time with a new token where the first token was not
accepted. -/
def request (w : Wire m) (e : Endpoint) (payload : Option String) (s : Session) :
    m (Except Failure String × Session) := do
  match ← s.attempt w e payload false with
  | (.error f, s) => return (.error f, s)
  | (.ok reply, s) =>
    if reply.status = unauthorized then
      let (last, s) ← s.attempt w e payload true
      return (settle last, s)
    else return (settle (.ok reply), s)

/-- Requests a document. -/
def fetch (w : Wire m) (e : Endpoint) (s : Session) : m (Except Failure String × Session) :=
  s.request w e none

/-- Sends a charge profile. -/
def sendProfile (w : Wire m) (payload : String) (s : Session) : m (Except Failure Unit × Session) := do
  let (result, s) ← s.request w .chargeProfile (some payload)
  return (result.map fun _ => (), s)

end Session

end VehicleLink
