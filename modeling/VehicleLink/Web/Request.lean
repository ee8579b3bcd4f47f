import VehicleLink.Text.FormEncoding
import VehicleLink.Web.Endpoint

namespace VehicleLink

/-- What a request asks for. -/
inductive Method where
  | get
  | post
deriving DecidableEq, Repr

/-- The name of a method. -/
def Method.name : Method → String
  | .get => "GET"
  | .post => "POST"

/-- A request to the server. -/
structure Request where
  method : Method
  url : String
  accept : String
  authorization : String
  contentType : Option String
  body : String
deriving DecidableEq, Repr

/-- Who asks, where, and about which vehicle. -/
structure Account where
  server : String
  username : String
  password : String
  /-- The credentials of the program itself, already encoded. -/
  clientAuth : String
  vin : String
deriving DecidableEq, Repr

/-- The kind of documents that are understood. -/
def jsonType : String := "application/json"

/-- What a token is asked for. -/
def grantScope : String := "authenticate_user vehicle_data remote_services"

/-- The request for a token. -/
def Request.grant (a : Account) : Request where
  method := .post
  url := "https://" ++ a.server ++ "/gcdm/oauth/token"
  accept := jsonType
  authorization := "Basic " ++ a.clientAuth
  contentType := some "application/x-www-form-urlencoded"
  body := Text.formEncode [
    ("grant_type", "password"),
    ("scope", grantScope),
    ("username", a.username),
    ("password", a.password)]

/-- The request for a document, or to replace it where there is a payload. -/
def Request.vehicle (a : Account) (e : Endpoint) (payload : Option String) (bearer : String) :
    Request where
  method := if payload.isSome then .post else .get
  url := e.url a.server a.vin
  accept := jsonType
  authorization := "Bearer " ++ bearer
  contentType := payload.map fun _ => jsonType
  body := payload.getD ""

/-- The answer to a request. -/
structure Reply where
  status : Nat
  body : String
deriving DecidableEq, Repr

/-- Whether an answer is one of success. -/
def Reply.succeeded (r : Reply) : Bool := 200 ≤ r.status && r.status < 300

/-- Whether a character may stand in a header: the printable ones of ASCII and the tab. -/
def isHeaderChar (c : Char) : Bool := (' ' ≤ c && c ≤ '~') || c = '\t'

/-- Whether a character may stand in an address as it is. -/
def isUrlChar (c : Char) : Bool := '!' ≤ c && c ≠ '<' && c ≠ '>' && c ≠ Char.ofNat 0x60

/-- Why a request cannot be sent as it is, if it cannot. -/
def Request.obstacle? (r : Request) : Option String :=
  if r.url.toList.any (!isUrlChar ·) then some "http: invalid uri character"
  else if r.authorization.toList.any (!isHeaderChar ·) then
    some "http: failed to parse header value"
  else none

/-- A header as it arrives: spaces and tabs at its ends are no part of it. -/
def arrivedHeader (s : String) : String :=
  let bare := fun cs : List Char => (cs.dropWhile fun c => c = ' ' ∨ c = '\t').reverse
  String.ofList (bare (bare s.toList))

/-- A request as it arrives. -/
def Request.arrived (r : Request) : Request :=
  { r with authorization := arrivedHeader r.authorization }

end VehicleLink
