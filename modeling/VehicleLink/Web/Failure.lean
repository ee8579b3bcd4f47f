import VehicleLink.Json.Shape

namespace VehicleLink

/-- Why a document could not be had. -/
inductive Failure where
  /-- There is no token to show. -/
  | missingToken
  /-- No answer came. -/
  | transport (text : String)
  /-- The server answered with another status than success. -/
  | http (status : Nat) (body : String)
  /-- The answer does not have its shape. -/
  | document (problem : Json.Problem)
  /-- The server did not grant a token. -/
  | refused (text : String)

/-- The place of a problem in a document. -/
def Json.Problem.place : Json.Problem → String
  | .flaw _ => Json.pathText []
  | .mismatch path => Json.pathText path

/-- What is wrong with a document. -/
def Json.Problem.reason : Json.Problem → String
  | .flaw .ended => "unexpected end of the text"
  | .flaw .malformed => "malformed text"
  | .mismatch _ => "unexpected value"

/-- The place of a problem and what is wrong there. -/
def Json.Problem.message (p : Json.Problem) : String := p.place ++ ": " ++ p.reason

namespace Failure

/-- The status of the answer, if there was one and it is the reason. -/
def status? : Failure → Option Nat
  | .http status _ => some status
  | _ => none

/-- A status and the text that came with it. -/
def statusLine (status : Nat) (body : String) : String :=
  "http " ++ Decimal.integerText status ++ ": " ++ body

/-- The failure in words. -/
def message : Failure → String
  | .missingToken => "missing bearer token for authenticated endpoint"
  | .transport text => "transport error: " ++ text
  | .http status body => statusLine status body
  | .document problem => "json error at " ++ problem.message
  | .refused text => "auth error: " ++ text

/-- Whether the vehicle refused a document, rather than failing to give it. -/
def unsupported (f : Failure) : Bool := f.status? = some 403 || f.status? = some 404

end Failure

end VehicleLink
