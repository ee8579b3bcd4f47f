namespace VehicleLink

/-- A document of a vehicle. -/
inductive Endpoint where
  | status
  | chargeProfile
  | lastTrip
  | allTrips
  | destinations
deriving DecidableEq, Repr

namespace Endpoint

/-- All documents. -/
def all : List Endpoint := [.status, .chargeProfile, .lastTrip, .allTrips, .destinations]

/-- The path of a document below that of its vehicle. -/
def path : Endpoint → String
  | .status => "status"
  | .chargeProfile => "chargingprofile"
  | .lastTrip => "statistics/lastTrip"
  | .allTrips => "statistics/allTrips"
  | .destinations => "destinations"

/-- The document of a path. -/
def ofPath? (s : String) : Option Endpoint := all.find? fun e => e.path = s

/-- The address of a document. -/
def url (server vin : String) (e : Endpoint) : String :=
  "https://" ++ server ++ "/webapi/v1/user/vehicles/" ++ vin ++ "/" ++ e.path

end Endpoint

end VehicleLink
