import VehicleLink.Bridge.Basic

namespace VehicleLink

/-- What stands in place of a text that is not to be shown. -/
def anonymous : String := "anonymous"

/-- A position that does not say where the vehicle is. -/
def Position.masked (p : Position) : Position :=
  { p with latitude := some (-1.0), longitude := some (-1.0), heading := some (-1.0) }

/-- A status that does not say which vehicle it is of and where that is. -/
def VehicleStatus.masked (s : VehicleStatus) : VehicleStatus :=
  { s with vin := some anonymous, position := s.position.map Position.masked }

/-- A destination that does not say where it is. -/
def Destination.masked (d : Destination) : Destination :=
  { d with
    latitude := some 0.0
    longitude := some 0.0
    city := some anonymous
    street := some anonymous
    streetNumber := some anonymous
    country := some anonymous }

namespace Bridge

/-- A text without the vehicle's number. -/
def hideNumber (b : Bridge) (raw : String) : String :=
  if b.vin.isEmpty then raw else Text.replaceAll raw b.vin anonymous

/-- The answer to a request for the status, masked. One that is no status is only rid of the number. -/
def maskStatus (b : Bridge) (raw : String) : String :=
  match StatusDocument.ofText raw with
  | .error _ => b.hideNumber raw
  | .ok document =>
    StatusDocument.toJson ⟨document.status.map VehicleStatus.masked⟩ |>.toText

/-- The answer to a request for the destinations, masked. One that has none is only rid of the
number. -/
def maskDestinations (b : Bridge) (raw : String) : String :=
  match DestinationsDocument.ofText raw with
  | .error _ => b.hideNumber raw
  | .ok document =>
    DestinationsDocument.toJson ⟨document.destinations.map (·.map Destination.masked)⟩ |>.toText

/-- An answer as it may be shown. -/
def maskAnswer (b : Bridge) : Endpoint → String → String
  | .status => b.maskStatus
  | .destinations => b.maskDestinations
  | .lastTrip | .allTrips | .chargeProfile => b.hideNumber

/-- The title of the section of an answer. -/
def sectionTitle : Endpoint → String
  | .status => "Vehicle Status"
  | .lastTrip => "Last Trip"
  | .allTrips => "All Trips"
  | .chargeProfile => "Charge Profile"
  | .destinations => "Destinations"

/-- The answers that a fingerprint has a section for, in order. -/
def sections (b : Bridge) : List Endpoint :=
  [.status, .lastTrip, .allTrips] ++
    (if b.vehicleType.isElectric then [.chargeProfile] else []) ++ [.destinations]

/-- The section of an answer. -/
def sectionText (b : Bridge) (e : Endpoint) : List String :=
  match b.answers e with
  | some raw => ["### " ++ sectionTitle e ++ " ###", b.maskAnswer e raw]
  | none => ["### " ++ sectionTitle e ++ " Empty ###"]

/-- The first or the last line of a fingerprint. -/
def fingerprintFrame (word : String) : String :=
  "###### ConnectedDrive Vehicle Troubleshoot Fingerprint Data - " ++ word ++ " ######"

/-- The fingerprint of the vehicle: all answers in one text, to be shown to someone who helps. -/
def fingerprint (b : Bridge) : String :=
  "\n".intercalate (fingerprintFrame "BEGIN" :: b.sections.flatMap b.sectionText ++
    [fingerprintFrame "END"])

end Bridge

end VehicleLink
