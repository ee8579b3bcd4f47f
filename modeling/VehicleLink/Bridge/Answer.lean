import VehicleLink.Bridge.Basic

namespace VehicleLink

/-- What is wrong with a charge profile, in words. -/
def ProfileProblem.message : ProfileProblem → String
  | .document flaw => "charge profile parse failed at " ++ (Json.Problem.flaw flaw).message
  | .notAnObject => "charge profile is not a JSON object"
  | .planner key problem => key ++ " malformed at " ++ problem.message

namespace Bridge

/-- The switch to another unit system, where there is one. -/
def unitSwitch (country : Option String) (old new : Bool) : List Event :=
  if old = new then []
  else [.inform ("Vehicle country " ++ Text.quotedOption country ++ ": switching to imperial=" ++
    if new then "true" else "false")]

/-- Takes a status in: the unit system, the services and the check-control messages are those of the
status from now on. -/
def takeStatus (now : Calendar.Moment) (s : VehicleStatus) (b : Bridge) : Bridge × List Event :=
  let imperial :=
    if b.units = .autodetect then b.units.imperialIn s.vehicleCountry else b.imperial
  let next : Bridge :=
    { b with
      imperial := imperial
      services := (b.services.replace s.serviceList).settle
      checks := (b.checks.replace s.checkList).settle }
  let d := next.display
  (next, unitSwitch s.vehicleCountry b.imperial imperial ++ updates
    (statusView d now s ++ openingView s ++ rangeView d s ++
      (s.position.map positionView).getD [] ++ next.serviceView ++ next.checkView))

/-- Takes the destinations in. -/
def takeDestinations (items : List Destination) (b : Bridge) : Bridge × List Event :=
  let next := { b with destinations := (b.destinations.replace items).settle }
  (next, updates next.destinationView)

/-- Takes a charge profile in: it is the one to be edited from now on. -/
def takeProfile (p : ChargeProfile) (b : Bridge) : Bridge × List Event :=
  let next := { b with profile := some p }
  (next, updates next.profileView)

/-- What comes of a document that was read, or could not be read. -/
def readWith {α : Type} (b : Bridge) (read : Except Json.Problem α)
    (take : α → Bridge × List Event) : Outcome (Except Failure Unit) :=
  match read with
  | .error problem => ⟨b, [], .error (.document problem)⟩
  | .ok document =>
    let (next, events) := take document
    ⟨next, events, .ok ()⟩

/-- Takes in what an answer contains. -/
def takeAnswer (now : Calendar.Moment) (e : Endpoint) (body : String) (b : Bridge) :
    Outcome (Except Failure Unit) :=
  match e with
  | .status => b.readWith (StatusDocument.ofText body) fun document =>
    match document.status with
    | some s => b.takeStatus now s
    | none => (b, [.warn "Status response without vehicleStatus"])
  | .lastTrip => b.readWith (LastTripDocument.ofText body) fun document =>
    (b, updates ((document.lastTrip.map lastTripView).getD []))
  | .allTrips => b.readWith (AllTripsDocument.ofText body) fun document =>
    (b, updates ((document.allTrips.map allTripsView).getD []))
  | .destinations => b.readWith (DestinationsDocument.ofText body) fun document =>
    b.takeDestinations (document.destinations.getD [])
  | .chargeProfile =>
    match ChargeProfile.ofText body with
    | .ok p =>
      let (next, events) := b.takeProfile p
      ⟨next, events, .ok ()⟩
    | .error problem => ⟨b, [.warn ("Charge profile not usable: " ++ problem.message)], .ok ()⟩

/-- Handles an answer, at a moment in UTC: it is kept as it came, and then taken in. -/
def answer (now : Calendar.Moment) (e : Endpoint) (body : String) (b : Bridge) :
    Outcome (Except Failure Unit) :=
  (b.remember e body).takeAnswer now e body

/-- The report that is kept in place of an answer. -/
def failureReport (e : Endpoint) (f : Failure) : Json := .object [
  ("endpoint", .text e.path),
  ("reason", .text f.message),
  ("status", .ofOption (fun n : Nat => .whole n) f.status?)]

/-- Handles a failure. -/
def fail (e : Endpoint) (f : Failure) (b : Bridge) : Bridge :=
  b.remember e (failureReport e f).toText

end Bridge

end VehicleLink
