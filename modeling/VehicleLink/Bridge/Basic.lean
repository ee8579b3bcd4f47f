import VehicleLink.Bridge.View
import VehicleLink.Log
import VehicleLink.Web.Endpoint
import VehicleLink.Web.Failure

namespace VehicleLink

/-- The state of the bridge between the documents of a vehicle and its channels. -/
structure Bridge where
  units : Units
  vehicleType : VehicleType
  vin : String
  /-- The zone of local times, in seconds east of UTC. -/
  zone : Int
  /-- Whether lengths are shown in miles. -/
  imperial : Bool
  services : Browse ServiceEntry
  checks : Browse CheckMessage
  destinations : Browse Destination
  profile : Option ChargeProfile
  /-- The last answer to each request, or a report why there was none. -/
  answers : Endpoint → Option String

/-- What comes of a step of the bridge. -/
structure Outcome (α : Type) where
  bridge : Bridge
  events : List Event
  result : α

namespace Bridge

/-- The bridge before any answer. -/
def start (units : Units) (vehicleType : VehicleType) (vin : String) (zone : Int) : Bridge where
  units := units
  vehicleType := vehicleType
  vin := vin
  zone := zone
  imperial := units.imperialIn none
  services := {}
  checks := {}
  destinations := {}
  profile := none
  answers := fun _ => none

/-- How the vehicle is shown. -/
def display (b : Bridge) : Display := ⟨b.vehicleType, b.zone, b.imperial⟩

/-- Whether a request has been answered, be it by a failure. -/
def hasAnswer (b : Bridge) (e : Endpoint) : Bool := (b.answers e).isSome

/-- The bridge with the last answer to a request. -/
def remember (e : Endpoint) (text : String) (b : Bridge) : Bridge :=
  { b with answers := fun f => if f = e then some text else b.answers f }

/-- The services, one at a time. -/
def serviceView (b : Bridge) : List ChannelUpdate := VehicleLink.serviceView b.imperial b.services

/-- The check-control messages, one at a time. -/
def checkView (b : Bridge) : List ChannelUpdate := VehicleLink.checkView b.imperial b.checks

/-- The destinations, one at a time. -/
def destinationView (b : Bridge) : List ChannelUpdate := VehicleLink.destinationView b.destinations

/-- The charge profile that has a planner. -/
def loadedProfile? (b : Bridge) : Option ChargeProfile := b.profile.filter (!·.isEmpty)

/-- The charge profile. -/
def profileView (b : Bridge) : List ChannelUpdate :=
  match b.profile with
  | none => []
  | some p => VehicleLink.profileView p

end Bridge

/-- Channel states that are told. -/
def updates (view : List ChannelUpdate) : List Event := view.map .update

end VehicleLink
