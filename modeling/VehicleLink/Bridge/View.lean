import VehicleLink.Bridge.Browse
import VehicleLink.Bridge.Target
import VehicleLink.Report.Destinations
import VehicleLink.Report.Trips
import VehicleLink.Settings.Choice
import VehicleLink.Vehicle.Figure
import VehicleLink.Vehicle.Opening
import VehicleLink.Vehicle.Service

namespace VehicleLink

open Calendar (Moment)

/-- The state of a channel. -/
def ChannelUpdate.of (group : ChannelGroup) (id : String) (state : ChannelState) : ChannelUpdate :=
  ⟨⟨group, id⟩, state⟩

/-- A number that may be missing; then it is shown as -1. -/
def orMinusOne (x : Option Float) : Float := x.getD (-1.0)

/-- How a vehicle is shown. -/
structure Display where
  vehicleType : VehicleType
  /-- In seconds east of UTC. -/
  zone : Int
  imperial : Bool

/-- The unit in which lengths are shown. -/
def Display.length (d : Display) : MeasureUnit := .length d.imperial

/-- A text that is shown as words. -/
def words (s : Option String) : ChannelState := .text (Text.titleCase (s.getD unknownText))

/-- The text that is shown for the state of charging. A state that the vehicle does not have gives way
to the reason why charging ended last. -/
def VehicleStatus.chargingText (s : VehicleStatus) : Option String :=
  s.chargingStatus.map fun charging =>
    if Text.sameAscii charging absentPart then s.lastChargingEndReason.getD unknownText else charging

/-- The view of a status at a glance. -/
def statusView (d : Display) (now : Moment) (s : VehicleStatus) : List ChannelUpdate :=
  [.of .status "lock" (words s.doorLockState),
    .of .status "doors" (words (some s.doorState.name)),
    .of .status "windows" (words (some s.windowState.name)),
    .of .status "service-date" (.moment (momentText (s.nextServiceDate now))),
    .of .status "service-mileage"
      (.quantity (Figure.roundTenth (orMinusOne (s.nextServiceMileage.map Float.ofInt))) d.length),
    .of .status "check-control" (.text s.checkSummary),
    .of .status "last-update" (.moment (localTimestamp d.zone s.timestamp))] ++
  if d.vehicleType.isElectric then
    match s.chargingText with
    | some charging => [.of .status "charge" (words (some charging))]
    | none => []
  else []

/-- The view of a door or a window. -/
def partView (id : String) (report : Option String) : ChannelUpdate :=
  .of .doors id (.text (report.getD absentPart))

/-- The view of the doors and windows. -/
def openingView (s : VehicleStatus) : List ChannelUpdate := [
  partView "driver-front" s.doorDriverFront,
  partView "driver-rear" s.doorDriverRear,
  partView "passenger-front" s.doorPassengerFront,
  partView "passenger-rear" s.doorPassengerRear,
  partView "trunk" s.trunk,
  partView "hood" s.hood,
  partView "win-driver-front" s.windowDriverFront,
  partView "win-driver-rear" s.windowDriverRear,
  partView "win-passenger-front" s.windowPassengerFront,
  partView "win-passenger-rear" s.windowPassengerRear,
  partView "win-rear" s.rearWindow,
  partView "sunroof" s.sunroof]

/-- The range on electricity. -/
def VehicleStatus.electricRange (s : VehicleStatus) (imperial : Bool) : Float :=
  Figure.choose (s.remainingRangeElectric.getD 0.0) (s.remainingRangeElectricMiles.getD 0.0) imperial

/-- The range on fuel. -/
def VehicleStatus.fuelRange (s : VehicleStatus) (imperial : Bool) : Float :=
  Figure.choose (s.remainingRangeFuel.getD 0.0) (s.remainingRangeFuelMiles.getD 0.0) imperial

/-- The radius of a range, as it is shown. -/
def shownRadius (range : Float) : Float := Figure.roundTenth (Figure.radius range)

/-- The view of the range on electricity. -/
def electricView (d : Display) (s : VehicleStatus) : List ChannelUpdate :=
  let range := s.electricRange d.imperial
  [.of .range "electric" (.quantity range d.length),
    .of .range "radius-electric" (.quantity (shownRadius range) d.length),
    .of .range "soc" (.quantity (s.chargeLevel.getD 0.0) .percent)]

/-- The view of the range on fuel. -/
def fuelView (d : Display) (s : VehicleStatus) : List ChannelUpdate :=
  let range := s.fuelRange d.imperial
  [.of .range "fuel" (.quantity range d.length),
    .of .range "radius-fuel" (.quantity (shownRadius range) d.length),
    .of .range "remaining-fuel" (.quantity (s.remainingFuel.getD 0.0) .litre)]

/-- The view of the range on both. -/
def hybridView (d : Display) (s : VehicleStatus) : List ChannelUpdate :=
  let range := 0.0 + s.electricRange d.imperial + s.fuelRange d.imperial
  [.of .range "hybrid" (.quantity (Figure.roundTenth range) d.length),
    .of .range "radius-hybrid" (.quantity (shownRadius range) d.length)]

/-- The view of the distances of a vehicle. -/
def rangeView (d : Display) (s : VehicleStatus) : List ChannelUpdate :=
  [.of .range "mileage" (.quantity (Float.ofInt (s.mileage.getD 0)) d.length)] ++
  (if d.vehicleType.isElectric then electricView d s else []) ++
  (if d.vehicleType.hasFuel then fuelView d s else []) ++
  (if d.vehicleType.isHybrid then hybridView d s else [])

/-- The view of where a vehicle stands. -/
def positionView (p : Position) : List ChannelUpdate :=
  let latitude := orMinusOne p.latitude
  let longitude := orMinusOne p.longitude
  [.of .location "latitude" (.decimal latitude),
    .of .location "longitude" (.decimal longitude),
    .of .location "latlong" (.point latitude longitude),
    .of .location "heading" (.quantity (orMinusOne p.heading) .degree)]

/-- The view of the last trip. -/
def lastTripView (t : LastTrip) : List ChannelUpdate :=
  let rounded := fun x => Figure.roundTenth (orMinusOne x)
  [.of .lastTrip "date" (.moment ((t.date.map tripTimestamp).getD nullDate)),
    .of .lastTrip "duration" (.quantity (orMinusOne t.duration) .minute),
    .of .lastTrip "distance" (.quantity (rounded t.totalDistance) .kilometre),
    .of .lastTrip "average-consumption" (.quantity (rounded t.avgElectricConsumption) .kilowattHour),
    .of .lastTrip "average-combined-consumption"
      (.quantity (orMinusOne t.avgCombinedConsumption) .litre),
    .of .lastTrip "average-recuperation" (.quantity (rounded t.avgRecuperation) .kilowattHour)]

/-- The view of all trips. -/
def allTripsView (t : AllTrips) : List ChannelUpdate :=
  let rounded := fun x => Figure.roundTenth (orMinusOne x)
  let average := fun x : Option CommunityValue => x.bind CommunityValue.userAverage
  [.of .lifetime "cumulated-driven-distance"
      (.quantity (rounded (t.totalElectricDistance.bind CommunityDistance.userTotal)) .kilometre),
    .of .lifetime "single-longest-distance"
      (.quantity (rounded (t.chargeCycleRange.bind CommunityRange.userHigh)) .kilometre),
    .of .lifetime "average-consumption"
      (.quantity (rounded (average t.avgElectricConsumption)) .kilowattHour),
    .of .lifetime "average-combined-consumption"
      (.quantity (orMinusOne (average t.avgCombinedConsumption)) .litre),
    .of .lifetime "average-recuperation"
      (.quantity (rounded (average t.avgRecuperation)) .kilowattHour),
    .of .lastTrip "distance-since-charging"
      (.quantity (rounded (t.chargeCycleRange.bind CommunityRange.userCurrentChargeCycle)) .kilometre)]

/-- How many entries a list has and which one is shown; -1 where there is none. -/
def cursorView {α : Type} (group : ChannelGroup) (l : Browse α) : List ChannelUpdate := [
  .of group "size" (.decimal (Float.ofNat l.items.length)),
  .of group "index" (.decimal (orMinusOne (l.current?.map fun (i, _) => Float.ofNat i)))]

/-- The view of the services, one at a time. -/
def serviceView (imperial : Bool) (l : Browse ServiceEntry) : List ChannelUpdate :=
  let entry := l.current?.map Prod.snd
  let name := match entry with
    | some e => words e.kind
    | none => .text absentPart
  let mileage := (entry.bind ServiceEntry.remainingMileage).map Float.ofInt
  [.of .service "name" name,
    .of .service "date" (.moment (momentText (entry.bind ServiceEntry.dueMoment?))),
    .of .service "mileage"
      (.quantity (Figure.roundTenth (orMinusOne mileage)) (.length imperial))] ++
  cursorView .service l

/-- The view of the check-control messages, one at a time. -/
def checkView (imperial : Bool) (l : Browse CheckMessage) : List ChannelUpdate :=
  let entry := l.current?.map Prod.snd
  let mileage := (entry.bind CheckMessage.mileage).map Float.ofInt
  [.of .check "name" (.text ((entry.bind CheckMessage.short).getD absentPart)),
    .of .check "mileage"
      (.quantity (Figure.roundTenth (orMinusOne mileage)) (.length imperial))] ++
  cursorView .check l

/-- The view of the destinations, one at a time. -/
def destinationView (l : Browse Destination) : List ChannelUpdate :=
  let entry := l.current?.map Prod.snd
  [.of .destination "name" (.text ((entry.map Destination.address).getD absentPart)),
    .of .destination "latitude" (.decimal (orMinusOne (entry.bind Destination.latitude))),
    .of .destination "longitude" (.decimal (orMinusOne (entry.bind Destination.longitude)))] ++
  cursorView .destination l

/-- The view of a charge profile. -/
def profileView (p : ChargeProfile) : List ChannelUpdate :=
  if p.isEmpty then []
  else ChargeTarget.readable.filterMap fun t => (t.state? p).map (.of .charge t.id)

end VehicleLink
