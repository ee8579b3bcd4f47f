import VehicleLink.Json.Shape

namespace VehicleLink

open Json (field)

/-- The statistics of the last trip. -/
structure LastTrip where
  efficiencyValue : Option Float := none
  totalDistance : Option Float := none
  electricDistance : Option Float := none
  avgElectricConsumption : Option Float := none
  avgRecuperation : Option Float := none
  drivingModeValue : Option Float := none
  accelerationValue : Option Float := none
  anticipationValue : Option Float := none
  totalConsumptionValue : Option Float := none
  auxiliaryConsumptionValue : Option Float := none
  avgCombinedConsumption : Option Float := none
  electricDistanceRatio : Option Float := none
  savedFuel : Option Float := none
  /-- Local time without an offset, such as `2020-08-24T17:55:00`. -/
  date : Option String := none
  /-- In minutes. -/
  duration : Option Float := none
deriving Inhabited

/-- The declared members. -/
def LastTrip.fields : Json.Fields := [
  field "efficiencyValue" .real, field "totalDistance" .real, field "electricDistance" .real,
  field "avgElectricConsumption" .real, field "avgRecuperation" .real,
  field "drivingModeValue" .real, field "accelerationValue" .real,
  field "anticipationValue" .real, field "totalConsumptionValue" .real,
  field "auxiliaryConsumptionValue" .real, field "avgCombinedConsumption" .real,
  field "electricDistanceRatio" .real, field "savedFuel" .real, field "date" .text,
  field "duration" .real]

/-- The shape of the document. -/
def LastTrip.shape : Json.Shape := .record .closed LastTrip.fields

/-- The record that a document in normal form holds. -/
def LastTrip.ofJson (v : Json) : LastTrip where
  efficiencyValue := v.realAt "efficiencyValue"
  totalDistance := v.realAt "totalDistance"
  electricDistance := v.realAt "electricDistance"
  avgElectricConsumption := v.realAt "avgElectricConsumption"
  avgRecuperation := v.realAt "avgRecuperation"
  drivingModeValue := v.realAt "drivingModeValue"
  accelerationValue := v.realAt "accelerationValue"
  anticipationValue := v.realAt "anticipationValue"
  totalConsumptionValue := v.realAt "totalConsumptionValue"
  auxiliaryConsumptionValue := v.realAt "auxiliaryConsumptionValue"
  avgCombinedConsumption := v.realAt "avgCombinedConsumption"
  electricDistanceRatio := v.realAt "electricDistanceRatio"
  savedFuel := v.realAt "savedFuel"
  date := v.textAt "date"
  duration := v.realAt "duration"

/-- The document of a record, in normal form. -/
def LastTrip.toJson (r : LastTrip) : Json := .object [
  ("efficiencyValue", .ofOption .real r.efficiencyValue),
  ("totalDistance", .ofOption .real r.totalDistance),
  ("electricDistance", .ofOption .real r.electricDistance),
  ("avgElectricConsumption", .ofOption .real r.avgElectricConsumption),
  ("avgRecuperation", .ofOption .real r.avgRecuperation),
  ("drivingModeValue", .ofOption .real r.drivingModeValue),
  ("accelerationValue", .ofOption .real r.accelerationValue),
  ("anticipationValue", .ofOption .real r.anticipationValue),
  ("totalConsumptionValue", .ofOption .real r.totalConsumptionValue),
  ("auxiliaryConsumptionValue", .ofOption .real r.auxiliaryConsumptionValue),
  ("avgCombinedConsumption", .ofOption .real r.avgCombinedConsumption),
  ("electricDistanceRatio", .ofOption .real r.electricDistanceRatio),
  ("savedFuel", .ofOption .real r.savedFuel),
  ("date", .ofOption .text r.date),
  ("duration", .ofOption .real r.duration)]

/-- The answer to a request for the last trip. -/
structure LastTripDocument where
  lastTrip : Option LastTrip := none
deriving Inhabited

/-- The declared members. -/
def LastTripDocument.fields : Json.Fields := [
  field "lastTrip" LastTrip.shape]

/-- The shape of the document. -/
def LastTripDocument.shape : Json.Shape := .record .closed LastTripDocument.fields

/-- The record that a document in normal form holds. -/
def LastTripDocument.ofJson (v : Json) : LastTripDocument where
  lastTrip := v.recordAt LastTrip.ofJson "lastTrip"

/-- Reads the body of an answer. -/
def LastTripDocument.ofText (body : String) : Except Json.Problem LastTripDocument :=
  (Json.read LastTripDocument.shape body).map LastTripDocument.ofJson

/-- The document of a record, in normal form. -/
def LastTripDocument.toJson (r : LastTripDocument) : Json := .object [
  ("lastTrip", .ofOption LastTrip.toJson r.lastTrip)]

/-- A value for the user beside those of the community. -/
structure CommunityValue where
  communityLow : Option Float := none
  communityAverage : Option Float := none
  communityHigh : Option Float := none
  userAverage : Option Float := none
deriving Inhabited

/-- The declared members. -/
def CommunityValue.fields : Json.Fields := [
  field "communityLow" .real, field "communityAverage" .real, field "communityHigh" .real,
  field "userAverage" .real]

/-- The shape of the document. -/
def CommunityValue.shape : Json.Shape := .record .closed CommunityValue.fields

/-- The record that a document in normal form holds. -/
def CommunityValue.ofJson (v : Json) : CommunityValue where
  communityLow := v.realAt "communityLow"
  communityAverage := v.realAt "communityAverage"
  communityHigh := v.realAt "communityHigh"
  userAverage := v.realAt "userAverage"

/-- The document of a record, in normal form. -/
def CommunityValue.toJson (r : CommunityValue) : Json := .object [
  ("communityLow", .ofOption .real r.communityLow),
  ("communityAverage", .ofOption .real r.communityAverage),
  ("communityHigh", .ofOption .real r.communityHigh),
  ("userAverage", .ofOption .real r.userAverage)]

/-- The range of a charge for the user beside those of the community. -/
structure CommunityRange where
  communityAverage : Option Float := none
  communityHigh : Option Float := none
  userAverage : Option Float := none
  userHigh : Option Float := none
  userCurrentChargeCycle : Option Float := none
deriving Inhabited

/-- The declared members. -/
def CommunityRange.fields : Json.Fields := [
  field "communityAverage" .real, field "communityHigh" .real, field "userAverage" .real,
  field "userHigh" .real, field "userCurrentChargeCycle" .real]

/-- The shape of the document. -/
def CommunityRange.shape : Json.Shape := .record .closed CommunityRange.fields

/-- The record that a document in normal form holds. -/
def CommunityRange.ofJson (v : Json) : CommunityRange where
  communityAverage := v.realAt "communityAverage"
  communityHigh := v.realAt "communityHigh"
  userAverage := v.realAt "userAverage"
  userHigh := v.realAt "userHigh"
  userCurrentChargeCycle := v.realAt "userCurrentChargeCycle"

/-- The document of a record, in normal form. -/
def CommunityRange.toJson (r : CommunityRange) : Json := .object [
  ("communityAverage", .ofOption .real r.communityAverage),
  ("communityHigh", .ofOption .real r.communityHigh),
  ("userAverage", .ofOption .real r.userAverage),
  ("userHigh", .ofOption .real r.userHigh),
  ("userCurrentChargeCycle", .ofOption .real r.userCurrentChargeCycle)]

/-- The distance driven by the user beside those of the community. -/
structure CommunityDistance where
  communityLow : Option Float := none
  communityAverage : Option Float := none
  communityHigh : Option Float := none
  userTotal : Option Float := none
deriving Inhabited

/-- The declared members. -/
def CommunityDistance.fields : Json.Fields := [
  field "communityLow" .real, field "communityAverage" .real, field "communityHigh" .real,
  field "userTotal" .real]

/-- The shape of the document. -/
def CommunityDistance.shape : Json.Shape := .record .closed CommunityDistance.fields

/-- The record that a document in normal form holds. -/
def CommunityDistance.ofJson (v : Json) : CommunityDistance where
  communityLow := v.realAt "communityLow"
  communityAverage := v.realAt "communityAverage"
  communityHigh := v.realAt "communityHigh"
  userTotal := v.realAt "userTotal"

/-- The document of a record, in normal form. -/
def CommunityDistance.toJson (r : CommunityDistance) : Json := .object [
  ("communityLow", .ofOption .real r.communityLow),
  ("communityAverage", .ofOption .real r.communityAverage),
  ("communityHigh", .ofOption .real r.communityHigh),
  ("userTotal", .ofOption .real r.userTotal)]

/-- The statistics of all trips. -/
structure AllTrips where
  avgElectricConsumption : Option CommunityValue := none
  avgRecuperation : Option CommunityValue := none
  chargeCycleRange : Option CommunityRange := none
  totalElectricDistance : Option CommunityDistance := none
  avgCombinedConsumption : Option CommunityValue := none
  savedDistance : Option Float := none
  resetDate : Option String := none
  batterySizeMax : Option Float := none
deriving Inhabited

/-- The declared members. -/
def AllTrips.fields : Json.Fields := [
  field "avgElectricConsumption" CommunityValue.shape,
  field "avgRecuperation" CommunityValue.shape, field "chargecycleRange" CommunityRange.shape,
  field "totalElectricDistance" CommunityDistance.shape,
  field "avgCombinedConsumption" CommunityValue.shape,
  field "savingCumulatedElectricDrivenDistance" .real, field "resetDate" .text,
  field "batterySizeMax" .real]

/-- The shape of the document. -/
def AllTrips.shape : Json.Shape := .record .closed AllTrips.fields

/-- The record that a document in normal form holds. -/
def AllTrips.ofJson (v : Json) : AllTrips where
  avgElectricConsumption := v.recordAt CommunityValue.ofJson "avgElectricConsumption"
  avgRecuperation := v.recordAt CommunityValue.ofJson "avgRecuperation"
  chargeCycleRange := v.recordAt CommunityRange.ofJson "chargecycleRange"
  totalElectricDistance := v.recordAt CommunityDistance.ofJson "totalElectricDistance"
  avgCombinedConsumption := v.recordAt CommunityValue.ofJson "avgCombinedConsumption"
  savedDistance := v.realAt "savingCumulatedElectricDrivenDistance"
  resetDate := v.textAt "resetDate"
  batterySizeMax := v.realAt "batterySizeMax"

/-- The document of a record, in normal form. -/
def AllTrips.toJson (r : AllTrips) : Json := .object [
  ("avgElectricConsumption", .ofOption CommunityValue.toJson r.avgElectricConsumption),
  ("avgRecuperation", .ofOption CommunityValue.toJson r.avgRecuperation),
  ("chargecycleRange", .ofOption CommunityRange.toJson r.chargeCycleRange),
  ("totalElectricDistance", .ofOption CommunityDistance.toJson r.totalElectricDistance),
  ("avgCombinedConsumption", .ofOption CommunityValue.toJson r.avgCombinedConsumption),
  ("savingCumulatedElectricDrivenDistance", .ofOption .real r.savedDistance),
  ("resetDate", .ofOption .text r.resetDate),
  ("batterySizeMax", .ofOption .real r.batterySizeMax)]

/-- The answer to a request for all trips. -/
structure AllTripsDocument where
  allTrips : Option AllTrips := none
deriving Inhabited

/-- The declared members. -/
def AllTripsDocument.fields : Json.Fields := [
  field "allTrips" AllTrips.shape]

/-- The shape of the document. -/
def AllTripsDocument.shape : Json.Shape := .record .closed AllTripsDocument.fields

/-- The record that a document in normal form holds. -/
def AllTripsDocument.ofJson (v : Json) : AllTripsDocument where
  allTrips := v.recordAt AllTrips.ofJson "allTrips"

/-- Reads the body of an answer. -/
def AllTripsDocument.ofText (body : String) : Except Json.Problem AllTripsDocument :=
  (Json.read AllTripsDocument.shape body).map AllTripsDocument.ofJson

/-- The document of a record, in normal form. -/
def AllTripsDocument.toJson (r : AllTripsDocument) : Json := .object [
  ("allTrips", .ofOption AllTrips.toJson r.allTrips)]

end VehicleLink
