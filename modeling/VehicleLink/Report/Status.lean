import VehicleLink.Json.Shape

namespace VehicleLink

open Json (field)

/-- A service that falls due at a date or after a distance. -/
structure ServiceEntry where
  kind : Option String := none
  state : Option String := none
  /-- A year and a month, such as `2021-11`. -/
  dueDate : Option String := none
  description : Option String := none
  /-- Zero where the service is not due after a distance. -/
  remainingMileage : Option Int := none
deriving Inhabited

/-- The declared members. -/
def ServiceEntry.fields : Json.Fields := [
  field "cbsType" .text, field "cbsState" .text, field "cbsDueDate" .text,
  field "cbsDescription" .text, field "cbsRemainingMileage" .integer]

/-- The shape of the document. -/
def ServiceEntry.shape : Json.Shape := .record .closed ServiceEntry.fields

/-- The record that a document in normal form holds. -/
def ServiceEntry.ofJson (v : Json) : ServiceEntry where
  kind := v.textAt "cbsType"
  state := v.textAt "cbsState"
  dueDate := v.textAt "cbsDueDate"
  description := v.textAt "cbsDescription"
  remainingMileage := v.wholeAt "cbsRemainingMileage"

/-- The document of a record, in normal form. -/
def ServiceEntry.toJson (r : ServiceEntry) : Json := .object [
  ("cbsType", .ofOption .text r.kind),
  ("cbsState", .ofOption .text r.state),
  ("cbsDueDate", .ofOption .text r.dueDate),
  ("cbsDescription", .ofOption .text r.description),
  ("cbsRemainingMileage", .ofOption .whole r.remainingMileage)]

/-- A check-control message that the vehicle shows. -/
structure CheckMessage where
  short : Option String := none
  long : Option String := none
  code : Option Int := none
  mileage : Option Int := none
deriving Inhabited

/-- The declared members. -/
def CheckMessage.fields : Json.Fields := [
  field "ccmDescriptionShort" .text, field "ccmDescriptionLong" .text, field "ccmId" .integer,
  field "ccmMileage" .integer]

/-- The shape of the document. -/
def CheckMessage.shape : Json.Shape := .record .closed CheckMessage.fields

/-- The record that a document in normal form holds. -/
def CheckMessage.ofJson (v : Json) : CheckMessage where
  short := v.textAt "ccmDescriptionShort"
  long := v.textAt "ccmDescriptionLong"
  code := v.wholeAt "ccmId"
  mileage := v.wholeAt "ccmMileage"

/-- The document of a record, in normal form. -/
def CheckMessage.toJson (r : CheckMessage) : Json := .object [
  ("ccmDescriptionShort", .ofOption .text r.short),
  ("ccmDescriptionLong", .ofOption .text r.long),
  ("ccmId", .ofOption .whole r.code),
  ("ccmMileage", .ofOption .whole r.mileage)]

/-- Where the vehicle stands. -/
structure Position where
  latitude : Option Float := none
  longitude : Option Float := none
  /-- In degrees, and -1 where the vehicle could not tell. -/
  heading : Option Float := none
  quality : Option String := none
deriving Inhabited

/-- The declared members. -/
def Position.fields : Json.Fields := [
  field "lat" .real, field "lon" .real, field "heading" .real, field "status" .text]

/-- The shape of the document. -/
def Position.shape : Json.Shape := .record .closed Position.fields

/-- The record that a document in normal form holds. -/
def Position.ofJson (v : Json) : Position where
  latitude := v.realAt "lat"
  longitude := v.realAt "lon"
  heading := v.realAt "heading"
  quality := v.textAt "status"

/-- The document of a record, in normal form. -/
def Position.toJson (r : Position) : Json := .object [
  ("lat", .ofOption .real r.latitude),
  ("lon", .ofOption .real r.longitude),
  ("heading", .ofOption .real r.heading),
  ("status", .ofOption .text r.quality)]

/-- The state of a vehicle. Every member may be missing: a vehicle leaves out what it does not have. -/
structure VehicleStatus where
  mileage : Option Int := none
  remainingFuel : Option Float := none
  remainingRangeElectric : Option Float := none
  remainingRangeElectricMiles : Option Float := none
  remainingRangeFuel : Option Float := none
  remainingRangeFuelMiles : Option Float := none
  maxRangeElectric : Option Float := none
  maxRangeElectricMiles : Option Float := none
  maxFuel : Option Float := none
  chargeLevel : Option Float := none
  vin : Option String := none
  updateReason : Option String := none
  /-- With its offset, such as `2020-08-24T15:55:32+0000`. -/
  updateTime : Option String := none
  doorDriverFront : Option String := none
  doorDriverRear : Option String := none
  doorPassengerFront : Option String := none
  doorPassengerRear : Option String := none
  trunk : Option String := none
  hood : Option String := none
  windowDriverFront : Option String := none
  windowDriverRear : Option String := none
  windowPassengerFront : Option String := none
  windowPassengerRear : Option String := none
  rearWindow : Option String := none
  sunroof : Option String := none
  doorLockState : Option String := none
  parkingLight : Option String := none
  positionLight : Option String := none
  connectionStatus : Option String := none
  chargingStatus : Option String := none
  lastChargingEndReason : Option String := none
  lastChargingEndResult : Option String := none
  position : Option Position := none
  /-- The vehicle's own time, in UTC and without an offset, such as `2020-08-24T15:55:32`. -/
  internalTime : Option String := none
  singleImmediateCharging : Option Bool := none
  chargingConnectionType : Option String := none
  chargingInductivePositioning : Option String := none
  vehicleCountry : Option String := none
  chargeChimeActivation : Option String := none
  chargeChimeOngoing : Option Bool := none
  checkMessages : Option (List CheckMessage) := none
  services : Option (List ServiceEntry) := none
deriving Inhabited

/-- The declared members. -/
def VehicleStatus.fields : Json.Fields := [
  field "mileage" .integer, field "remainingFuel" .real, field "remainingRangeElectric" .real,
  field "remainingRangeElectricMls" .real, field "remainingRangeFuel" .real,
  field "remainingRangeFuelMls" .real, field "maxRangeElectric" .real,
  field "maxRangeElectricMls" .real, field "maxFuel" .real, field "chargingLevelHv" .real,
  field "vin" .text, field "updateReason" .text, field "updateTime" .text,
  field "doorDriverFront" .text, field "doorDriverRear" .text, field "doorPassengerFront" .text,
  field "doorPassengerRear" .text, field "trunk" .text, field "hood" .text,
  field "windowDriverFront" .text, field "windowDriverRear" .text,
  field "windowPassengerFront" .text, field "windowPassengerRear" .text,
  field "rearWindow" .text, field "sunroof" .text, field "doorLockState" .text,
  field "parkingLight" .text, field "positionLight" .text, field "connectionStatus" .text,
  field "chargingStatus" .text, field "lastChargingEndReason" .text,
  field "lastChargingEndResult" .text, field "position" Position.shape,
  field "internalDataTimeUTC" .text, field "singleImmediateCharging" .flag,
  field "chargingConnectionType" .text, field "chargingInductivePositioning" .text,
  field "vehicleCountry" .text, field "DCS_CCH_Activation" .text, field "DCS_CCH_Ongoing" .flag,
  field "checkControlMessages" (.list CheckMessage.shape),
  field "cbsData" (.list ServiceEntry.shape)]

/-- The shape of the document. -/
def VehicleStatus.shape : Json.Shape := .record .closed VehicleStatus.fields

/-- The record that a document in normal form holds. -/
def VehicleStatus.ofJson (v : Json) : VehicleStatus where
  mileage := v.wholeAt "mileage"
  remainingFuel := v.realAt "remainingFuel"
  remainingRangeElectric := v.realAt "remainingRangeElectric"
  remainingRangeElectricMiles := v.realAt "remainingRangeElectricMls"
  remainingRangeFuel := v.realAt "remainingRangeFuel"
  remainingRangeFuelMiles := v.realAt "remainingRangeFuelMls"
  maxRangeElectric := v.realAt "maxRangeElectric"
  maxRangeElectricMiles := v.realAt "maxRangeElectricMls"
  maxFuel := v.realAt "maxFuel"
  chargeLevel := v.realAt "chargingLevelHv"
  vin := v.textAt "vin"
  updateReason := v.textAt "updateReason"
  updateTime := v.textAt "updateTime"
  doorDriverFront := v.textAt "doorDriverFront"
  doorDriverRear := v.textAt "doorDriverRear"
  doorPassengerFront := v.textAt "doorPassengerFront"
  doorPassengerRear := v.textAt "doorPassengerRear"
  trunk := v.textAt "trunk"
  hood := v.textAt "hood"
  windowDriverFront := v.textAt "windowDriverFront"
  windowDriverRear := v.textAt "windowDriverRear"
  windowPassengerFront := v.textAt "windowPassengerFront"
  windowPassengerRear := v.textAt "windowPassengerRear"
  rearWindow := v.textAt "rearWindow"
  sunroof := v.textAt "sunroof"
  doorLockState := v.textAt "doorLockState"
  parkingLight := v.textAt "parkingLight"
  positionLight := v.textAt "positionLight"
  connectionStatus := v.textAt "connectionStatus"
  chargingStatus := v.textAt "chargingStatus"
  lastChargingEndReason := v.textAt "lastChargingEndReason"
  lastChargingEndResult := v.textAt "lastChargingEndResult"
  position := v.recordAt Position.ofJson "position"
  internalTime := v.textAt "internalDataTimeUTC"
  singleImmediateCharging := v.flagAt "singleImmediateCharging"
  chargingConnectionType := v.textAt "chargingConnectionType"
  chargingInductivePositioning := v.textAt "chargingInductivePositioning"
  vehicleCountry := v.textAt "vehicleCountry"
  chargeChimeActivation := v.textAt "DCS_CCH_Activation"
  chargeChimeOngoing := v.flagAt "DCS_CCH_Ongoing"
  checkMessages := v.listAt CheckMessage.ofJson "checkControlMessages"
  services := v.listAt ServiceEntry.ofJson "cbsData"

/-- The document of a record, in normal form. -/
def VehicleStatus.toJson (r : VehicleStatus) : Json := .object [
  ("mileage", .ofOption .whole r.mileage),
  ("remainingFuel", .ofOption .real r.remainingFuel),
  ("remainingRangeElectric", .ofOption .real r.remainingRangeElectric),
  ("remainingRangeElectricMls", .ofOption .real r.remainingRangeElectricMiles),
  ("remainingRangeFuel", .ofOption .real r.remainingRangeFuel),
  ("remainingRangeFuelMls", .ofOption .real r.remainingRangeFuelMiles),
  ("maxRangeElectric", .ofOption .real r.maxRangeElectric),
  ("maxRangeElectricMls", .ofOption .real r.maxRangeElectricMiles),
  ("maxFuel", .ofOption .real r.maxFuel),
  ("chargingLevelHv", .ofOption .real r.chargeLevel),
  ("vin", .ofOption .text r.vin),
  ("updateReason", .ofOption .text r.updateReason),
  ("updateTime", .ofOption .text r.updateTime),
  ("doorDriverFront", .ofOption .text r.doorDriverFront),
  ("doorDriverRear", .ofOption .text r.doorDriverRear),
  ("doorPassengerFront", .ofOption .text r.doorPassengerFront),
  ("doorPassengerRear", .ofOption .text r.doorPassengerRear),
  ("trunk", .ofOption .text r.trunk),
  ("hood", .ofOption .text r.hood),
  ("windowDriverFront", .ofOption .text r.windowDriverFront),
  ("windowDriverRear", .ofOption .text r.windowDriverRear),
  ("windowPassengerFront", .ofOption .text r.windowPassengerFront),
  ("windowPassengerRear", .ofOption .text r.windowPassengerRear),
  ("rearWindow", .ofOption .text r.rearWindow),
  ("sunroof", .ofOption .text r.sunroof),
  ("doorLockState", .ofOption .text r.doorLockState),
  ("parkingLight", .ofOption .text r.parkingLight),
  ("positionLight", .ofOption .text r.positionLight),
  ("connectionStatus", .ofOption .text r.connectionStatus),
  ("chargingStatus", .ofOption .text r.chargingStatus),
  ("lastChargingEndReason", .ofOption .text r.lastChargingEndReason),
  ("lastChargingEndResult", .ofOption .text r.lastChargingEndResult),
  ("position", .ofOption Position.toJson r.position),
  ("internalDataTimeUTC", .ofOption .text r.internalTime),
  ("singleImmediateCharging", .ofOption .flag r.singleImmediateCharging),
  ("chargingConnectionType", .ofOption .text r.chargingConnectionType),
  ("chargingInductivePositioning", .ofOption .text r.chargingInductivePositioning),
  ("vehicleCountry", .ofOption .text r.vehicleCountry),
  ("DCS_CCH_Activation", .ofOption .text r.chargeChimeActivation),
  ("DCS_CCH_Ongoing", .ofOption .flag r.chargeChimeOngoing),
  ("checkControlMessages", .ofOption (fun items => .list (items.map CheckMessage.toJson)) r.checkMessages),
  ("cbsData", .ofOption (fun items => .list (items.map ServiceEntry.toJson)) r.services)]

/-- The answer to a request for the status. -/
structure StatusDocument where
  status : Option VehicleStatus := none
deriving Inhabited

/-- The declared members. -/
def StatusDocument.fields : Json.Fields := [
  field "vehicleStatus" VehicleStatus.shape]

/-- The shape of the document. -/
def StatusDocument.shape : Json.Shape := .record .closed StatusDocument.fields

/-- The record that a document in normal form holds. -/
def StatusDocument.ofJson (v : Json) : StatusDocument where
  status := v.recordAt VehicleStatus.ofJson "vehicleStatus"

/-- Reads the body of an answer. -/
def StatusDocument.ofText (body : String) : Except Json.Problem StatusDocument :=
  (Json.read StatusDocument.shape body).map StatusDocument.ofJson

/-- The document of a record, in normal form. -/
def StatusDocument.toJson (r : StatusDocument) : Json := .object [
  ("vehicleStatus", .ofOption VehicleStatus.toJson r.status)]

end VehicleLink
