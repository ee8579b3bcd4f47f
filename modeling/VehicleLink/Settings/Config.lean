import VehicleLink.Decimal.Digits
import VehicleLink.Settings.Choice
import VehicleLink.Text.Quoted
import VehicleLink.Web.Instant
import VehicleLink.Web.Request

namespace VehicleLink

/-- What is wrong with the settings. -/
inductive SettingProblem where
  | missing (key : String)
  | unknownRegion (name : String)
  | unknownUnits (name : String)
  | unknownVehicleType (name : String)
  | notMinutes
  | notSeconds
deriving DecidableEq, Repr

/-- The problem in words. -/
def SettingProblem.message : SettingProblem → String
  | .missing key => "Missing required setting " ++ key
  | .unknownRegion name =>
    "unknown region " ++ Text.quoted name ++ "; expected ROW, NORTH_AMERICA or CHINA"
  | .unknownUnits name =>
    "unknown units " ++ Text.quoted name ++ "; expected AUTODETECT, IMPERIAL or METRIC"
  | .unknownVehicleType name =>
    "unknown vehicle type " ++ Text.quoted name ++ "; expected CONV, PHEV, BEV_REX or BEV"
  | .notMinutes => "REFRESH_INTERVAL_MINUTES must be a whole number of minutes"
  | .notSeconds => "REQUEST_TIMEOUT_SECS must be a whole number of seconds"

/-- Reads a region. -/
def readRegion (s : String) : Except SettingProblem Region :=
  match Region.ofSetting? s with
  | some r => .ok r
  | none => .error (.unknownRegion (settingName s))

/-- Reads units. -/
def readUnits (s : String) : Except SettingProblem Units :=
  match Units.ofSetting? s with
  | some u => .ok u
  | none => .error (.unknownUnits (settingName s))

/-- Reads a vehicle type. -/
def readVehicleType (s : String) : Except SettingProblem VehicleType :=
  match VehicleType.ofSetting? s with
  | some t => .ok t
  | none => .error (.unknownVehicleType (settingName s))

/-- Reads a natural number of 64 bits. -/
def readCount (problem : SettingProblem) (s : String) : Except SettingProblem Nat :=
  match Decimal.readNat? Decimal.max64 s.toList with
  | some n => .ok n
  | none => .error problem

/-- The settings as they are given. -/
structure Settings where
  username : String
  password : String
  clientAuth : String
  region : Region
  vin : String
  vehicleType : VehicleType
  units : Units
  refreshMinutes : Nat
  timeoutSeconds : Nat
deriving DecidableEq, Repr

namespace Settings

/-- A setting without the blanks around it; a blank one is none. -/
def value? (lookup : String → Option String) (key : String) : Option String :=
  ((lookup key).map Text.trim).filter (!·.isEmpty)

/-- A setting that must be there. -/
def required (lookup : String → Option String) (key : String) : Except SettingProblem String :=
  match value? lookup key with
  | some s => .ok s
  | none => .error (.missing key)

/-- A setting that may be missing. -/
def optional {α : Type} (lookup : String → Option String) (key : String)
    (read : String → Except SettingProblem α) (default : α) : Except SettingProblem α :=
  match value? lookup key with
  | some s => read s
  | none => .ok default

/-- The minutes between two polls where the settings do not say. -/
def defaultRefreshMinutes : Nat := 5

/-- The seconds that a request may take where the settings do not say. -/
def defaultTimeoutSeconds : Nat := 30

/-- Reads the settings. The first one that is missing or wrong is reported. -/
def read (lookup : String → Option String) : Except SettingProblem Settings := do
  let region ← optional lookup "CONNECTED_DRIVE_REGION" readRegion .restOfWorld
  let units ← optional lookup "UNITS" readUnits .autodetect
  let vehicleType ← required lookup "VEHICLE_TYPE" >>= readVehicleType
  let refreshMinutes ←
    optional lookup "REFRESH_INTERVAL_MINUTES" (readCount .notMinutes) defaultRefreshMinutes
  let timeoutSeconds ←
    optional lookup "REQUEST_TIMEOUT_SECS" (readCount .notSeconds) defaultTimeoutSeconds
  let username ← required lookup "CONNECTED_DRIVE_USERNAME"
  let password ← required lookup "CONNECTED_DRIVE_PASSWORD"
  let clientAuth ← required lookup "CONNECTED_DRIVE_CLIENT_AUTH"
  let vin ← required lookup "CONNECTED_DRIVE_VIN"
  return ⟨username, password, clientAuth, region, vin, vehicleType, units, refreshMinutes,
    timeoutSeconds⟩

/-- The seconds between two polls, one minute at least, if 64 bits can hold them. -/
def refreshSeconds? (s : Settings) : Option Nat :=
  let seconds := max s.refreshMinutes 1 * 60
  if seconds ≤ Decimal.max64 then some seconds else none

end Settings

/-- The configuration of the program. -/
structure Config where
  username : String
  password : String
  clientAuth : String
  region : Region
  vin : String
  vehicleType : VehicleType
  units : Units
  refreshSeconds : Nat
  timeoutSeconds : Nat
deriving DecidableEq, Repr

namespace Config

/-- The configuration of settings, or an overflow where 64 bits cannot hold the seconds between two
polls. -/
def ofSettings (s : Settings) : Except Overflow Config :=
  match s.refreshSeconds? with
  | none => .error Overflow.mk
  | some refreshSeconds => .ok
    { username := s.username, password := s.password, clientAuth := s.clientAuth,
      region := s.region, vin := s.vin, vehicleType := s.vehicleType, units := s.units,
      refreshSeconds, timeoutSeconds := s.timeoutSeconds }

/-- Reads the configuration. -/
def read (lookup : String → Option String) : Except Overflow (Except SettingProblem Config) :=
  match Settings.read lookup with
  | .error problem => .ok (.error problem)
  | .ok settings => (ofSettings settings).map .ok

/-- The account of a configuration. -/
def account (c : Config) : Account where
  server := c.region.server
  username := c.username
  password := c.password
  clientAuth := c.clientAuth
  vin := c.vin

end Config

end VehicleLink
