import VehicleLink.Text.Blank
import VehicleLink.Text.LetterCase

namespace VehicleLink

/-- A setting without the blanks around it and in capitals, as its names are written. -/
def settingName (s : String) : String := Text.upperAscii (Text.trim s)

/-- Where an account belongs. -/
inductive Region where
  | restOfWorld
  | northAmerica
  | china
deriving DecidableEq, Repr

namespace Region

/-- The server of a region, with its port where it needs one. -/
def server : Region → String
  | .restOfWorld => "b2vapi.bmwgroup.com"
  | .northAmerica => "b2vapi.bmwgroup.us"
  | .china => "b2vapi.bmwgroup.cn:8592"

/-- The region that a setting names. -/
def ofSetting? (s : String) : Option Region :=
  match settingName s with
  | "ROW" => some .restOfWorld
  | "NORTH_AMERICA" => some .northAmerica
  | "CHINA" => some .china
  | _ => none

/-- The name of a region in messages. -/
def label : Region → String
  | .restOfWorld => "RestOfWorld"
  | .northAmerica => "NorthAmerica"
  | .china => "China"

end Region

/-- The units in which to report. -/
inductive Units where
  /-- The units of the country that the vehicle is in. -/
  | autodetect
  | imperial
  | metric
deriving DecidableEq, Repr

/-- The countries whose vehicles report in miles. -/
def mileCountries : List String := ["US", "GB"]

namespace Units

/-- Whether to report in miles, for a vehicle in a country. -/
def imperialIn (country : Option String) : Units → Bool
  | .imperial => true
  | .metric => false
  | .autodetect => country.any fun c => mileCountries.contains (Text.trim c)

/-- The units that a setting names. -/
def ofSetting? (s : String) : Option Units :=
  match settingName s with
  | "AUTODETECT" => some .autodetect
  | "IMPERIAL" => some .imperial
  | "METRIC" => some .metric
  | _ => none

/-- The name of units in messages. -/
def label : Units → String
  | .autodetect => "Autodetect"
  | .imperial => "Imperial"
  | .metric => "Metric"

end Units

/-- What drives a vehicle. -/
inductive VehicleType where
  | conventional
  | pluginHybrid
  | electricRangeExtender
  | electric
deriving DecidableEq, Repr

namespace VehicleType

/-- Whether a vehicle takes fuel. -/
def hasFuel : VehicleType → Bool
  | .conventional | .pluginHybrid | .electricRangeExtender => true
  | .electric => false

/-- Whether a vehicle is charged. -/
def isElectric : VehicleType → Bool
  | .pluginHybrid | .electricRangeExtender | .electric => true
  | .conventional => false

/-- Whether a vehicle both takes fuel and is charged. -/
def isHybrid (t : VehicleType) : Bool := t.hasFuel && t.isElectric

/-- The type of vehicle that a setting names. -/
def ofSetting? (s : String) : Option VehicleType :=
  match settingName s with
  | "CONV" => some .conventional
  | "PHEV" => some .pluginHybrid
  | "BEV_REX" => some .electricRangeExtender
  | "BEV" => some .electric
  | _ => none

/-- The name of a type in messages. -/
def label : VehicleType → String
  | .conventional => "Conventional"
  | .pluginHybrid => "PluginHybrid"
  | .electricRangeExtender => "ElectricRex"
  | .electric => "Electric"

end VehicleType

end VehicleLink
