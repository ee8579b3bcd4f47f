import VehicleLink.Calendar.Pattern
import VehicleLink.Text.Split

namespace VehicleLink

open Calendar

/-- What is shown in place of a date that the vehicle did not give. -/
def nullDate : String := "1900-01-01T00:00:00"

/-- A timestamp without blanks around it; some vehicles put a space before the T. -/
def tidyTimestamp (raw : String) : List Char :=
  Text.replaceChars [' ', 'T'] ['T'] (Text.trimChars raw.toList)

/-- The moment of a timestamp in UTC. Without an offset it is UTC already. -/
def readTimestamp? (raw : String) : Option Moment :=
  let cs := tidyTimestamp raw
  readUtc? cs <|> readMoment? secondPattern cs

/-- A timestamp shown in a zone, which is given by its seconds east of UTC. -/
def localTimestamp (zone : Int) (raw : String) : String :=
  match readTimestamp? raw with
  | some utc => (utc.shift zone).text
  | none => nullDate

/-- The date of a trip, which is local time already, perhaps without seconds. -/
def tripTimestamp (raw : String) : String :=
  let cs := tidyTimestamp raw
  match readMoment? secondPattern cs <|> readMoment? minutePattern cs with
  | some moment => moment.text
  | none => nullDate

/-- The moment at which a service falls due: the beginning of a month, or of a day where one is
given. -/
def readDueDate? (raw : String) : Option Moment :=
  let cs := Text.trimChars raw.toList
  (readDate? (cs ++ ['-', '0', '1']) <|> readDate? cs).map Moment.midnight

/-- A moment as it is shown. -/
def momentText : Option Moment → String
  | some moment => moment.text
  | none => nullDate

end VehicleLink
