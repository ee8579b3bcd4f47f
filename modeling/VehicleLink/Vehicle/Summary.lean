import VehicleLink.Report.Status
import VehicleLink.Text.LetterCase
import VehicleLink.Timestamp

namespace VehicleLink

/-- What is shown for a text that the vehicle did not give, before title case. -/
def unknownText : String := "UNKNOWN"

/-- The first of the check-control messages, or `OK` where there is none. -/
def checkSummary : Option (List CheckMessage) → String
  | none => Text.titleCase unknownText
  | some [] => "OK"
  | some (first :: _) => Text.titleCase (first.short.getD unknownText)

namespace VehicleStatus

/-- The check-control messages of a vehicle, none where it gives no list. -/
def checkList (s : VehicleStatus) : List CheckMessage := s.checkMessages.getD []

/-- The summary of the check-control messages of a vehicle. -/
def checkSummary (s : VehicleStatus) : String := VehicleLink.checkSummary s.checkMessages

/-- The time of a status: the vehicle's own where it gives one, else the server's. -/
def timestamp (s : VehicleStatus) : String := (s.internalTime <|> s.updateTime).getD nullDate

end VehicleStatus

end VehicleLink
