import VehicleLink.Json.Shape

namespace VehicleLink

open Json (field)

/-- A place that was sent to the vehicle. -/
structure Destination where
  latitude : Option Float := none
  longitude : Option Float := none
  country : Option String := none
  city : Option String := none
  street : Option String := none
  streetNumber : Option String := none
  kind : Option String := none
  createdAt : Option String := none
deriving Inhabited

/-- The declared members. -/
def Destination.fields : Json.Fields := [
  field "lat" .real, field "lon" .real, field "country" .text, field "city" .text,
  field "street" .text, field "streetNumber" .text, field "type" .text, field "createdAt" .text]

/-- The shape of the document. -/
def Destination.shape : Json.Shape := .record .closed Destination.fields

/-- The record that a document in normal form holds. -/
def Destination.ofJson (v : Json) : Destination where
  latitude := v.realAt "lat"
  longitude := v.realAt "lon"
  country := v.textAt "country"
  city := v.textAt "city"
  street := v.textAt "street"
  streetNumber := v.textAt "streetNumber"
  kind := v.textAt "type"
  createdAt := v.textAt "createdAt"

/-- The document of a record, in normal form. -/
def Destination.toJson (r : Destination) : Json := .object [
  ("lat", .ofOption .real r.latitude),
  ("lon", .ofOption .real r.longitude),
  ("country", .ofOption .text r.country),
  ("city", .ofOption .text r.city),
  ("street", .ofOption .text r.street),
  ("streetNumber", .ofOption .text r.streetNumber),
  ("type", .ofOption .text r.kind),
  ("createdAt", .ofOption .text r.createdAt)]

/-- The street with its number, where there is one that is not empty. -/
def Destination.streetLine (d : Destination) : Option String :=
  d.street.map fun street =>
    match d.streetNumber with
    | some number => if number.isEmpty then street else street ++ " " ++ number
    | none => street

/-- The address on one line, without the parts that are missing or empty. -/
def Destination.address (d : Destination) : String :=
  ", ".intercalate ([d.streetLine, d.city, d.country].filterMap id |>.filter (!·.isEmpty))

/-- The answer to a request for the destinations. -/
structure DestinationsDocument where
  destinations : Option (List Destination) := none
deriving Inhabited

/-- The declared members. -/
def DestinationsDocument.fields : Json.Fields := [
  field "destinations" (.list Destination.shape)]

/-- The shape of the document. -/
def DestinationsDocument.shape : Json.Shape := .record .closed DestinationsDocument.fields

/-- The record that a document in normal form holds. -/
def DestinationsDocument.ofJson (v : Json) : DestinationsDocument where
  destinations := v.listAt Destination.ofJson "destinations"

/-- Reads the body of an answer. -/
def DestinationsDocument.ofText (body : String) : Except Json.Problem DestinationsDocument :=
  (Json.read DestinationsDocument.shape body).map DestinationsDocument.ofJson

/-- The document of a record, in normal form. -/
def DestinationsDocument.toJson (r : DestinationsDocument) : Json := .object [
  ("destinations", .ofOption (fun items => .list (items.map Destination.toJson)) r.destinations)]

end VehicleLink
