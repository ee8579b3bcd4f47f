import VehicleLink.Report.Status
import VehicleLink.Timestamp

namespace VehicleLink

open Calendar

namespace ServiceEntry

/-- The distance after which a service is due. Zero stands for none. -/
def dueMileage? (e : ServiceEntry) : Option Int := e.remainingMileage.filter (· ≠ 0)

/-- The moment at which a service is due. -/
def dueMoment? (e : ServiceEntry) : Option Moment := e.dueDate.bind readDueDate?

end ServiceEntry

/-- The greatest integer of 64 bits: no distance is less than this one but shorter ones. -/
def farthest : Int := 0x7FFFFFFFFFFFFFFF

/-- The moment a hundred years from now. A date from there on counts for nothing. -/
def serviceHorizon (now : Moment) : Moment := (now.addYears? 100).getD Moment.last

/-- The best that has been seen in a list of services. -/
structure ServiceChoice where
  /-- A distance that a service has to be nearer than. -/
  mileage : Int
  /-- A moment that a service has to be due before. -/
  moment : Moment
  chosen : Option ServiceEntry

/-- Nothing chosen yet. -/
def ServiceChoice.start (now : Moment) : ServiceChoice := ⟨farthest, serviceHorizon now, none⟩

/-- Looks at one more service. One that is due both ways and better in one of them sets both bounds,
even if it is worse in the other. -/
def ServiceChoice.take (best : ServiceChoice) (e : ServiceEntry) : ServiceChoice :=
  match e.dueMileage?, e.dueMoment? with
  | some mileage, some moment =>
    if mileage < best.mileage ∨ moment.before best.moment then ⟨mileage, moment, some e⟩ else best
  | some mileage, none =>
    if mileage < best.mileage then { best with mileage, chosen := some e } else best
  | none, some moment =>
    if moment.before best.moment then { best with moment, chosen := some e } else best
  | none, none => best

/-- The next service of a list, or an empty entry where none is due. -/
def nextService (now : Moment) (services : List ServiceEntry) : ServiceEntry :=
  (services.foldl ServiceChoice.take (.start now)).chosen.getD {}

/-- The earlier of two moments, the first where they are equal. -/
def earlier (a b : Moment) : Moment := if b.before a then b else a

/-- The first moment at which a service of a list is due. -/
def nextServiceDate (now : Moment) (services : List ServiceEntry) : Option Moment :=
  match (services.filterMap ServiceEntry.dueMoment?).filter (·.before (serviceHorizon now)) with
  | [] => none
  | d :: rest => some (rest.foldl earlier d)

/-- The least distance after which a service of a list is due. -/
def nextServiceMileage (services : List ServiceEntry) : Option Int :=
  match services.filterMap ServiceEntry.dueMileage? with
  | [] => none
  | m :: rest => some (rest.foldl min m)

namespace VehicleStatus

/-- The services of a vehicle, none where it gives no list. -/
def serviceList (s : VehicleStatus) : List ServiceEntry := s.services.getD []

/-- The next service of a vehicle. -/
def nextService (now : Moment) (s : VehicleStatus) : ServiceEntry :=
  VehicleLink.nextService now s.serviceList

/-- The first moment at which a service of a vehicle is due. -/
def nextServiceDate (now : Moment) (s : VehicleStatus) : Option Moment :=
  VehicleLink.nextServiceDate now s.serviceList

/-- The least distance after which a service of a vehicle is due. -/
def nextServiceMileage (s : VehicleStatus) : Option Int :=
  VehicleLink.nextServiceMileage s.serviceList

end VehicleStatus

end VehicleLink
