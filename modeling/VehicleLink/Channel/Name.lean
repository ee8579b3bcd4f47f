import VehicleLink.Text.Quoted
import VehicleLink.Text.Split

namespace VehicleLink

/-- A group of channels. -/
inductive ChannelGroup where
  | status
  | range
  | location
  | service
  | check
  | doors
  | charge
  | lastTrip
  | lifetime
  | destination
  | troubleshoot
deriving DecidableEq, Repr

namespace ChannelGroup

/-- All groups. -/
def all : List ChannelGroup := [.status, .range, .location, .service, .check, .doors, .charge,
  .lastTrip, .lifetime, .destination, .troubleshoot]

/-- The written name of a group. -/
def name : ChannelGroup → String
  | .status => "status"
  | .range => "range"
  | .location => "location"
  | .service => "service"
  | .check => "check"
  | .doors => "doors"
  | .charge => "charge"
  | .lastTrip => "last-trip"
  | .lifetime => "lifetime"
  | .destination => "destination"
  | .troubleshoot => "troubleshoot"

/-- The group of a written name. -/
def ofName? (s : String) : Option ChannelGroup := all.find? fun g => g.name = s

end ChannelGroup

/-- The name of a channel. -/
structure Channel where
  group : ChannelGroup
  id : String
deriving DecidableEq, Repr

/-- What is wrong with the written name of a channel. -/
inductive ChannelProblem where
  /-- There is no number sign. -/
  | undivided (text : String)
  | unknownGroup (name : String)
  | emptyId (text : String)
deriving DecidableEq, Repr

/-- The problem in words. -/
def ChannelProblem.message : ChannelProblem → String
  | .undivided text => "channel " ++ Text.quoted text ++ " is not of the form group#id"
  | .unknownGroup name => "unknown channel group " ++ Text.quoted name
  | .emptyId text => "channel " ++ Text.quoted text ++ " has an empty id"

namespace Channel

/-- The written name of a channel. -/
def text (c : Channel) : String := c.group.name ++ "#" ++ c.id

/-- Reads the written name of a channel. The first number sign divides it. -/
def ofText (s : String) : Except ChannelProblem Channel :=
  match Text.cutAt (· == '#') s.toList with
  | none => .error (.undivided s)
  | some (group, id) =>
    match ChannelGroup.ofName? (String.ofList group) with
    | none => .error (.unknownGroup (String.ofList group))
    | some group => if id.isEmpty then .error (.emptyId s) else .ok ⟨group, String.ofList id⟩

end Channel

end VehicleLink
