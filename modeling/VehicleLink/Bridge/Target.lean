import VehicleLink.Channel.Command
import VehicleLink.Channel.State
import VehicleLink.Charging.Edit
import VehicleLink.Decimal.Binary
import VehicleLink.Vehicle.Summary

namespace VehicleLink

/-- What a channel of a charge profile is about. -/
inductive ChargeTarget where
  | climate
  | mode
  | preference
  /-- The channel by which the profile is sent to the vehicle. It shows nothing. -/
  | send
  | time (field : TimeField)
  | enabled (timer : TimerId)
  | day (timer : TimerId) (weekday : Weekday)
deriving DecidableEq, Repr

namespace ChargeTarget

/-- The channels of a timer, in the order in which they are shown. The override timer has none for
days. -/
def ofTimer (timer : TimerId) : List ChargeTarget :=
  [.time ⟨.departure timer, .hour⟩, .time ⟨.departure timer, .minute⟩, .enabled timer] ++
    if timer = .override then [] else Weekday.all.map (.day timer)

/-- The channels that show something of a profile, in the order in which they are shown. -/
def readable : List ChargeTarget :=
  [.climate, .mode, .preference,
    .time ⟨.windowStart, .hour⟩, .time ⟨.windowStart, .minute⟩,
    .time ⟨.windowEnd, .hour⟩, .time ⟨.windowEnd, .minute⟩] ++ TimerId.all.flatMap ofTimer

/-- All channels of a charge profile. -/
def all : List ChargeTarget := .send :: readable

/-- The name of the channel of an hour or a minute. -/
def timeId (f : TimeField) : String :=
  let slot := match f.slot with
    | .windowStart => "window-start"
    | .windowEnd => "window-end"
    | .departure timer => timer.channelStart ++ "-departure"
  slot ++ match f.part with
    | .hour => "-hour"
    | .minute => "-minute"

/-- The name of a channel in its group. -/
def id : ChargeTarget → String
  | .climate => "profile-climate"
  | .mode => "profile-mode"
  | .preference => "profile-prefs"
  | .send => "profile-send"
  | .time f => timeId f
  | .enabled timer => timer.channelStart ++ "-enabled"
  | .day timer weekday => timer.channelStart ++ "-day-" ++ weekday.channelEnd

/-- The channels that belong to no timer. -/
def untimed : List ChargeTarget := [.climate, .mode, .preference, .send,
  .time ⟨.windowStart, .hour⟩, .time ⟨.windowStart, .minute⟩,
  .time ⟨.windowEnd, .hour⟩, .time ⟨.windowEnd, .minute⟩]

/-- What a channel of a timer is about, by what its name has after the timer and a hyphen. -/
def ofTimerPart? (timer : TimerId) (part : List Char) : Option ChargeTarget :=
  if part = "departure-hour".toList then some (.time ⟨.departure timer, .hour⟩)
  else if part = "departure-minute".toList then some (.time ⟨.departure timer, .minute⟩)
  else if part = "enabled".toList then some (.enabled timer)
  else if timer = .override then none
  else do
    let day ← Text.after? "day-".toList part
    let weekday ← Weekday.all.find? fun d => d.channelEnd.toList = day
    return .day timer weekday

/-- What the channel of a name is about. The name is that of a channel of no timer, or it begins with a
timer, which the first hyphen divides from the rest. -/
def ofId? (id : String) : Option ChargeTarget :=
  match untimed.find? fun t => t.id = id with
  | some t => some t
  | none => do
    let (start, part) ← Text.cutAt (· == '-') id.toList
    let timer ← TimerId.all.find? fun t => t.channelStart.toList = start
    ofTimerPart? timer part

/-- What a channel is about, as messages say it. -/
def label : ChargeTarget → String
  | .climate => "Climate"
  | .mode => "Mode"
  | .preference => "Preference"
  | .send => "Send"
  | .time f => "Time(" ++ f.label ++ ")"
  | .enabled timer => "Enabled(" ++ timer.label ++ ")"
  | .day timer weekday => "Day(" ++ timer.label ++ ", " ++ weekday.label ++ ")"

/-- The unit of a part of a time. -/
def timeUnit : TimePart → MeasureUnit
  | .hour => .hour
  | .minute => .minute

/-- What a channel shows of a profile. -/
def state? (p : ChargeProfile) : ChargeTarget → Option ChannelState
  | .climate => some (.onOff p.climateEnabled)
  | .mode => some (.text (Text.titleCase (p.mode.getD unknownText)))
  | .preference => some (.text (Text.titleCase (p.preference.getD unknownText)))
  | .send => none
  | .time f => some (.quantity (Float.ofInt (p.time f)) (timeUnit f.part))
  | .enabled timer => some (.onOff (p.timerEnabled timer))
  | .day timer weekday => some (.onOff (p.daySelected timer weekday))

end ChargeTarget

/-- Why a command is rejected. -/
inductive CommandProblem where
  | notAccepted (channel : Channel)
  | noProfile
  | mismatch (target : ChargeTarget) (command : Command)
  | outOfRange (field : TimeField)

/-- The problem in words. -/
def CommandProblem.message : CommandProblem → String
  | .notAccepted channel => channel.text ++ " does not accept commands"
  | .noProfile => "no charge profile loaded"
  | .mismatch target command => target.label ++ " does not accept " ++ command.label
  | .outOfRange f => f.label ++ " must be a whole number between 0 and " ++
      Decimal.integerText f.part.limit

/-- The whole number up to a limit that a number is, if it is one. What is no number is not whole, and minus
zero is not below zero. -/
def wholeUpTo? (limit : Nat) (x : Float) : Option Nat :=
  if Decimal.fraction x != 0.0 ∨ x < 0.0 ∨ x > Float.ofNat limit then none else some x.toUInt32.toNat

/-- The edit that a command for a channel asks for. -/
def ChargeTarget.edit : ChargeTarget → Command → Except CommandProblem ChargeEdit
  | .climate, .onOff on => .ok (.climate on)
  | .mode, .text s => .ok (.mode s)
  | .preference, .text s => .ok (.preference s)
  | .enabled timer, .onOff on => .ok (.enabled timer on)
  | .day timer weekday, .onOff on => .ok (.day timer weekday on)
  | .time f, .number x =>
    match wholeUpTo? f.part.limit x with
    | some n => .ok (.time f n)
    | none => .error (.outOfRange f)
  | target, command => .error (.mismatch target command)

end VehicleLink
