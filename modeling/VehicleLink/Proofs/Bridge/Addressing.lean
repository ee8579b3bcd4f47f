import VehicleLink.Proofs.Bridge.Publication
import VehicleLink.Proofs.Charging.ClockTimes
import VehicleLink.Proofs.Charging.Locality
import VehicleLink.Proofs.Polling.SentProfiles
import VehicleLink.Proofs.Text.Cutting

namespace VehicleLink

namespace ChargeTarget

variable {t : ChargeTarget} {timer : TimerId} {part : List Char} {command : Command} {e : ChargeEdit}

example : ["timer1-day-mon", "override-day-mon", "timer1-day-mon-", "timer1-day-Mon", "timer12-enabled"].map ofId? =
    [some (.day .timer1 .monday), none, none, none, none] := by decide +kernel

end ChargeTarget

namespace Bridge

variable {b : Bridge} {p : ChargeProfile} {t : ChargeTarget} {u : ChannelUpdate} {command : Command}

end Bridge

end VehicleLink
