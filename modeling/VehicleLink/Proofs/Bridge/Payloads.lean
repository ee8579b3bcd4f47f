import VehicleLink.Proofs.Bridge.Incidents
import VehicleLink.Proofs.Charging.ClockTimes
import VehicleLink.Proofs.Polling.SentProfiles

namespace VehicleLink

namespace ChargeProfile

/-- A profile as it must be before it is sent: well-formed, with times of a day only. -/
structure Proper (p : ChargeProfile) : Prop where
  wellFormed : p.WellFormed Number.InRange
  times : p.plan.TimesOfDay

/-- Edits within the limits of a clock keep a profile as it must be. -/
theorem Proper.edits {p : ChargeProfile} (proper : p.Proper) {es : List ChargeEdit}
    (within : ∀ f value, .time f value ∈ es → value ≤ f.part.limit) : (p.edits es).Proper := by
  induction es generalizing p with
  | nil => exact proper
  | cons e es ih =>
    have first : (p.edit e).Proper := by
      refine ⟨proper.wellFormed.edit e, edit_timesOfDay proper.times fun f value same => ?_⟩
      exact within f value (same ▸ List.mem_cons_self)
    exact ih first fun f value member => within f value (List.mem_cons_of_mem _ member)

end ChargeProfile

/-- A command that is an edit of a time is within the limits of a clock. -/
theorem ChannelCommand.chargeEdit?_within {c : ChannelCommand} {f : TimeField} {value : Nat}
    (edit : c.chargeEdit? = some (.time f value)) : value ≤ f.part.limit := by
  unfold chargeEdit? at edit
  split at edit
  · obtain ⟨target, _, asked⟩ := Option.bind_eq_some_iff.mp edit
    cases accepted : target.edit c.command with
    | error problem =>
      rw [accepted] at asked
      cases asked
    | ok e =>
      rw [accepted] at asked
      cases asked
      exact ChargeTarget.edit_within accepted
  · cases edit

/-- All times of a charge profile that something brings are times of a day. -/
def Incident.InTime : Incident → Prop
  | .answered _ .chargeProfile body => ∀ p, ChargeProfile.ofText body = .ok p → p.plan.TimesOfDay
  | _ => True

namespace Bridge

variable {b : Bridge}

/-- The profile in use, if there is one, is as it must be. -/
def HoldsProper (b : Bridge) : Prop := ∀ p, b.profile = some p → p.Proper

theorem HoldsProper.answer (holds : b.HoldsProper) {now : Calendar.Moment} {e : Endpoint} {body : String}
    (inTime : (Incident.answered now e body).InTime) : (b.answer now e body).bridge.HoldsProper := by
  intro p held
  rw [(answer_spec now e body).1] at held
  rcases Option.or_eq_some_iff.mp held with new | ⟨_, old⟩
  · cases e with
    | chargeProfile =>
      cases read : ChargeProfile.ofText body with
      | error problem =>
        rw [Exchange.profile?, read] at new
        cases new
      | ok p' =>
        rw [Exchange.profile?, read] at new
        cases new
        obtain ⟨_, _, wellFormed, _⟩ := ChargeProfile.ofText_spec read
        exact ⟨wellFormed, inTime p read⟩
    | status | lastTrip | allTrips | destinations => cases new
  · exact holds p old

/-- No command puts another time than one of a day into the profile in use. -/
theorem HoldsProper.order (holds : b.HoldsProper) (c : ChannelCommand) : (b.order c).bridge.HoldsProper := by
  cases order_obeys b c with
  | asked asks bridge result => rwa [bridge]
  | rejected other bridge problem result => rwa [bridge]
  | applied other result profile vehicleType =>
    intro p held
    rw [profile] at held
    obtain ⟨before, old, rfl⟩ := Option.map_eq_some_iff.mp held
    refine (holds before old).edits fun f value member => ?_
    exact ChannelCommand.chargeEdit?_within (Option.mem_toList.mp member)

theorem HoldsProper.meet (holds : b.HoldsProper) {i : Incident} (inTime : i.InTime) :
    (b.meet i).HoldsProper := by
  cases i with
  | answered now e body => exact holds.answer inTime
  | failed e f => exact holds
  | ordered c => exact holds.order c

theorem HoldsProper.after (holds : b.HoldsProper) {incidents : List Incident}
    (inTime : ∀ i ∈ incidents, i.InTime) : (b.after incidents).HoldsProper := by
  induction incidents generalizing b with
  | nil => exact holds
  | cons i rest ih =>
    obtain ⟨first, later⟩ := List.forall_mem_cons.mp inTime
    exact ih (holds.meet first) later

/-- Only times of a day are sent. When all profiles that have come had no other times, then whatever commands
there have been, the text to be sent is that of a profile with no other times; and that is what is read from
its document, and from the text itself if the floating-point numbers in it are read back. -/
theorem payload_timesOfDay {units : Units} {vehicleType : VehicleType} {vin : String} {zone : Int}
    {incidents : List Incident} {payload : String} (inTime : ∀ i ∈ incidents, i.InTime)
    (asked : ((start units vehicleType vin zone).after incidents).payload = .ok payload) :
    ∃ p : ChargeProfile, payload = p.toText ∧ ∃ q : ChargeProfile, q.plan.TimesOfDay ∧
      (∃ members, p.toJson.normal = .object members ∧ ChargeProfile.ofMembers members = .ok q) ∧
      ((∀ x, .real x ∈ p.toJson.parts → Number.ReadsBack (.real x)) → ChargeProfile.ofText payload = .ok q) := by
  have before : (start units vehicleType vin zone).HoldsProper := by
    intro p held
    cases held
  unfold Bridge.payload at asked
  cases loaded : ((start units vehicleType vin zone).after incidents).loadedProfile? with
  | none =>
    rw [loaded] at asked
    cases asked
  | some p =>
    rw [loaded] at asked
    cases asked
    obtain ⟨wellFormed, times⟩ := before.after inTime p (loadedProfile?_eq_some.mp loaded).1
    exact ⟨p, rfl, .ofPlan p.plan p.extra, times, wellFormed.ofMembers_normal,
      fun reals => (wellFormed.readsBack reals).ofText_toText⟩

/-- Half past seven comes from the vehicle, the hour is set to six, and a quarter past nothing is asked for. -/
theorem payload_timesOfDay_sample :
    let incidents : List Incident := [
      .answered ⟨⟨2020, 1, 1⟩, 0, false⟩ .chargeProfile
        "\x7b\"weeklyPlanner\":\x7b\"timer1\":\x7b\"departureTime\":\"07:30\"\x7d\x7d\x7d",
      .ordered ⟨⟨.charge, "timer1-departure-hour"⟩, .number 6⟩,
      .ordered ⟨⟨.charge, "timer1-departure-hour"⟩, .number 24.25⟩]
    let payload := "\x7b\"weeklyPlanner\":\x7b\"timer1\":\x7b\"departureTime\":\"06:30\"\x7d\x7d\x7d"
    (∀ i ∈ incidents, i.InTime) ∧ ((start .metric .electric "" 0).after incidents).payload = .ok payload ∧
      ∃ p : ChargeProfile, payload = p.toText ∧ ∃ q : ChargeProfile, q.plan.TimesOfDay ∧
        (∃ members, p.toJson.normal = .object members ∧ ChargeProfile.ofMembers members = .ok q) ∧
        ((∀ x, .real x ∈ p.toJson.parts → Number.ReadsBack (.real x)) →
          ChargeProfile.ofText payload = .ok q) := by
  intro incidents payload
  have read : ChargeProfile.ofText
      "\x7b\"weeklyPlanner\":\x7b\"timer1\":\x7b\"departureTime\":\"07:30\"\x7d\x7d\x7d" =
      .ok (.ofPlan (.weekly { timer1 := some { departureTime := some "07:30" } }) []) := by cbv
  have halfPastSeven : IsTimeOfDay "07:30" :=
    ⟨Decimal.padded 2 7, Decimal.padded 2 30, by decide, twoDigits_padded (by decide) (by decide),
      twoDigits_padded (by decide) (by decide)⟩
  have inTime : ∀ i ∈ incidents, i.InTime := by
    refine List.forall_mem_cons.mpr ⟨fun p new => ?_, by simp [Incident.InTime]⟩
    cases read.symm.trans new
    rintro (_ | _ | timer) text written
    · cases written
    · cases written
    · cases timer <;> cases written
      exact halfPastSeven
  have made : ((start .metric .electric "" 0).after incidents).payload.toOption = some payload := by
    decide +kernel
  have asked : ((start .metric .electric "" 0).after incidents).payload = .ok payload := by
    cases result : ((start .metric .electric "" 0).after incidents).payload with
    | error problem =>
      rw [result] at made
      cases made
    | ok text =>
      rw [result] at made
      cases made
      rfl
  exact ⟨inTime, asked, payload_timesOfDay inTime asked⟩

end Bridge

end VehicleLink
