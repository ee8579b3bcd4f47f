import VehicleLink.Bridge.Target
import VehicleLink.Proofs.Charging.TimeView
import VehicleLink.Proofs.Decimal.Counts

namespace VehicleLink

/-- Two digits of a number up to a limit. -/
def TwoDigits (limit : Nat) (cs : List Char) : Prop :=
  cs.length = 2 ∧ (∀ c ∈ cs, c.isDigit = true) ∧ Decimal.ofDigits cs ≤ limit

/-- A time of a day, with two digits for the hour and two for the minute. -/
def IsTimeOfDay (s : String) : Prop :=
  ∃ hour minute, s.toList = hour ++ ':' :: minute ∧ TwoDigits 23 hour ∧ TwoDigits 59 minute

/-- All times that are written in a planner are times of a day. -/
def Plan.TimesOfDay (plan : Plan) : Prop :=
  ∀ slot text, plan.timeText? slot = some text → IsTimeOfDay text

section Strings

variable {limit value : Nat} {part : TimePart} {text : Option String}

theorem twoDigits_padded (within : value ≤ limit) (small : limit < 100) :
    TwoDigits limit (Decimal.padded 2 value) := by
  refine ⟨Decimal.length_padded (by decide) (by omega), fun c => Decimal.isDigit_of_mem_padded, ?_⟩
  rw [Decimal.ofDigits_padded]
  exact within

theorem IsTimeOfDay.sides {s : String} (proper : IsTimeOfDay s) :
    TwoDigits 23 (timeSides (some s)).1 ∧ TwoDigits 59 (timeSides (some s)).2 := by
  obtain ⟨hour, minute, written, twoHour, twoMinute⟩ := proper
  have cut : Text.cutAt (· == ':') s.toList = some (hour, minute) := by
    rw [written]
    exact Text.cutAt_append (fun c member => not_colon_of_isDigit (twoHour.2.1 c member)) rfl
  have sides : timeSides (some s) = (hour, minute) := by
    rw [timeSides, Option.bind_some, cut]
    rfl
  rw [sides]
  exact ⟨twoHour, twoMinute⟩

/-- A time that is not written at all has two zeros on either side. -/
theorem twoDigits_timeSides (proper : ∀ s, text = some s → IsTimeOfDay s) :
    TwoDigits 23 (timeSides text).1 ∧ TwoDigits 59 (timeSides text).2 := by
  cases text with
  | none =>
    have zeros : timeSides none = (Decimal.padded 2 0, Decimal.padded 2 0) := by decide
    rw [zeros]
    exact ⟨twoDigits_padded (by decide) (by decide), twoDigits_padded (by decide) (by decide)⟩
  | some s => exact (proper s rfl).sides

theorem isTimeOfDay_spliceTime (within : value ≤ part.limit) (proper : ∀ s, text = some s → IsTimeOfDay s) :
    IsTimeOfDay (spliceTime part value text) := by
  obtain ⟨twoHour, twoMinute⟩ := twoDigits_timeSides proper
  cases part with
  | hour =>
    have written : (spliceTime .hour value text).toList = Decimal.padded 2 value ++ ':' :: (timeSides text).2 :=
      String.toList_ofList
    exact ⟨_, _, written, twoDigits_padded within (by decide), twoMinute⟩
  | minute =>
    have written : (spliceTime .minute value text).toList = (timeSides text).1 ++ ':' :: Decimal.padded 2 value :=
      String.toList_ofList
    exact ⟨_, _, written, twoHour, twoDigits_padded within (by decide)⟩

end Strings

/-- An edit of a time to a number that can be shown on a clock keeps all times of a planner times of a day. -/
theorem ChargeProfile.edit_timesOfDay {p : ChargeProfile} {e : ChargeEdit} (proper : p.plan.TimesOfDay)
    (within : ∀ f value, e = .time f value → value ≤ f.part.limit) : (p.edit e).plan.TimesOfDay := by
  intro slot text written
  rcases edit_cases p e with ⟨f, value, asked, place, plan, _⟩ | ⟨same, _⟩
  · rw [plan, Plan.timeText?_mapTimeText place] at written
    split at written
    · cases written
      exact isTimeOfDay_spliceTime (within f value asked) fun s before => proper f.slot s before
    · exact proper slot text written
  · rw [(same slot).2] at written
    exact proper slot text written

/-- What passes the test is within the limit once it is cast, whatever the number of the command is. -/
theorem wholeUpTo?_le {part : TimePart} {n : Nat} {x : Float} (whole : wholeUpTo? part.limit x = some n) :
    n ≤ part.limit := by
  rw [wholeUpTo?] at whole
  split_ifs at whole with outside
  obtain ⟨-, -, within⟩ := not_or.mp outside |>.imp_right not_or.mp
  cases whole
  cases part with
  | hour => exact @toNat_toUInt32_le x 23 48 (by decide) (by decide) rfl within
  | minute => exact @toNat_toUInt32_le x 59 47 (by decide) (by decide) rfl within

/-- Whatever the number of a command is, an hour or a minute is only ever set within its limit. -/
theorem ChargeTarget.edit_within {target : ChargeTarget} {command : Command} {f : TimeField} {value : Nat}
    (asked : target.edit command = .ok (.time f value)) : value ≤ f.part.limit := by
  unfold edit at asked
  split at asked
  case h_6 g x =>
    split at asked
    · rename_i n whole
      cases asked
      exact wholeUpTo?_le whole
    · cases asked
  all_goals cases asked

end VehicleLink
