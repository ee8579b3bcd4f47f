import Mathlib
import VehicleLink.Proofs.Charging.RoundTrip
import VehicleLink.Proofs.Decimal.Digits
import VehicleLink.Proofs.Text.Cutting

namespace VehicleLink

/-- The two sides of a written time around its colon, as an edit takes them: two zeros where there is no
time or no colon. -/
def timeSides (text : Option String) : List Char × List Char :=
  (text.bind fun s => Text.cutAt (· == ':') s.toList).getD (['0', '0'], ['0', '0'])

namespace TimePart

/-- The other part of a time. -/
def other : TimePart → TimePart
  | .hour => .minute
  | .minute => .hour

theorem ne_other (part : TimePart) : part ≠ part.other := by
  cases part <;> decide

/-- The side of a written time at which a part stands. -/
def side : TimePart → List Char × List Char → List Char
  | .hour, sides => sides.1
  | .minute, sides => sides.2

/-- What one part of a written time is read as by itself. -/
def read? (part : TimePart) (text : Option String) : Option Nat :=
  Decimal.readNat? Decimal.max32 (Text.trimChars (part.side (timeSides text)))

end TimePart

/-- The other part of the same time. -/
def TimeField.counterpart (f : TimeField) : TimeField := ⟨f.slot, f.part.other⟩

/-- What an edit sets an hour or a minute to, if it does. -/
def ChargeEdit.sets (f : TimeField) : ChargeEdit → Option Nat
  | .time g value => if g = f then some value else none
  | _ => none

/-- What edits set an hour or a minute to last, if they do. -/
def lastSet (es : List ChargeEdit) (f : TimeField) : Option Nat :=
  es.foldl (fun last e => (e.sets f).or last) none

section Sides

theorem not_colon_of_isDigit {c : Char} (digit : c.isDigit = true) : (c == ':') = false := by
  refine beq_eq_false_iff_ne.mpr ?_
  rintro rfl
  cases digit

/-- The hour of a written time holds no colon. -/
theorem timeSides_fst (text : Option String) : ∀ c ∈ (timeSides text).1, (c == ':') = false := by
  unfold timeSides
  cases cut : text.bind fun s => Text.cutAt (· == ':') s.toList with
  | none => simp
  | some sides =>
    obtain ⟨s, _, here⟩ := Option.bind_eq_some_iff.mp cut
    obtain ⟨_, _, _, absent⟩ := Text.exists_of_cutAt here
    exact absent

/-- An edit of a time replaces one of its sides. -/
theorem cutAt_spliceTime (part : TimePart) (value : Nat) (text : Option String) :
    Text.cutAt (· == ':') (spliceTime part value text).toList = some (match part with
      | .hour => (Decimal.padded 2 value, (timeSides text).2)
      | .minute => ((timeSides text).1, Decimal.padded 2 value)) := by
  unfold spliceTime
  cases part with
  | hour =>
    rw [String.toList_ofList]
    exact Text.cutAt_append (fun c member => not_colon_of_isDigit (Decimal.isDigit_of_mem_padded member)) rfl
  | minute =>
    rw [String.toList_ofList]
    exact Text.cutAt_append (timeSides_fst text) rfl

end Sides

section Padded

theorem trimChars_digits {cs : List Char} (all : ∀ c ∈ cs, c.isDigit = true) : Text.trimChars cs = cs :=
  Text.trimChars_of_bare (Text.bare_of_forall fun c member => Text.isBlank_of_isDigit (all c member))

/-- A number of 32 bits is read back from its digits. -/
theorem readNat?_padded {width n : Nat} (fits : n ≤ Decimal.max32) :
    Decimal.readNat? Decimal.max32 (Text.trimChars (Decimal.padded width n)) = some n := by
  have all : ∀ c ∈ Decimal.padded width n, c.isDigit = true := fun c => Decimal.isDigit_of_mem_padded
  have value : Nat.ofDigitChars 10 (Decimal.padded width n) 0 = n := by
    rw [← Decimal.ofDigitsFrom_eq all]
    exact Decimal.ofDigits_padded width n
  rw [trimChars_digits all, Decimal.readNat?_eq_some_iff]
  exact ⟨fits, _, Decimal.padded_ne_nil width n, all, .inl rfl, value⟩

end Padded

theorem timeSides_spliceTime (part : TimePart) (value : Nat) (text : Option String) :
    timeSides (some (spliceTime part value text)) = match part with
      | .hour => (Decimal.padded 2 value, (timeSides text).2)
      | .minute => ((timeSides text).1, Decimal.padded 2 value) := by
  have cut := cutAt_spliceTime part value text
  rw [timeSides, Option.bind_some, cut]
  rfl

namespace TimePart

/-- The part that an edit sets is read as it was set. -/
theorem read?_spliceTime (part : TimePart) {value : Nat} (fits : value ≤ Decimal.max32)
    (text : Option String) : part.read? (some (spliceTime part value text)) = some value := by
  rw [read?, timeSides_spliceTime]
  cases part <;> exact readNat?_padded fits

/-- The other part is read as before. -/
theorem read?_spliceTime_other {part other : TimePart} (differs : other ≠ part) (value : Nat)
    (text : Option String) : other.read? (some (spliceTime part value text)) = other.read? text := by
  rw [read?, read?, timeSides_spliceTime]
  cases part <;> cases other <;> first | rfl | exact absurd rfl differs

end TimePart

/-- A time with a colon is read when both of its parts are. -/
theorem readTime?_of_cut {s : String} {sides : List Char × List Char}
    (cut : Text.cutAt (· == ':') s.toList = some sides) :
    readTime? s = (TimePart.hour.read? (some s)).bind fun hour =>
      (TimePart.minute.read? (some s)).map fun minute => (hour, minute) := by
  have same : timeSides (some s) = sides := by
    rw [timeSides, Option.bind_some, cut]
    rfl
  rw [readTime?, cut, TimePart.read?, TimePart.read?, same]
  simp only [Option.bind_eq_bind, Option.bind_some, TimePart.side]
  cases Decimal.readNat? Decimal.max32 (Text.trimChars sides.1) with
  | none => rfl
  | some hour =>
    cases Decimal.readNat? Decimal.max32 (Text.trimChars sides.2) <;> rfl

/-- One part of a time is known when it can be read and the other part can. -/
theorem readTime?_part {s : String} {sides : List Char × List Char}
    (cut : Text.cutAt (· == ':') s.toList = some sides) (part : TimePart) :
    (readTime? s).map part.of =
      if part.other.read? (some s) = none then none else part.read? (some s) := by
  rw [readTime?_of_cut cut]
  cases part with
  | hour =>
    cases TimePart.hour.read? (some s) with
    | none => simp
    | some hour => cases minute : TimePart.minute.read? (some s) <;> simp [TimePart.other, minute, TimePart.of]
  | minute =>
    cases hour : TimePart.hour.read? (some s) with
    | none => simp [TimePart.other, hour]
    | some hour =>
      cases minute : TimePart.minute.read? (some s) <;> simp [TimePart.other, TimePart.of, hour]

namespace Plan

variable {plan : Plan}

@[simp] theorem timer?_mapTimer (f : Timer → Timer) (timer other : TimerId) :
    (plan.mapTimer f timer).timer? other =
      if other = timer then (plan.timer? other).map f else plan.timer? other := by
  cases plan <;> cases timer <;> cases other <;> rfl

@[simp] theorem window?_mapTimer (f : Timer → Timer) (timer : TimerId) :
    (plan.mapTimer f timer).window? = plan.window? := by
  cases plan <;> cases timer <;> rfl

@[simp] theorem timer?_mapWindow (f : ChargingWindow → ChargingWindow) (timer : TimerId) :
    (plan.mapWindow f).timer? timer = plan.timer? timer := by
  cases plan <;> cases timer <;> rfl

@[simp] theorem window?_mapWindow (f : ChargingWindow → ChargingWindow) :
    (plan.mapWindow f).window? = plan.window?.map f := by
  cases plan <;> rfl

/-- Where a time has no place there is no text of it. -/
theorem timeText?_of_not_hasSlot {slot : TimeSlot} (missing : ¬plan.hasSlot slot) :
    plan.timeText? slot = none := by
  cases slot with
  | windowStart | windowEnd =>
    have none : plan.window? = none := by simpa [hasSlot] using missing
    rw [timeText?, none, Option.bind_none]
  | departure timer =>
    have none : plan.timer? timer = none := by simpa [hasSlot] using missing
    rw [timeText?, none, Option.bind_none]

/-- Two plans have the same places for times with the same texts in them. -/
def SameTimes (before after : Plan) : Prop :=
  ∀ slot, after.hasSlot slot = before.hasSlot slot ∧ after.timeText? slot = before.timeText? slot

theorem sameTimes_mapTimer {f : Timer → Timer} (keeps : ∀ t, (f t).departureTime = t.departureTime)
    (timer : TimerId) : SameTimes plan (plan.mapTimer f timer) := by
  intro slot
  cases slot with
  | windowStart | windowEnd => simp [hasSlot, timeText?]
  | departure other =>
    by_cases same : other = timer
    · cases held : plan.timer? other <;> simp [hasSlot, timeText?, same ▸ held, same, keeps]
    · simp [hasSlot, timeText?, same]

theorem sameTimes_mapWeekly {f : WeeklyPlanner → WeeklyPlanner}
    (timers : ∀ p timer, (Plan.weekly (f p)).timer? timer = (Plan.weekly p).timer? timer)
    (window : ∀ p, (f p).window = p.window) : SameTimes plan (plan.mapWeekly f) := by
  intro slot
  cases plan with
  | weekly p => cases slot <;> simp [hasSlot, timeText?, mapWeekly, window?, timers, window]
  | twoTimes p => exact ⟨rfl, rfl⟩
  | empty => exact ⟨rfl, rfl⟩

/-- Replacing a written time opens no place and closes none. -/
theorem hasSlot_mapTimeText (f : Option String → String) (slot other : TimeSlot) :
    (plan.mapTimeText f slot).hasSlot other = plan.hasSlot other := by
  cases slot <;> cases other <;> simp [mapTimeText, hasSlot]
  split <;> simp

/-- Replacing a written time replaces that one and no other. -/
theorem timeText?_mapTimeText {f : Option String → String} {slot : TimeSlot} (place : plan.hasSlot slot)
    (other : TimeSlot) : (plan.mapTimeText f slot).timeText? other =
      if other = slot then some (f (plan.timeText? slot)) else plan.timeText? other := by
  cases slot with
  | windowStart =>
    obtain ⟨w, held⟩ := Option.isSome_iff_exists.mp place
    cases other <;> simp [mapTimeText, timeText?, held]
  | windowEnd =>
    obtain ⟨w, held⟩ := Option.isSome_iff_exists.mp place
    cases other <;> simp [mapTimeText, timeText?, held]
  | departure timer =>
    obtain ⟨t, held⟩ := Option.isSome_iff_exists.mp place
    cases other with
    | windowStart | windowEnd => simp [mapTimeText, timeText?]
    | departure other =>
      by_cases same : other = timer
      · subst same
        simp [mapTimeText, timeText?, held]
      · simp [mapTimeText, timeText?, same]

end Plan

theorem TimeField.eq_counterpart {f g : TimeField} (slot : g.slot = f.slot) (differs : g ≠ f) :
    g = f.counterpart := by
  obtain ⟨slot', part'⟩ := g
  obtain ⟨slot, part⟩ := f
  cases slot
  cases part' <;> cases part <;> first | rfl | exact absurd rfl differs

theorem lastSet_append (es : List ChargeEdit) (e : ChargeEdit) (f : TimeField) :
    lastSet (es ++ [e]) f = (e.sets f).or (lastSet es f) := by
  rw [lastSet, List.foldl_append]
  rfl

namespace ChargeProfile

variable {p : ChargeProfile}

/-- An edit replaces the text of one time, where there is a place for it, and takes a note of the number;
or it leaves all times as they are. -/
theorem edit_cases (p : ChargeProfile) (e : ChargeEdit) :
    (∃ g value, e = .time g value ∧ p.plan.hasSlot g.slot ∧
      (p.edit e).plan = p.plan.mapTimeText (spliceTime g.part value) g.slot ∧
      ∀ f, (p.edit e).times f = if f = g then some value else p.times f) ∨
    (Plan.SameTimes p.plan (p.edit e).plan ∧ (p.edit e).times = p.times ∧
      ∀ f, p.plan.hasSlot f.slot → e.sets f = none) := by
  cases e with
  | time g value =>
    by_cases place : p.plan.hasSlot g.slot
    · left
      refine ⟨g, value, rfl, place, ?_⟩
      rw [edit, setTime, if_pos place]
      exact ⟨rfl, fun f => rfl⟩
    · right
      rw [edit, setTime, if_neg place]
      refine ⟨fun slot => ⟨rfl, rfl⟩, rfl, fun f here => ?_⟩
      have differs : g ≠ f := by
        rintro rfl
        exact place here
      rw [ChargeEdit.sets, if_neg differs]
  | enabled timer on =>
    refine Or.inr ⟨Plan.sameTimes_mapTimer ?_ timer, rfl, fun f _ => rfl⟩
    intro t
    rfl
  | day timer day selected =>
    right
    have keeps (t : Timer) : (t.setDay day selected).departureTime = t.departureTime := by
      unfold Timer.setDay
      split <;> rfl
    rw [edit, setDay]
    split
    · exact ⟨Plan.sameTimes_mapTimer keeps timer, rfl, fun f _ => rfl⟩
    · exact ⟨fun slot => ⟨rfl, rfl⟩, rfl, fun f _ => rfl⟩
  | climate on | mode text | preference text =>
    refine Or.inr ⟨Plan.sameTimes_mapWeekly ?_ ?_, rfl, fun f _ => rfl⟩
    · intro planner timer
      cases timer <;> rfl
    · intro planner
      rfl

/-- Where an hour or a minute stands after edits: what was set last is what is noted and what is written,
and else both are as before. -/
structure Followed (p : ChargeProfile) (es : List ChargeEdit) (f : TimeField) : Prop where
  place : (p.edits es).plan.hasSlot f.slot
  noted : (p.edits es).times f = (lastSet es f).or (p.times f)
  written : f.part.read? ((p.edits es).plan.timeText? f.slot) =
    (lastSet es f).or (f.part.read? (p.plan.timeText? f.slot))
  divided : (lastSet es f).isSome ∨ (lastSet es f.counterpart).isSome →
    ∃ s sides, (p.edits es).plan.timeText? f.slot = some s ∧ Text.cutAt (· == ':') s.toList = some sides
  untouched : lastSet es f = none → lastSet es f.counterpart = none →
    (p.edits es).plan.timeText? f.slot = p.plan.timeText? f.slot

theorem edits_append (p : ChargeProfile) (es : List ChargeEdit) (e : ChargeEdit) :
    p.edits (es ++ [e]) = (p.edits es).edit e := by
  rw [edits, List.foldl_append]
  rfl

/-- An edit of something else leaves an hour or a minute where it stands. -/
theorem Followed.keep {f : TimeField} {es : List ChargeEdit} {e : ChargeEdit} (now : p.Followed es f)
    (slot : ((p.edits es).edit e).plan.hasSlot f.slot)
    (text : ((p.edits es).edit e).plan.timeText? f.slot = (p.edits es).plan.timeText? f.slot)
    (times : ((p.edits es).edit e).times f = (p.edits es).times f)
    (own : e.sets f = none) (opposite : e.sets f.counterpart = none) : p.Followed (es ++ [e]) f := by
  have here : lastSet (es ++ [e]) f = lastSet es f := by rw [lastSet_append, own, Option.none_or]
  have there : lastSet (es ++ [e]) f.counterpart = lastSet es f.counterpart := by
    rw [lastSet_append, opposite, Option.none_or]
  rw [← edits_append] at slot text times
  refine ⟨slot, ?_, ?_, ?_, ?_⟩
  · rw [times, here, now.noted]
  · rw [text, here, now.written]
  · rw [text, here, there]
    exact now.divided
  · rw [text, here, there]
    exact now.untouched

/-- The slot of an hour or a minute is edited: either that part of the time is set, or the other one. -/
theorem Followed.set {f g : TimeField} {es : List ChargeEdit} {value : Nat} (now : p.Followed es f)
    (same : g.slot = f.slot) (small : value ≤ Decimal.max32)
    (slot : ((p.edits es).edit (.time g value)).plan.hasSlot f.slot)
    (text : ((p.edits es).edit (.time g value)).plan.timeText? f.slot =
      some (spliceTime g.part value ((p.edits es).plan.timeText? f.slot)))
    (times : ((p.edits es).edit (.time g value)).times f = if f = g then some value else (p.edits es).times f) :
    p.Followed (es ++ [.time g value]) f := by
  have cut := cutAt_spliceTime g.part value ((p.edits es).plan.timeText? f.slot)
  have setting (h : TimeField) : lastSet (es ++ [.time g value]) h =
      if g = h then some value else lastSet es h := by
    rw [lastSet_append, ChargeEdit.sets]
    split <;> rfl
  rw [← edits_append] at slot text times
  by_cases own : g = f
  · subst own
    refine ⟨slot, ?_, ?_, fun _ => ⟨_, _, text, cut⟩, fun unset => ?_⟩
    · rw [times, setting, if_pos rfl, if_pos rfl, Option.some_or]
    · rw [text, setting, if_pos rfl, Option.some_or, TimePart.read?_spliceTime _ small]
    · rw [setting, if_pos rfl] at unset
      cases unset
  · have counterpart : g = f.counterpart := TimeField.eq_counterpart same own
    have parts : f.part ≠ g.part := counterpart ▸ f.part.ne_other
    refine ⟨slot, ?_, ?_, fun _ => ⟨_, _, text, cut⟩, fun _ unset => ?_⟩
    · rw [times, if_neg (Ne.symm own), setting, if_neg own, now.noted]
    · rw [text, setting, if_neg own, TimePart.read?_spliceTime_other parts, now.written]
    · rw [setting, if_pos counterpart] at unset
      cases unset

theorem followed {f : TimeField} (place : p.plan.hasSlot f.slot) {es : List ChargeEdit}
    (fits : ∀ g value, .time g value ∈ es → value ≤ Decimal.max32) : p.Followed es f := by
  -- From the right end: what was set last is what counts.
  induction es using List.reverseRecOn with
  | nil => exact ⟨place, rfl, rfl, fun set => by simp [lastSet] at set, fun _ _ => rfl⟩
  | append_singleton es e ih =>
    have now : p.Followed es f := ih fun g value member => fits g value (List.mem_append_left _ member)
    rcases edit_cases (p.edits es) e with ⟨g, value, rfl, place', plan, times⟩ | ⟨same, times, sets⟩
    · have slot : ((p.edits es).edit (.time g value)).plan.hasSlot f.slot := by
        rw [plan, Plan.hasSlot_mapTimeText]
        exact now.place
      have text := Plan.timeText?_mapTimeText (f := spliceTime g.part value) place' f.slot
      rw [← plan] at text
      by_cases here : f.slot = g.slot
      · rw [if_pos here, ← here] at text
        exact now.set here.symm (fits g value (by simp)) slot text (times f)
      · rw [if_neg here] at text
        have differs (h : TimeField) (inSlot : h.slot = f.slot) : g ≠ h := by
          rintro rfl
          exact here inSlot.symm
        have unset (h : TimeField) (inSlot : h.slot = f.slot) : (ChargeEdit.time g value).sets h = none :=
          if_neg (differs h inSlot)
        refine now.keep slot text ?_ (unset f rfl) (unset f.counterpart rfl)
        rw [times, if_neg (differs f rfl).symm]
    · obtain ⟨slots, texts⟩ := same f.slot
      exact now.keep (slots ▸ now.place) texts (congrFun times f) (sets f now.place)
        (sets f.counterpart now.place)

/-- Edits have left an hour or a minute out of step with what is written. They have set it to a number that
can be shown, while the other part of the time was never set and cannot be read; or they have set only the
other part of a time that was not known, and this part can be read from what is written now. -/
def Stale (p : ChargeProfile) (es : List ChargeEdit) (f : TimeField) : Prop :=
  p.plan.hasSlot f.slot ∧ match lastSet es f, lastSet es f.counterpart with
    | some value, none => value < 0x80000000 ∧ f.part.other.read? (p.plan.timeText? f.slot) = none
    | none, some _ => p.plan.times f = none ∧
        ∃ value < 0x80000000, f.part.read? (p.plan.timeText? f.slot) = some value
    | _, _ => False

theorem time_eq_iff {q : ChargeProfile} {f : TimeField} :
    p.time f = q.time f ↔ p.time? f = q.time? f := by
  unfold time
  cases p.time? f with
  | none => cases q.time? f <;> simp
  | some m => cases q.time? f <;> simp

/-- A time that is known as a whole has that part written in it. -/
theorem read?_of_times {f : TimeField} {n : Nat} (known : p.plan.times f = some n) :
    f.part.read? (p.plan.timeText? f.slot) = some n := by
  rw [Plan.times] at known
  cases text : p.plan.timeText? f.slot with
  | none =>
    rw [text] at known
    cases known
  | some s =>
    rw [text, Option.bind_some] at known
    cases cut : Text.cutAt (· == ':') s.toList with
    | none =>
      rw [readTime?, cut] at known
      cases known
    | some sides =>
      rw [readTime?_part cut] at known
      split at known
      · cases known
      · exact known

/-- Where a time has no place, edits neither make one nor take a note of a number. -/
theorem unplaced {f : TimeField} (missing : ¬p.plan.hasSlot f.slot) (es : List ChargeEdit) :
    ¬(p.edits es).plan.hasSlot f.slot ∧ (p.edits es).times f = p.times f := by
  induction es using List.reverseRecOn with
  | nil => exact ⟨missing, rfl⟩
  | append_singleton es e ih =>
    obtain ⟨missing', same⟩ := ih
    rw [edits_append]
    rcases edit_cases (p.edits es) e with ⟨g, value, rfl, place, plan, times⟩ | ⟨slots, times, _⟩
    · have differs : f ≠ g := by
        rintro rfl
        exact missing' place
      rw [plan, Plan.hasSlot_mapTimeText, times, if_neg differs]
      exact ⟨missing', same⟩
    · rw [(slots f.slot).1, times]
      exact ⟨missing', same⟩

/-- Once an edit has set a part of a time, both parts are read from what is written then. -/
theorem Followed.times {es : List ChargeEdit} {f : TimeField} (own : p.Followed es f)
    (opposite : p.Followed es f.counterpart)
    (set : (lastSet es f).isSome ∨ (lastSet es f.counterpart).isSome) :
    (p.edits es).plan.times f =
      if (lastSet es f.counterpart).or (f.part.other.read? (p.plan.timeText? f.slot)) = none then none
      else (lastSet es f).or (f.part.read? (p.plan.timeText? f.slot)) := by
  obtain ⟨s, sides, text, cut⟩ := own.divided set
  have first := own.written
  have second : f.part.other.read? ((p.edits es).plan.timeText? f.slot) = _ := opposite.written
  rw [text] at first second
  rw [Plan.times, text, Option.bind_some, readTime?_part cut, first, second]
  rfl

/-- After edits, an hour or a minute is shown as it is read from what is sent, unless it is stale. -/
theorem time_edits_iff {f : TimeField} {es : List ChargeEdit} (times : p.times = p.plan.times)
    (fits : ∀ g value, .time g value ∈ es → value ≤ Decimal.max32) (extra : List (String × Json)) :
    (p.edits es).time f = (ofPlan (p.edits es).plan extra).time f ↔ ¬p.Stale es f := by
  have view : (ofPlan (p.edits es).plan extra).time? f =
      ((p.edits es).plan.times f).filter (· < 0x80000000) := rfl
  rw [time_eq_iff, view, time?, Stale]
  by_cases place : p.plan.hasSlot f.slot
  · have own := followed place fits
    have opposite : p.Followed es f.counterpart := by
      refine followed ?_ fits
      exact place
    rw [own.noted, times]
    cases mine : lastSet es f with
    | none =>
      cases yours : lastSet es f.counterpart with
      | none =>
        have same : (p.edits es).plan.times f = p.plan.times f := by
          rw [Plan.times, own.untouched mine yours, Plan.times]
        simp [same]
      | some w =>
        have now := own.times opposite (Or.inr (by rw [yours]; rfl))
        rw [mine, yours, Option.some_or, if_neg (by simp), Option.none_or] at now
        rw [now, Option.none_or]
        cases known : p.plan.times f with
        | some n =>
          rw [read?_of_times known]
          simp
        | none =>
          cases f.part.read? (p.plan.timeText? f.slot) with
          | none => simp
          | some n => simp [place, Option.filter]
    | some v =>
      cases yours : lastSet es f.counterpart with
      | none =>
        have now := own.times opposite (Or.inl (by rw [mine]; rfl))
        rw [mine, yours, Option.some_or, Option.none_or] at now
        rw [now, Option.some_or]
        cases f.part.other.read? (p.plan.timeText? f.slot) with
        | none => simp [place, Option.filter]
        | some n => simp
      | some w =>
        have now := own.times opposite (Or.inl (by rw [mine]; rfl))
        rw [mine, yours, Option.some_or, Option.some_or, if_neg (by simp)] at now
        simp [now]
  · obtain ⟨missing, same⟩ := unplaced place es
    have before : p.plan.times f = none := by rw [Plan.times, Plan.timeText?_of_not_hasSlot place]; rfl
    have after : (p.edits es).plan.times f = none := by
      rw [Plan.times, Plan.timeText?_of_not_hasSlot missing]
      rfl
    simp [same, times, before, after, place]

/-- What is sent for an edited profile is read back with the same view of its times, but for the hours and
minutes that the edits have left stale. -/
theorem time_reread_iff {s : String} {p : ChargeProfile} (read : ofText s = .ok p)
    (reals : ∀ x, .real x ∈ p.toJson.parts → Number.ReadsBack (.real x)) {es : List ChargeEdit}
    (fits : ∀ f value, .time f value ∈ es → value ≤ Decimal.max32) :
    ∃ q, ofText (p.edits es).toText = .ok q ∧
      ∀ f, (p.edits es).time f = q.time f ↔ ¬p.Stale es f := by
  obtain ⟨_, _, fine, same, _⟩ := ofText_spec read
  have edited := (fine.readsBack reals).edits es
  have times : p.times = p.plan.times := congrArg ChargeProfile.times same
  exact ⟨_, edited.ofText_toText, fun f => time_edits_iff times fits _⟩

/-- The hour of the sample is set to six. -/
theorem time_reread_iff_sample :
    ofText sampleText = .ok sample ∧ (∀ x, .real x ∈ sample.toJson.parts → Number.ReadsBack (.real x)) ∧
      let es : List ChargeEdit := [.time ⟨.departure .timer1, .hour⟩ 6]
      (∀ f value, .time f value ∈ es → value ≤ Decimal.max32) ∧
      ∃ q, ofText (sample.edits es).toText = .ok q ∧
        ∀ f, (sample.edits es).time f = q.time f ↔ ¬sample.Stale es f := by
  have fits : ∀ f value, .time f value ∈ [ChargeEdit.time ⟨.departure .timer1, .hour⟩ 6] →
      value ≤ Decimal.max32 := by
    intro f value member
    cases List.mem_singleton.mp member
    decide
  exact ⟨sample_read, sample_reals, fits, time_reread_iff sample_read sample_reals fits⟩

/-- A timer without a departure time whose minute is set to seven: the hour is shown as unknown, and what is
sent says midnight. -/
theorem time_reread_differs :
    let p := ofPlan (.weekly { timer1 := some { enabled := some false } }) []
    let es : List ChargeEdit := [.time ⟨.departure .timer1, .minute⟩ 7]
    let q := ofPlan (.weekly { timer1 := some { departureTime := some "00:07", enabled := some false } }) []
    ofText "\x7b\"weeklyPlanner\":\x7b\"timer1\":\x7b\"timerEnabled\":false\x7d\x7d\x7d" = .ok p ∧
      ofText (p.edits es).toText = .ok q ∧
      (p.edits es).time ⟨.departure .timer1, .hour⟩ = -1 ∧ q.time ⟨.departure .timer1, .hour⟩ = 0 := by
  refine ⟨by cbv, by cbv, by decide, by decide⟩

end ChargeProfile

end VehicleLink
