import Mathlib.Data.Int.Init
import VehicleLink.Proofs.Calendar.Order

namespace VehicleLink.Calendar

/-- There is such a day in the year. -/
structure Date.Proper (d : Date) : Prop where
  month_pos : 1 ≤ d.month
  month_le : d.month ≤ 12
  day_pos : 1 ≤ d.day
  day_le : d.day ≤ daysIn d.year d.month

/-- How many days a year has. -/
def yearDays (year : Int) : Nat := if isLeapYear year then 366 else 365

/-- How many days lie between the beginning of the year 1 and the beginning of a year. -/
def daysBeforeYear (year : Int) : Int :=
  (year - 1) * 365 + (year - 1) / 4 - (year - 1) / 100 + (year - 1) / 400

section Lengths

variable {year year' : Int} {month month' : Nat}

theorem daysBeforeYear_succ (year : Int) : daysBeforeYear (year + 1) = daysBeforeYear year + yearDays year := by
  unfold daysBeforeYear yearDays isLeapYear
  by_cases four : year % 4 = 0 <;> by_cases hundred : year % 100 = 0 <;> by_cases cycle : year % 400 = 0 <;>
    simp [four, hundred, cycle] <;> omega

theorem daysBefore_succ (month_pos : 1 ≤ month) :
    daysBefore year (month + 1) = daysBefore year month + daysIn year month := by
  obtain ⟨m, rfl⟩ : ∃ m, month = m + 1 := ⟨month - 1, by omega⟩
  simp [daysBefore, List.range_succ, List.foldl_append]

theorem daysIn_december (year : Int) : daysIn year 12 = 31 := rfl

/-- The months make up the year. -/
theorem daysBefore_december (year : Int) : daysBefore year 12 + 31 = yearDays year := by
  have months : List.range 11 = [0, 1, 2, 3, 4, 5, 6, 7, 8, 9, 10] := rfl
  unfold daysBefore yearDays
  cases leap : isLeapYear year <;> simp [months, daysIn, leap]

theorem daysBefore_add_le (month_pos : 1 ≤ month) (later : month < month') :
    daysBefore year month + daysIn year month ≤ daysBefore year month' := by
  induction month', later using Nat.le_induction with
  | base => exact (daysBefore_succ month_pos).ge
  | succ m later ih =>
    have step : daysBefore year (m + 1) = daysBefore year m + daysIn year m :=
      daysBefore_succ (by omega)
    omega

theorem daysBeforeYear_add_le (later : year < year') :
    daysBeforeYear year + yearDays year ≤ daysBeforeYear year' := by
  induction year', later using Int.leInduction with
  | base => exact (daysBeforeYear_succ year).ge
  | succ y later ih =>
    have step := daysBeforeYear_succ y
    omega

end Lengths

namespace Date

variable {a b d : Date}

theorem dayNumber_eq (d : Date) :
    d.dayNumber = daysBeforeYear d.year + daysBefore d.year d.month + d.day - 719163 := rfl

/-- A day of the year is not behind the end of the year. -/
theorem Proper.dayOfYear_le (proper : d.Proper) : daysBefore d.year d.month + d.day ≤ yearDays d.year := by
  have inMonth := proper.day_le
  rcases Nat.lt_or_ge d.month 12 with before | last
  · have rest : daysBefore d.year d.month + daysIn d.year d.month ≤ daysBefore d.year 12 :=
      daysBefore_add_le proper.month_pos before
    have whole := daysBefore_december d.year
    omega
  · have december : d.month = 12 := by have := proper.month_le; omega
    have whole := daysBefore_december d.year
    rw [december, daysIn_december] at inMonth
    rw [december]
    omega

theorem one_le_daysIn (year : Int) (month : Nat) : 1 ≤ daysIn year month := by
  unfold daysIn
  split_ifs <;> omega

/-- The day after a date is a date that there is, also at the end of February and of the year. -/
theorem Proper.next (proper : d.Proper) : d.next.Proper := by
  obtain ⟨month_pos, month_le, day_pos, day_le⟩ := proper
  unfold Date.next
  split_ifs with inside before
  · exact ⟨month_pos, month_le, Nat.le_add_left 1 d.day, inside⟩
  · exact ⟨Nat.le_add_left 1 d.month, before, le_rfl, one_le_daysIn d.year (d.month + 1)⟩
  · exact ⟨le_rfl, Nat.le_add_left 1 11, le_rfl, one_le_daysIn (d.year + 1) 1⟩

theorem Proper.previous (proper : d.Proper) : d.previous.Proper := by
  obtain ⟨month_pos, month_le, day_pos, day_le⟩ := proper
  unfold Date.previous
  split_ifs with inside behind
  · exact ⟨month_pos, month_le, Nat.le_sub_one_of_lt inside, (Nat.sub_le d.day 1).trans day_le⟩
  · exact ⟨Nat.le_sub_one_of_lt behind, (Nat.sub_le d.month 1).trans month_le, one_le_daysIn d.year (d.month - 1),
      le_rfl⟩
  · exact ⟨Nat.le_add_left 1 11, le_rfl, Nat.le_add_left 1 30, (daysIn_december (d.year - 1)).ge⟩

/-- The day after a date has the next number. -/
theorem dayNumber_next (proper : d.Proper) : d.next.dayNumber = d.dayNumber + 1 := by
  obtain ⟨month_pos, month_le, day_pos, day_le⟩ := proper
  unfold Date.next
  split_ifs with inside before
  · simp only [dayNumber_eq]
    omega
  · have step : daysBefore d.year (d.month + 1) = daysBefore d.year d.month + daysIn d.year d.month :=
      daysBefore_succ month_pos
    simp only [dayNumber_eq]
    omega
  · have december : d.month = 12 := by omega
    have step := daysBeforeYear_succ d.year
    have whole := daysBefore_december d.year
    have first : daysBefore (d.year + 1) 1 = 0 := rfl
    have last := daysIn_december d.year
    rw [december] at inside day_le
    simp only [dayNumber_eq, december]
    omega

theorem dayNumber_previous (proper : d.Proper) : d.previous.dayNumber = d.dayNumber - 1 := by
  obtain ⟨month_pos, month_le, day_pos, day_le⟩ := proper
  unfold Date.previous
  split_ifs with inside behind
  · simp only [dayNumber_eq]
    omega
  · have step : daysBefore d.year (d.month - 1 + 1) =
        daysBefore d.year (d.month - 1) + daysIn d.year (d.month - 1) := daysBefore_succ (by omega)
    rw [Nat.sub_add_cancel month_pos] at step
    simp only [dayNumber_eq]
    omega
  · have january : d.month = 1 := by omega
    have step := daysBeforeYear_succ (d.year - 1)
    have whole := daysBefore_december (d.year - 1)
    have first : daysBefore d.year 1 = 0 := rfl
    rw [Int.sub_add_cancel] at step
    simp only [dayNumber_eq, january]
    omega

/-- A later date has a greater number. -/
theorem dayNumber_lt (proper : a.Proper) (proper' : b.Proper) (before : a < b) : a.dayNumber < b.dayNumber := by
  have weighed : a.year < b.year ∨ a.year = b.year ∧ (a.month < b.month ∨ a.month = b.month ∧ a.day < b.day) := by
    simpa [Date.before] using before_iff.mpr before
  have first := proper'.day_pos
  rcases weighed with year | ⟨year, month | ⟨month, day⟩⟩
  · have inYear := proper.dayOfYear_le
    have years := daysBeforeYear_add_le year
    simp only [dayNumber_eq]
    omega
  · have inMonth := proper.day_le
    have months : daysBefore a.year a.month + daysIn a.year a.month ≤ daysBefore a.year b.month :=
      daysBefore_add_le proper.month_pos month
    rw [year] at inMonth months
    simp only [dayNumber_eq, year]
    omega
  · simp only [dayNumber_eq, year, month]
    omega

/-- A number belongs to one date only. -/
theorem eq_of_dayNumber_eq (proper : a.Proper) (proper' : b.Proper) (same : a.dayNumber = b.dayNumber) : a = b := by
  rcases lt_trichotomy a b with before | equal | behind
  · exact absurd same (dayNumber_lt proper proper' before).ne
  · exact equal
  · exact absurd same (dayNumber_lt proper' proper behind).ne'

end Date

/-- There is such a day, and such a second in it. -/
structure Moment.Proper (t : Moment) : Prop where
  date : t.date.Proper
  second_lt : t.second < daySeconds

namespace Moment

variable {t u : Moment} {seconds : Int}

/-- Apart from the mark of a leap second, a moment is told by its seconds since the epoch. -/
theorem eq_of_epoch_eq (proper : t.Proper) (proper' : u.Proper) (leap : t.leap = u.leap)
    (same : t.epoch = u.epoch) : t = u := by
  have below := proper.second_lt
  have below' := proper'.second_lt
  unfold epoch daySeconds at same
  unfold daySeconds at below below'
  have days : t.date.dayNumber = u.date.dayNumber := by omega
  have second : t.second = u.second := by omega
  have date := Date.eq_of_dayNumber_eq proper.date proper'.date days
  exact Moment.mk.injEq .. |>.mpr ⟨date, second, leap⟩

/-- The three ways in which a moment is moved: to the day before, within its day, to the day after. -/
theorem shift_cases (proper : t.Proper) (within : seconds.natAbs ≤ daySeconds) :
    ∃ second : Nat, second < daySeconds ∧
      (t.shift seconds = ⟨t.date.previous, second, t.leap⟩ ∧ (second : Int) = t.second + seconds + daySeconds ∨
        t.shift seconds = ⟨t.date, second, t.leap⟩ ∧ (second : Int) = t.second + seconds ∨
        t.shift seconds = ⟨t.date.next, second, t.leap⟩ ∧ (second : Int) = t.second + seconds - daySeconds) := by
  have below := proper.second_lt
  unfold daySeconds at below within ⊢
  unfold shift daySeconds
  dsimp only
  split_ifs with early late
  · exact ⟨_, by omega, .inl ⟨rfl, by omega⟩⟩
  · exact ⟨_, by omega, .inr (.inl ⟨rfl, by omega⟩)⟩
  · exact ⟨_, by omega, .inr (.inr ⟨rfl, by omega⟩)⟩

theorem shift_leap (t : Moment) (seconds : Int) : (t.shift seconds).leap = t.leap := by
  unfold shift
  dsimp only
  split_ifs <;> rfl

theorem Proper.shift (proper : t.Proper) (within : seconds.natAbs ≤ daySeconds) : (t.shift seconds).Proper := by
  obtain ⟨second, below, ⟨moved, _⟩ | ⟨moved, _⟩ | ⟨moved, _⟩⟩ := shift_cases proper within <;> rw [moved]
  · exact ⟨proper.date.previous, below⟩
  · exact ⟨proper.date, below⟩
  · exact ⟨proper.date.next, below⟩

/-- A moment that is moved by some seconds lies exactly those seconds later. -/
theorem epoch_shift (proper : t.Proper) (within : seconds.natAbs ≤ daySeconds) :
    (t.shift seconds).epoch = t.epoch + seconds := by
  have before := Date.dayNumber_previous proper.date
  have after := Date.dayNumber_next proper.date
  obtain ⟨second, _, ⟨moved, same⟩ | ⟨moved, same⟩ | ⟨moved, same⟩⟩ := shift_cases proper within <;>
  · simp only [epoch, daySeconds, moved] at same ⊢
    omega

/-- Within a day a moment moves by one year at most. -/
theorem year_shift (proper : t.Proper) (within : seconds.natAbs ≤ daySeconds) :
    t.date.year - 1 ≤ (t.shift seconds).date.year ∧ (t.shift seconds).date.year ≤ t.date.year + 1 := by
  obtain ⟨second, _, ⟨moved, _⟩ | ⟨moved, _⟩ | ⟨moved, _⟩⟩ := shift_cases proper within <;> rw [moved]
  · unfold Date.previous
    split_ifs <;> simp only <;> omega
  · simp only
    omega
  · unfold Date.next
    split_ifs <;> simp only <;> omega

end Moment

/-- A moment without a leap second. -/
structure Moment.Civil (t : Moment) : Prop extends t.Proper where
  leap_eq : t.leap = false

theorem Moment.Civil.shift {t : Moment} (civil : t.Civil) {seconds : Int} (within : seconds.natAbs ≤ daySeconds) :
    (t.shift seconds).Civil :=
  ⟨civil.toProper.shift within, (shift_leap t seconds).trans civil.leap_eq⟩

/-- Only one moment lies so many seconds later. -/
theorem Moment.Civil.eq_shift {t u : Moment} (civil : t.Civil) (civil' : u.Civil) {seconds : Int}
    (within : seconds.natAbs ≤ daySeconds) (later : u.epoch = t.epoch + seconds) : u = t.shift seconds := by
  have moved := civil.shift within
  have leap : u.leap = (t.shift seconds).leap := civil'.leap_eq.trans moved.leap_eq.symm
  exact eq_of_epoch_eq civil'.toProper moved.toProper leap (later.trans (epoch_shift civil.toProper within).symm)

end VehicleLink.Calendar
