import Mathlib.Data.String.Basic
import Mathlib.Order.Bounds.Basic
import VehicleLink.Proofs.Calendar.ReadBack
import VehicleLink.Proofs.Vehicle.NextService

namespace VehicleLink

open Calendar
open Decimal (padded)

/-- A month of the years 1 to 9999. -/
structure IsMonth (year month : Nat) : Prop where
  year_pos : 1 ≤ year
  year_le : year ≤ 9999
  month_pos : 1 ≤ month
  month_le : month ≤ 12

/-- A month as `YYYY-MM`. -/
def monthText (year month : Nat) : String := String.ofList (padded 4 year ++ '-' :: padded 2 month)

/-- The beginning of a month. -/
def monthStart (year month : Nat) : Moment := .midnight ⟨year, month, 1⟩

/-- The texts of a list of services that are months before the horizon. -/
def dueMonths (now : Moment) (services : List ServiceEntry) : Set String :=
  {text | ∃ year month, IsMonth year month ∧ text = monthText year month ∧
    monthStart year month < serviceHorizon now ∧ ∃ e ∈ services, e.dueDate = some text}

section Months

variable {year month year' month' : Nat}

theorem IsMonth.proper (isMonth : IsMonth year month) : Date.Proper ⟨year, month, 1⟩ :=
  ⟨isMonth.month_pos, isMonth.month_le, le_rfl, Date.one_le_daysIn year month⟩

/-- The first of the month is what stands behind the month's text with a day. -/
theorem IsMonth.date_chars (isMonth : IsMonth year month) : Date.chars ⟨year, month, 1⟩ =
    padded 4 year ++ '-' :: padded 2 month ++ ['-', '0', '1'] := by
  have upper : (year : Int) ≤ 9999 := Int.ofNat_le.mpr isMonth.year_le
  have iso : Date.chars ⟨year, month, 1⟩ = Date.iso ⟨year, month, 1⟩ :=
    Date.chars_eq_iso (Int.natCast_nonneg year) upper
  have first : padded 2 1 = ['0', '1'] := by decide
  rw [iso, Date.iso, first]
  rfl

theorem monthText_visible (year month : Nat) :
    ∀ c ∈ padded 4 year ++ '-' :: padded 2 month, Text.isBlank c = false :=
  List.forall_mem_append.mpr ⟨padded_visible 4 year, List.forall_mem_cons.mpr ⟨rfl, padded_visible 2 month⟩⟩

/-- A month is read as the moment at which it begins. -/
theorem readDueDate?_monthText (isMonth : IsMonth year month) :
    readDueDate? (monthText year month) = some (monthStart year month) := by
  have bare : Text.trimChars (monthText year month).toList = padded 4 year ++ '-' :: padded 2 month := by
    rw [monthText, String.toList_ofList]
    exact Text.trimChars_of_bare (Text.bare_of_forall (monthText_visible year month))
  have kept : inYears (year : Int) = true := by
    have upper := isMonth.year_le
    unfold inYears minYear maxYear
    simp only [Bool.and_eq_true, decide_eq_true_eq]
    omega
  have read : readDate? (padded 4 year ++ '-' :: padded 2 month ++ ['-', '0', '1']) = some ⟨year, month, 1⟩ := by
    rw [← isMonth.date_chars]
    exact readDate?_chars isMonth.proper kept
  rw [readDueDate?, bare, read]
  rfl

theorem monthStart_text (isMonth : IsMonth year month) :
    (monthStart year month).text = monthText year month ++ "-01T00:00:00" := by
  have clock : (monthStart year month).clockChars = ['0', '0', ':', '0', '0', ':', '0', '0'] := by
    have zero : padded 2 0 = ['0', '0'] := by decide
    simp [Moment.clockChars, monthStart, Moment.midnight, zero]
  have chars : (monthStart year month).chars =
      padded 4 year ++ '-' :: padded 2 month ++ ['-', '0', '1', 'T', '0', '0', ':', '0', '0', ':', '0', '0'] := by
    have date : (monthStart year month).date.chars = padded 4 year ++ '-' :: padded 2 month ++ ['-', '0', '1'] :=
      isMonth.date_chars
    rw [Moment.chars_eq, clock, date, List.append_assoc]
    rfl
  rw [Moment.text, chars, String.ofList_append]
  rfl

theorem monthStart_lt_iff : monthStart year month < monthStart year' month' ↔
    year < year' ∨ year = year' ∧ month < month' := by
  rw [← Moment.before_iff]
  unfold monthStart Moment.midnight Moment.before Date.before
  grind

theorem lt_of_append_lt {a b : List Char} (same : a.length = b.length) (less : a < b) (x y : List Char) :
    a ++ x < b ++ y := by
  induction a generalizing b with
  | nil =>
    have empty : b = [] := List.length_eq_zero_iff.mp same.symm
    rw [empty] at less
    exact absurd less (lt_irrefl _)
  | cons c a ih =>
    obtain ⟨d, b, rfl⟩ := List.exists_cons_of_length_eq_add_one same.symm
    rw [List.cons_append, List.cons_append, List.cons_lt_cons_iff]
    exact (List.cons_lt_cons_iff.mp less).imp_right fun ⟨head, rest⟩ => ⟨head, ih (Nat.succ.inj same) rest⟩

/-- A later month has the greater text. -/
theorem monthText_lt (isMonth : IsMonth year month) (isMonth' : IsMonth year' month')
    (earlier : monthStart year month < monthStart year' month') : monthText year month < monthText year' month' := by
  have year_lt : year < 10 ^ 4 := Nat.lt_succ_of_le isMonth.year_le
  have year_lt' : year' < 10 ^ 4 := Nat.lt_succ_of_le isMonth'.year_le
  have month_lt' : month' < 10 ^ 2 := isMonth'.month_le.trans_lt (by decide)
  rw [String.lt_iff, monthText, monthText, String.toList_ofList, String.toList_ofList]
  rcases monthStart_lt_iff.mp earlier with before | ⟨rfl, before⟩
  · have length : (padded 4 year).length = 4 := Decimal.length_padded (by decide) year_lt
    have length' : (padded 4 year').length = 4 := Decimal.length_padded (by decide) year_lt'
    exact lt_of_append_lt (length.trans length'.symm) (Decimal.padded_lt (by decide) before year_lt') _ _
  · have months : padded 2 month < padded 2 month' := Decimal.padded_lt (by decide) before month_lt'
    exact List.append_left_lt (List.cons_lt_cons_iff.mpr (.inr ⟨rfl, months⟩))

theorem monthText_le (isMonth : IsMonth year month) (isMonth' : IsMonth year' month')
    (earlier : monthStart year month ≤ monthStart year' month') : monthText year month ≤ monthText year' month' := by
  rcases earlier.lt_or_eq with before | same
  · exact (monthText_lt isMonth isMonth' before).le
  · have date := congrArg Moment.date same
    obtain ⟨year_eq, month_eq, _⟩ := Date.mk.inj date
    rw [Int.natCast_inj.mp year_eq, month_eq]

end Months

/-- The services of a list are due in months, or at no date that can be read. -/
def DueInMonths (services : List ServiceEntry) : Prop :=
  ∀ e ∈ services, ∀ text ∈ e.dueDate, readDueDate? text = none ∨
    ∃ year month, IsMonth year month ∧ text = monthText year month

section Shown

variable {now : Moment} {services : List ServiceEntry} {e : ServiceEntry} {d : Moment}

/-- A date that is read in such a list is the beginning of a month, and was written as this month. -/
theorem DueInMonths.due (months : DueInMonths services) (member : e ∈ services) (due : e.dueMoment? = some d) :
    ∃ year month, IsMonth year month ∧ e.dueDate = some (monthText year month) ∧ d = monthStart year month := by
  obtain ⟨text, written, read⟩ := Option.bind_eq_some_iff.mp due
  rcases months e member text written with unread | ⟨year, month, isMonth, rfl⟩
  · cases unread.symm.trans read
  · have start := readDueDate?_monthText isMonth
    exact ⟨year, month, isMonth, written, Option.some.inj (read.symm.trans start)⟩

theorem dueMoment?_monthText {year month : Nat} (isMonth : IsMonth year month)
    (written : e.dueDate = some (monthText year month)) : e.dueMoment? = some (monthStart year month) := by
  rw [ServiceEntry.dueMoment?, written, Option.bind_some, readDueDate?_monthText isMonth]

/-- The date that is shown is the first of the least month that a service is due in before the horizon. -/
theorem shown_due_month (now : Moment) (months : DueInMonths services) :
    (∃ text, IsLeast (dueMonths now services) text ∧
      momentText (nextServiceDate now services) = text ++ "-01T00:00:00") ∨
    dueMonths now services = ∅ ∧ momentText (nextServiceDate now services) = "1900-01-01T00:00:00" := by
  cases next : nextServiceDate now services with
  | some d =>
    obtain ⟨⟨e, member, due⟩, near, first⟩ := nextServiceDate_eq_some_iff.mp next
    obtain ⟨year, month, isMonth, written, rfl⟩ := months.due member due
    refine .inl ⟨monthText year month, ⟨⟨year, month, isMonth, rfl, near, e, member, written⟩, ?_⟩,
      monthStart_text isMonth⟩
    rintro _ ⟨year', month', isMonth', rfl, _, e', member', written'⟩
    exact monthText_le isMonth isMonth' (first e' member' _ (dueMoment?_monthText isMonth' written'))
  | none =>
    refine .inr ⟨Set.eq_empty_iff_forall_notMem.mpr ?_, rfl⟩
    rintro _ ⟨year, month, isMonth, rfl, near, e, member, written⟩
    exact nextServiceDate_eq_none_iff.mp next e member _ (dueMoment?_monthText isMonth written) near

/-- The list has a month past the horizon, a date that cannot be read and an entry without a date. -/
theorem shown_due_month_sample :
    let now : Moment := .midnight ⟨2020, 8, 24⟩
    let services : List ServiceEntry := [{ dueDate := some "2022-02" }, { dueDate := some "2120-09" },
      { dueDate := some "soon" }, {}, { dueDate := some "2021-11" }]
    DueInMonths services ∧ IsLeast (dueMonths now services) "2021-11" ∧
      momentText (nextServiceDate now services) = "2021-11-01T00:00:00" := by
  intro now services
  have november : IsMonth 2021 11 := ⟨by decide, by decide, by decide, by decide⟩
  have months : DueInMonths services := by
    unfold DueInMonths services
    simp only [List.forall_mem_cons, Option.mem_def, Option.some.injEq, forall_eq']
    refine ⟨.inr ⟨2022, 2, ?_, by decide +kernel⟩, .inr ⟨2120, 9, ?_, by decide +kernel⟩, .inl (by decide +kernel),
      nofun, .inr ⟨2021, 11, november, by decide +kernel⟩, nofun⟩
    · exact ⟨by decide, by decide, by decide, by decide⟩
    · exact ⟨by decide, by decide, by decide, by decide⟩
  have least : IsLeast (dueMonths now services) "2021-11" := by
    refine ⟨⟨2021, 11, november, by decide +kernel, by decide +kernel, { dueDate := some "2021-11" }, ?_, rfl⟩, ?_⟩
    · simp [services]
    · have all : ∀ e ∈ services, ∀ text ∈ e.dueDate, "2021-11" ≤ text := by decide +kernel
      rintro text ⟨_, _, _, _, _, e, member, written⟩
      exact all e member text written
  rcases shown_due_month now months with ⟨text, least', shown⟩ | ⟨empty, _⟩
  · rw [least'.unique least] at shown
    exact ⟨months, least, shown⟩
  · exact absurd (empty ▸ least.1) (Set.notMem_empty _)

end Shown

end VehicleLink
