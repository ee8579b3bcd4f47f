namespace VehicleLink.Calendar

/-- A date. -/
structure Date where
  year : Int
  month : Nat
  day : Nat
deriving DecidableEq, Repr

/-- Whether a year has a twenty-ninth of February. -/
def isLeapYear (year : Int) : Bool :=
  year % 4 == 0 && (year % 100 != 0 || year % 400 == 0)

/-- How many days a month has. -/
def daysIn (year : Int) (month : Nat) : Nat :=
  if month = 2 then if isLeapYear year then 29 else 28
  else if month = 4 ∨ month = 6 ∨ month = 9 ∨ month = 11 then 30
  else 31

/-- The first year that dates are kept for. -/
def minYear : Int := -262143

/-- The last year that dates are kept for. -/
def maxYear : Int := 262142

/-- Whether dates are kept for a year. -/
def inYears (year : Int) : Bool := minYear ≤ year && year ≤ maxYear

/-- The date of a year, a month and a day, if there is such a day. -/
def Date.ofParts? (year : Int) (month day : Nat) : Option Date :=
  if inYears year ∧ 1 ≤ month ∧ month ≤ 12 ∧ 1 ≤ day ∧ day ≤ daysIn year month then
    some ⟨year, month, day⟩
  else none

/-- The day after a date. -/
def Date.next (d : Date) : Date :=
  if d.day < daysIn d.year d.month then ⟨d.year, d.month, d.day + 1⟩
  else if d.month < 12 then ⟨d.year, d.month + 1, 1⟩
  else ⟨d.year + 1, 1, 1⟩

/-- The day before a date. -/
def Date.previous (d : Date) : Date :=
  if 1 < d.day then ⟨d.year, d.month, d.day - 1⟩
  else if 1 < d.month then ⟨d.year, d.month - 1, daysIn d.year (d.month - 1)⟩
  else ⟨d.year - 1, 12, 31⟩

/-- Whether a date comes before another one. -/
def Date.before (a b : Date) : Bool :=
  a.year < b.year || (a.year == b.year &&
    (a.month < b.month || (a.month == b.month && a.day < b.day)))

/-- How many days lie before the first of a month in its year. -/
def daysBefore (year : Int) (month : Nat) : Nat :=
  (List.range (month - 1)).foldl (fun days m => days + daysIn year (m + 1)) 0

/-- How many days after the first of January 1970 a date lies. -/
def Date.dayNumber (d : Date) : Int :=
  let years := d.year - 1
  years * 365 + years / 4 - years / 100 + years / 400
    + daysBefore d.year d.month + d.day - 719163

/-- The date that lies a number of days after the first of January 1970. Years are counted from March
here, so that the day that not every year has is the last of its year. -/
def Date.ofDayNumber (n : Int) : Date :=
  let day := n + 719468
  let cycle := day / 146097
  let dayOfCycle := day % 146097
  let yearOfCycle := (dayOfCycle - dayOfCycle / 1460 + dayOfCycle / 36524 - dayOfCycle / 146096) / 365
  let dayOfYear := dayOfCycle - (365 * yearOfCycle + yearOfCycle / 4 - yearOfCycle / 100)
  let month := (5 * dayOfYear + 2) / 153
  let dayOfMonth := dayOfYear - (153 * month + 2) / 5 + 1
  let year := yearOfCycle + cycle * 400
  if month < 10 then ⟨year, (month + 3).toNat, dayOfMonth.toNat⟩
  else ⟨year + 1, (month - 9).toNat, dayOfMonth.toNat⟩

/-- The same day a number of years later, or the last of its month where there is no such day. -/
def Date.addYears? (d : Date) (years : Nat) : Option Date :=
  let year := d.year + years
  if inYears year then some ⟨year, d.month, min d.day (daysIn year d.month)⟩ else none

end VehicleLink.Calendar
