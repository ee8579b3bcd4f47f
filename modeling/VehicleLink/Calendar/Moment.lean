import VehicleLink.Calendar.Date
import VehicleLink.Decimal.Digits

namespace VehicleLink.Calendar

/-- A moment of civil time, without a zone. -/
structure Moment where
  date : Date
  /-- The second of the day, below 86400. -/
  second : Nat
  /-- Whether this is the second count of that second. -/
  leap : Bool
deriving DecidableEq, Repr

/-- The beginning of a day. -/
def Moment.midnight (date : Date) : Moment := ⟨date, 0, false⟩

/-- Whether a moment comes before another one. -/
def Moment.before (a b : Moment) : Bool :=
  a.date.before b.date || (a.date == b.date &&
    (a.second < b.second || (a.second == b.second && !a.leap && b.leap)))

/-- The seconds of a day. -/
def daySeconds : Nat := 86400

/-- The moment some seconds later, or earlier for a negative number, less than a day either way. -/
def Moment.shift (t : Moment) (seconds : Int) : Moment :=
  let second := (t.second : Int) + seconds
  if second < 0 then ⟨t.date.previous, (second + daySeconds).toNat, t.leap⟩
  else if second < daySeconds then ⟨t.date, second.toNat, t.leap⟩
  else ⟨t.date.next, (second - daySeconds).toNat, t.leap⟩

/-- How many seconds after the beginning of 1970 a moment lies; leap seconds do not count. -/
def Moment.epoch (t : Moment) : Int := t.date.dayNumber * daySeconds + t.second

/-- The moment that lies a number of seconds after the beginning of 1970. -/
def Moment.ofEpoch (seconds : Int) : Moment :=
  ⟨Date.ofDayNumber (seconds / daySeconds), (seconds % daySeconds).toNat, false⟩

/-- The moment a number of years later. -/
def Moment.addYears? (t : Moment) (years : Nat) : Option Moment :=
  (t.date.addYears? years).map fun date => { t with date }

/-- The last second that moments are kept for. -/
def Moment.last : Moment := ⟨⟨maxYear, 12, 31⟩, 86399, true⟩

/-- A year as text: four digits, and with a sign beyond them. -/
def yearText (year : Int) : List Char :=
  if 0 ≤ year ∧ year ≤ 9999 then Decimal.padded 4 year.toNat
  else (if year < 0 then '-' else '+') :: Decimal.padded 4 year.natAbs

/-- A date as text, such as `2020-08-24`. -/
def Date.chars (d : Date) : List Char :=
  yearText d.year ++ '-' :: Decimal.padded 2 d.month ++ '-' :: Decimal.padded 2 d.day

/-- A moment as text, such as `2020-08-24T15:55:32`. -/
def Moment.chars (t : Moment) : List Char :=
  let second := t.second % 60 + if t.leap then 1 else 0
  t.date.chars ++ 'T' :: Decimal.padded 2 (t.second / 3600) ++
    ':' :: Decimal.padded 2 (t.second / 60 % 60) ++ ':' :: Decimal.padded 2 second

/-- A moment as text. -/
def Moment.text (t : Moment) : String := String.ofList t.chars

end VehicleLink.Calendar
