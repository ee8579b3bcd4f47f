import VehicleLink.Calendar.Pattern
import VehicleLink.Proofs.Calendar.Days
import VehicleLink.Proofs.Decimal.Digits
import VehicleLink.Proofs.Text.Cutting

namespace VehicleLink.Calendar

open Decimal (padded)

/-- A moment that a text can be read as. The leap second is the last one of a minute. -/
structure Moment.Readable (t : Moment) : Prop extends t.Proper where
  leap_end : t.leap = true → t.second % 60 = 59
  inYears : inYears t.date.year = true

/-- The time of day at the end of a moment as text. -/
def Moment.clockChars (t : Moment) : List Char :=
  padded 2 (t.second / 3600) ++ ':' :: padded 2 (t.second / 60 % 60) ++
    ':' :: padded 2 (t.second % 60 + if t.leap then 1 else 0)

theorem Moment.chars_eq (t : Moment) : t.chars = t.date.chars ++ 'T' :: t.clockChars := by
  simp [chars, clockChars]

/-- What the parts of a moment's text give. -/
def Moment.reading (t : Moment) : Reading where
  year := some t.date.year
  month := some t.date.month
  day := some t.date.day
  hour := some (t.second / 3600)
  minute := some (t.second / 60 % 60)
  second := some (t.second % 60 + if t.leap then 1 else 0)

section Visible

theorem padded_visible (width n : Nat) : ∀ c ∈ padded width n, Text.isBlank c = false :=
  fun _ member => Text.isBlank_of_isDigit (Decimal.isDigit_of_mem_padded member)

theorem yearText_visible (year : Int) : ∀ c ∈ yearText year, Text.isBlank c = false := by
  unfold yearText
  split_ifs
  · exact padded_visible 4 year.toNat
  · exact List.forall_mem_cons.mpr ⟨rfl, padded_visible 4 year.natAbs⟩
  · exact List.forall_mem_cons.mpr ⟨rfl, padded_visible 4 year.natAbs⟩

theorem Date.chars_visible (d : Date) : ∀ c ∈ d.chars, Text.isBlank c = false := by
  unfold chars
  simp only [List.forall_mem_append, List.forall_mem_cons]
  exact ⟨⟨yearText_visible d.year, rfl, padded_visible 2 d.month⟩, rfl, padded_visible 2 d.day⟩

theorem Moment.clockChars_visible (t : Moment) : ∀ c ∈ t.clockChars, Text.isBlank c = false := by
  unfold clockChars
  simp only [List.forall_mem_append, List.forall_mem_cons]
  exact ⟨⟨padded_visible 2 _, rfl, padded_visible 2 _⟩, rfl, padded_visible 2 _⟩

theorem Moment.chars_visible (t : Moment) : ∀ c ∈ t.chars, Text.isBlank c = false := by
  rw [chars_eq]
  exact List.forall_mem_append.mpr ⟨t.date.chars_visible, List.forall_mem_cons.mpr ⟨rfl, t.clockChars_visible⟩⟩

end Visible

section Iso

variable {d : Date} {t : Moment}

/-- A date as `YYYY-MM-DD`. -/
def Date.iso (d : Date) : List Char :=
  padded 4 d.year.toNat ++ '-' :: padded 2 d.month ++ '-' :: padded 2 d.day

/-- A time of day as `HH:MM:SS`. -/
def Moment.isoClock (t : Moment) : List Char :=
  padded 2 (t.second / 3600) ++ ':' :: padded 2 (t.second / 60 % 60) ++ ':' :: padded 2 (t.second % 60)

/-- A moment as `YYYY-MM-DDTHH:MM:SS`. -/
def Moment.iso (t : Moment) : List Char := t.date.iso ++ 'T' :: t.isoClock

/-- A date of four figures for the year has the usual form. -/
theorem Date.chars_eq_iso (lower : 0 ≤ d.year) (upper : d.year ≤ 9999) : d.chars = d.iso := by
  rw [chars, yearText, if_pos ⟨lower, upper⟩, iso]

theorem Moment.Civil.clock_eq (civil : t.Civil) : t.clockChars = t.isoClock := by
  rw [clockChars, civil.leap_eq]
  rfl

/-- A moment without a leap second has the usual form. -/
theorem Moment.Civil.chars_eq_iso (civil : t.Civil) (lower : 0 ≤ t.date.year) (upper : t.date.year ≤ 9999) :
    t.chars = t.iso := by
  rw [chars_eq, Date.chars_eq_iso lower upper, civil.clock_eq, iso]

theorem Moment.Civil.readable (civil : t.Civil) (lower : 0 ≤ t.date.year) (upper : t.date.year ≤ 9999) :
    t.Readable := by
  refine ⟨civil.toProper, fun leap => ?_, ?_⟩
  · cases civil.leap_eq.symm.trans leap
  · unfold Calendar.inYears minYear maxYear
    simp only [Bool.and_eq_true, decide_eq_true_eq]
    omega

end Iso

section Numbers

variable {most least greatest width n : Nat} {rest : List Char}

/-- A number is read up to the width of its part, or to the first character that is no digit. -/
theorem takeNumber?_padded (short : (padded width n).length ≤ most)
    (ends : (padded width n).length = most ∨ ∀ c ∈ rest.head?, c.isDigit = false) :
    takeNumber? most (padded width n ++ rest) = some (n, rest) := by
  have value := Decimal.ofDigits_padded width n
  obtain ⟨c, ds, shape⟩ := List.exists_cons_of_ne_nil (Decimal.padded_ne_nil width n)
  rw [takeNumber?, Decimal.takeDigits_append (fun c => Decimal.isDigit_of_mem_padded) short ends, shape]
  rw [shape] at value
  exact congrArg (fun n => some (n, rest)) value

theorem dropBlanks_padded (width n : Nat) (rest : List Char) :
    Text.dropBlanks (padded width n ++ rest) = padded width n ++ rest := by
  obtain ⟨c, ds, shape, digit⟩ := Decimal.padded_eq_cons width n
  rw [shape, List.cons_append]
  refine Text.dropBlanks_first fun d more begins => ?_
  have same : c = d := (List.cons.inj begins).1
  exact same ▸ Text.isBlank_of_isDigit digit

theorem takeBounded?_padded (lower : least ≤ n) (upper : n ≤ greatest) (small : n < 100) (rest : List Char) :
    takeBounded? least greatest (padded 2 n ++ rest) = some (n, rest) := by
  have length : (padded 2 n).length = 2 := Decimal.length_padded (by decide) small
  have number : takeNumber? 2 (padded 2 n ++ rest) = some (n, rest) := takeNumber?_padded length.le (.inl length)
  simp [takeBounded?, dropBlanks_padded, number, lower, upper]

/-- Behind a sign a year may have any number of digits. -/
theorem takeNumber?_year (n : Nat) (rest : List Char) :
    takeNumber? (padded 4 n ++ '-' :: rest).length (padded 4 n ++ '-' :: rest) = some (n, '-' :: rest) := by
  have short : (padded 4 n).length ≤ (padded 4 n ++ '-' :: rest).length := by simp
  have stops : ∀ c ∈ ('-' :: rest).head?, c.isDigit = false := by
    rintro c ⟨⟩
    rfl
  exact takeNumber?_padded short (.inr stops)

theorem takeYear?_minus (cs : List Char) :
    takeYear? ('-' :: cs) = (takeNumber? cs.length cs).map fun year => (-(year.1 : Int), year.2) := rfl

theorem takeYear?_plus (cs : List Char) :
    takeYear? ('+' :: cs) = (takeNumber? cs.length cs).map fun year => ((year.1 : Int), year.2) := rfl

/-- A year is read back, with its sign if it needs one. -/
theorem takeYear?_yearText (year : Int) (rest : List Char) :
    takeYear? (yearText year ++ '-' :: rest) = some (year, '-' :: rest) := by
  unfold yearText
  split_ifs with short negative
  · -- The first of the four digits is no sign.
    have four : (padded 4 year.toNat).length = 4 := Decimal.length_padded (by decide) (by omega)
    have number : takeNumber? 4 (padded 4 year.toNat ++ '-' :: rest) = some (year.toNat, '-' :: rest) :=
      takeNumber?_padded four.le (.inl four)
    have first : ∀ c more, padded 4 year.toNat ++ '-' :: rest = c :: more → c.isDigit = true := by
      intro c more begins
      obtain ⟨d, ds, shape, digit⟩ := Decimal.padded_eq_cons 4 year.toNat
      rw [shape, List.cons_append] at begins
      exact (List.cons.inj begins).1 ▸ digit
    have natural : (year.toNat : Int) = year := Int.toNat_of_nonneg short.1
    rw [takeYear?, dropBlanks_padded]
    split
    · rename_i begins
      cases first _ _ begins
    · rename_i begins
      cases first _ _ begins
    · simp only [number, Option.map_some, natural]
  · have absolute : -(year.natAbs : Int) = year := by omega
    rw [List.cons_append, takeYear?_minus, takeNumber?_year, Option.map_some, absolute]
  · have absolute : (year.natAbs : Int) = year := by omega
    rw [List.cons_append, takeYear?_plus, takeNumber?_year, Option.map_some, absolute]

end Numbers

section Parts

variable {r r' : Reading} {part : Part} {pattern : List Part} {cs rest : List Char} {d : Date} {t : Moment}

/-- A pattern is read part by part. -/
theorem readParts?_cons (taken : takePart? r cs part = some (r', rest)) :
    readParts? r (part :: pattern) cs = readParts? r' pattern rest := by
  rw [readParts?, taken]

theorem readParts?_sign (r : Reading) (c : Char) (pattern : List Part) (rest : List Char) :
    readParts? r (.sign c :: pattern) (c :: rest) = readParts? r pattern rest :=
  readParts?_cons (if_pos rfl)

theorem daysIn_le (year : Int) (month : Nat) : daysIn year month ≤ 31 := by
  unfold daysIn
  split_ifs <;> omega

/-- The date in front is read, and what stands behind it is left. -/
theorem readParts?_date (proper : d.Proper) (r : Reading) (pattern : List Part) (rest : List Char) :
    readParts? r (datePattern ++ pattern) (d.chars ++ rest) =
      readParts? { r with year := some d.year, month := some d.month, day := some d.day } pattern rest := by
  obtain ⟨month_pos, month_le, day_pos, day_le⟩ := proper
  have day_le' : d.day ≤ 31 := day_le.trans (daysIn_le d.year d.month)
  have year (more : List Char) : takePart? r (yearText d.year ++ '-' :: more) .year =
      some ({ r with year := some d.year }, '-' :: more) := by
    rw [takePart?, takeYear?_yearText]
    rfl
  have month (r : Reading) (more : List Char) : takePart? r (padded 2 d.month ++ more) .month =
      some ({ r with month := some d.month }, more) := by
    rw [takePart?, takeBounded?_padded month_pos month_le (by omega)]
    rfl
  have day (r : Reading) : takePart? r (padded 2 d.day ++ rest) .day =
      some ({ r with day := some d.day }, rest) := by
    rw [takePart?, takeBounded?_padded day_pos day_le' (by omega)]
    rfl
  have text : d.chars ++ rest =
      yearText d.year ++ '-' :: (padded 2 d.month ++ '-' :: (padded 2 d.day ++ rest)) := by
    simp [Date.chars]
  rw [text]
  unfold datePattern
  rw [List.cons_append, readParts?_cons (year _), List.cons_append, readParts?_sign, List.cons_append,
    readParts?_cons (month _ _), List.cons_append, readParts?_sign, List.cons_append, readParts?_cons (day _),
    List.nil_append]

/-- The parts of a moment's text give what has been written of it. -/
theorem readParts?_moment (proper : t.Proper) (pattern : List Part) (rest : List Char) :
    readParts? {} (secondPattern ++ pattern) (t.chars ++ rest) = readParts? t.reading pattern rest := by
  have below : t.second < 86400 := proper.second_lt
  have leap : (if t.leap then 1 else 0) ≤ 1 := by split_ifs <;> decide
  have hour (r : Reading) (more : List Char) : takePart? r (padded 2 (t.second / 3600) ++ more) .hour =
      some ({ r with hour := some (t.second / 3600) }, more) := by
    rw [takePart?, takeBounded?_padded (Nat.zero_le _) (by omega) (by omega)]
    rfl
  have minute (r : Reading) (more : List Char) : takePart? r (padded 2 (t.second / 60 % 60) ++ more) .minute =
      some ({ r with minute := some (t.second / 60 % 60) }, more) := by
    rw [takePart?, takeBounded?_padded (Nat.zero_le _) (by omega) (by omega)]
    rfl
  have second (r : Reading) (more : List Char) :
      takePart? r (padded 2 (t.second % 60 + if t.leap then 1 else 0) ++ more) .second =
        some ({ r with second := some (t.second % 60 + if t.leap then 1 else 0) }, more) := by
    rw [takePart?, takeBounded?_padded (Nat.zero_le _) (by omega) (by omega)]
    rfl
  have text : t.chars ++ rest = t.date.chars ++ ('T' :: (padded 2 (t.second / 3600) ++
      ':' :: (padded 2 (t.second / 60 % 60) ++
        ':' :: (padded 2 (t.second % 60 + if t.leap then 1 else 0) ++ rest)))) := by
    simp [Moment.chars]
  have parts : secondPattern ++ pattern =
      datePattern ++ (.sign 'T' :: .hour :: .sign ':' :: .minute :: .sign ':' :: .second :: pattern) := by
    simp [secondPattern, minutePattern]
  rw [text, parts, readParts?_date proper.date, readParts?_sign, readParts?_cons (hour _ _), readParts?_sign,
    readParts?_cons (minute _ _), readParts?_sign, readParts?_cons (second _ _)]
  rfl

/-- Three numbers are a date exactly if there is such a day, in a year that can be read. -/
theorem ofParts?_eq_some_iff {year : Int} {month day : Nat} :
    Date.ofParts? year month day = some d ↔ d = ⟨year, month, day⟩ ∧ d.Proper ∧ inYears d.year = true := by
  unfold Date.ofParts?
  split_ifs with there
  · obtain ⟨kept, month_pos, month_le, day_pos, day_le⟩ := there
    rw [Option.some_inj]
    constructor
    · rintro rfl
      exact ⟨rfl, ⟨month_pos, month_le, day_pos, day_le⟩, kept⟩
    · exact fun same => same.1.symm
  · refine iff_of_false nofun ?_
    rintro ⟨rfl, ⟨month_pos, month_le, day_pos, day_le⟩, kept⟩
    exact there ⟨kept, month_pos, month_le, day_pos, day_le⟩

/-- A date is read back from its text. -/
theorem readDate?_chars (proper : d.Proper) (kept : inYears d.year = true) : readDate? d.chars = some d := by
  have read : readParts? {} datePattern d.chars =
      some { year := some d.year, month := some d.month, day := some d.day } := by
    have parts := readParts?_date proper {} [] []
    rwa [List.append_nil, List.append_nil] at parts
  have date : Date.ofParts? d.year d.month d.day = some d := ofParts?_eq_some_iff.mpr ⟨rfl, proper, kept⟩
  rw [readDate?, read]
  exact date

/-- The parts of a moment make up that moment. -/
theorem Moment.Readable.reading_moment (readable : t.Readable) : t.reading.moment? = some t := by
  obtain ⟨⟨date, second_lt⟩, leap_end, kept⟩ := readable
  have day : t.reading.date? = some t.date := ofParts?_eq_some_iff.mpr ⟨rfl, date, kept⟩
  have second : t.second / 3600 * 3600 + t.second / 60 % 60 * 60 +
      min (t.second % 60 + if t.leap then 1 else 0) 59 = t.second := by
    cases leap : t.leap with
    | false =>
      simp only [Bool.false_eq_true, if_false]
      omega
    | true =>
      have last := leap_end leap
      simp only [if_true]
      omega
  have leap : decide (t.second % 60 + (if t.leap then 1 else 0) = 60) = t.leap := by
    cases leap : t.leap with
    | false =>
      simp only [Bool.false_eq_true, if_false, decide_eq_false_iff_not]
      omega
    | true =>
      have last := leap_end leap
      simp only [if_true, decide_eq_true_eq]
      omega
  have same : (⟨t.date, t.second / 3600 * 3600 + t.second / 60 % 60 * 60 +
      min (t.second % 60 + if t.leap then 1 else 0) 59,
      decide (t.second % 60 + (if t.leap then 1 else 0) = 60)⟩ : Moment) = t := by rw [second, leap]
  rw [Reading.moment?, day]
  exact congrArg some same

/-- A moment is read back from its text. -/
theorem readMoment?_chars (readable : t.Readable) : readMoment? secondPattern t.chars = some t := by
  have read : readParts? {} secondPattern t.chars = some t.reading := by
    have parts := readParts?_moment readable.toProper [] []
    rwa [List.append_nil, List.append_nil] at parts
  rw [readMoment?, read]
  exact readable.reading_moment

end Parts

section Bounds

variable {r r' : Reading} {part : Part} {pattern : List Part} {cs rest : List Char} {t : Moment}

/-- What has been read of the time of day is within bounds. -/
structure Reading.InBounds (r : Reading) : Prop where
  hour_le : ∀ n ∈ r.hour, n ≤ 23
  minute_le : ∀ n ∈ r.minute, n ≤ 59
  second_le : ∀ n ∈ r.second, n ≤ 60

theorem le_of_takeBounded? {least greatest n : Nat} (taken : takeBounded? least greatest cs = some (n, rest)) :
    n ≤ greatest := by
  obtain ⟨⟨m, more⟩, _, bounded⟩ := Option.bind_eq_some_iff.mp taken
  dsimp only at bounded
  split_ifs at bounded with within
  cases bounded
  exact within.2

/-- No part puts an hour, a minute or a second out of bounds. -/
theorem takePart?_inBounds (bounds : r.InBounds) (taken : takePart? r cs part = some (r', rest)) : r'.InBounds := by
  obtain ⟨hour_le, minute_le, second_le⟩ := bounds
  cases part with
  | year | month | day | offset =>
    obtain ⟨⟨n, more⟩, _, same⟩ := Option.map_eq_some_iff.mp taken
    cases same
    exact ⟨hour_le, minute_le, second_le⟩
  | hour =>
    obtain ⟨⟨n, more⟩, number, same⟩ := Option.map_eq_some_iff.mp taken
    cases same
    refine ⟨?_, minute_le, second_le⟩
    rintro _ ⟨⟩
    exact le_of_takeBounded? number
  | minute =>
    obtain ⟨⟨n, more⟩, number, same⟩ := Option.map_eq_some_iff.mp taken
    cases same
    refine ⟨hour_le, ?_, second_le⟩
    rintro _ ⟨⟩
    exact le_of_takeBounded? number
  | second =>
    obtain ⟨⟨n, more⟩, number, same⟩ := Option.map_eq_some_iff.mp taken
    cases same
    refine ⟨hour_le, minute_le, ?_⟩
    rintro _ ⟨⟩
    exact le_of_takeBounded? number
  | sign c =>
    unfold takePart? at taken
    dsimp only at taken
    split at taken
    · split_ifs at taken
      cases taken
      exact ⟨hour_le, minute_le, second_le⟩
    · cases taken

theorem readParts?_inBounds (bounds : r.InBounds) (read : readParts? r pattern cs = some r') : r'.InBounds := by
  induction pattern generalizing r cs with
  | nil =>
    cases cs with
    | nil =>
      cases read
      exact bounds
    | cons c cs => cases read
  | cons part pattern ih =>
    rw [readParts?] at read
    split at read
    · rename_i next rest taken
      exact ih (takePart?_inBounds bounds taken) read
    · cases read

/-- Parts within bounds make up a moment that there is, or none. -/
theorem Reading.InBounds.readable (bounds : r.InBounds) (given : r.moment? = some t) : t.Readable := by
  obtain ⟨date, there, given⟩ := Option.bind_eq_some_iff.mp given
  obtain ⟨hour, hour_eq, given⟩ := Option.bind_eq_some_iff.mp given
  obtain ⟨minute, minute_eq, given⟩ := Option.bind_eq_some_iff.mp given
  cases given
  obtain ⟨year, _, there⟩ := Option.bind_eq_some_iff.mp there
  obtain ⟨month, _, there⟩ := Option.bind_eq_some_iff.mp there
  obtain ⟨day, _, there⟩ := Option.bind_eq_some_iff.mp there
  obtain ⟨_, proper, kept⟩ := ofParts?_eq_some_iff.mp there
  have hour_le := bounds.hour_le hour hour_eq
  have minute_le := bounds.minute_le minute minute_eq
  refine ⟨⟨proper, ?_⟩, fun leap => ?_, kept⟩
  · unfold daySeconds
    dsimp only
    omega
  · have sixty : r.second.getD 0 = 60 := of_decide_eq_true leap
    dsimp only
    omega

/-- Whatever is read is a moment that there is. -/
theorem readable_of_readMoment? (read : readMoment? pattern cs = some t) : t.Readable := by
  obtain ⟨r, parts, given⟩ := Option.bind_eq_some_iff.mp read
  have start : Reading.InBounds {} := ⟨nofun, nofun, nofun⟩
  exact (readParts?_inBounds start parts).readable given

end Bounds

end VehicleLink.Calendar
