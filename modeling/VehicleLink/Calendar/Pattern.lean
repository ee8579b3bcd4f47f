import VehicleLink.Calendar.Moment
import VehicleLink.Text.Blank

namespace VehicleLink.Calendar

/-- A part of a pattern. -/
inductive Part where
  | year
  | month
  | day
  | hour
  | minute
  | second
  /-- The offset from UTC: a sign, two digits of hours and two of minutes. -/
  | offset
  /-- A character that stands there as it is. -/
  | sign (c : Char)

/-- What the parts read so far have given. -/
structure Reading where
  year : Option Int := none
  month : Option Nat := none
  day : Option Nat := none
  hour : Option Nat := none
  minute : Option Nat := none
  second : Option Nat := none
  /-- In seconds east of UTC. -/
  offset : Option Int := none

/-- Digits, one at least and at most `most`, as a number. -/
def takeNumber? (most : Nat) (cs : List Char) : Option (Nat × List Char) :=
  match Decimal.takeDigits most cs with
  | ([], _) => none
  | (ds, rest) => some (Decimal.ofDigits ds, rest)

/-- A number within bounds, blanks in front of it. -/
def takeBounded? (least greatest : Nat) (cs : List Char) : Option (Nat × List Char) := do
  let (n, rest) ← takeNumber? 2 (Text.dropBlanks cs)
  if least ≤ n ∧ n ≤ greatest then some (n, rest) else none

/-- A year, blanks in front of it: up to four digits, or a sign and any number of digits. -/
def takeYear? (cs : List Char) : Option (Int × List Char) :=
  match Text.dropBlanks cs with
  | '-' :: rest => (takeNumber? rest.length rest).map fun (n, rest) => (-(n : Int), rest)
  | '+' :: rest => (takeNumber? rest.length rest).map fun (n, rest) => ((n : Int), rest)
  | rest => (takeNumber? 4 rest).map fun (n, rest) => ((n : Int), rest)

/-- Exactly two digits as a number. -/
def takePair? : List Char → Option (Nat × List Char)
  | a :: b :: rest => do
    let a ← Decimal.digit? a
    let b ← Decimal.digit? b
    return (a * 10 + b, rest)
  | _ => none

/-- An offset without its sign, in seconds. -/
def takeSpan? (cs : List Char) : Option (Nat × List Char) := do
  let (hours, rest) ← takePair? cs
  let (minutes, rest) ← takePair? (rest.dropWhile fun c => c = ':' ∨ Text.isBlank c)
  if minutes < 60 then some (hours * 3600 + minutes * 60, rest) else none

/-- An offset, blanks in front of it. The sign may be the mathematical minus sign. -/
def takeOffset? (cs : List Char) : Option (Int × List Char) :=
  match Text.dropBlanks cs with
  | '+' :: rest => (takeSpan? rest).map fun (n, rest) => ((n : Int), rest)
  | '-' :: rest | '−' :: rest => (takeSpan? rest).map fun (n, rest) => (-(n : Int), rest)
  | _ => none

/-- Reads one part. -/
def takePart? (reading : Reading) (cs : List Char) : Part → Option (Reading × List Char)
  | .year => (takeYear? cs).map fun (n, rest) => ({ reading with year := some n }, rest)
  | .month => (takeBounded? 1 12 cs).map fun (n, rest) => ({ reading with month := some n }, rest)
  | .day => (takeBounded? 1 31 cs).map fun (n, rest) => ({ reading with day := some n }, rest)
  | .hour => (takeBounded? 0 23 cs).map fun (n, rest) => ({ reading with hour := some n }, rest)
  | .minute =>
    (takeBounded? 0 59 cs).map fun (n, rest) => ({ reading with minute := some n }, rest)
  | .second =>
    (takeBounded? 0 60 cs).map fun (n, rest) => ({ reading with second := some n }, rest)
  | .offset => (takeOffset? cs).map fun (n, rest) => ({ reading with offset := some n }, rest)
  | .sign c =>
    match cs with
    | d :: rest => if c = d then some (reading, rest) else none
    | [] => none

/-- Reads the parts of a pattern, one after the other, up to the end of the text. Blanks may stand in front of a
number, and a number may have fewer digits than its part is wide. -/
def readParts? (reading : Reading) : List Part → List Char → Option Reading
  | [], [] => some reading
  | [], _ :: _ => none
  | part :: pattern, cs =>
    match takePart? reading cs part with
    | some (reading, rest) => readParts? reading pattern rest
    | none => none

/-- The date of what was read, if there is such a day. -/
def Reading.date? (r : Reading) : Option Date := do
  Date.ofParts? (← r.year) (← r.month) (← r.day)

/-- The moment of what was read. The second 60 is a leap second, and a missing second is zero. -/
def Reading.moment? (r : Reading) : Option Moment := do
  let date ← r.date?
  let hour ← r.hour
  let minute ← r.minute
  let second := r.second.getD 0
  return ⟨date, hour * 3600 + minute * 60 + min second 59, second = 60⟩

/-- The moment in UTC of what was read with an offset of less than a day. -/
def Reading.utc? (r : Reading) : Option Moment := do
  let moment ← r.moment?
  let offset ← r.offset
  if offset.natAbs < daySeconds then
    let utc := moment.shift (-offset)
    if inYears utc.date.year then some utc else none
  else none

/-- The pattern of a date. -/
def datePattern : List Part := [.year, .sign '-', .month, .sign '-', .day]

/-- The pattern of a date with hour and minute. -/
def minutePattern : List Part := datePattern ++ [.sign 'T', .hour, .sign ':', .minute]

/-- The pattern of a date with hour, minute and second. -/
def secondPattern : List Part := minutePattern ++ [.sign ':', .second]

/-- The pattern of a date and time with an offset. -/
def offsetPattern : List Part := secondPattern ++ [.offset]

/-- Reads a text as a date. -/
def readDate? (cs : List Char) : Option Date := (readParts? {} datePattern cs).bind Reading.date?

/-- Reads a text as a moment by a pattern. -/
def readMoment? (pattern : List Part) (cs : List Char) : Option Moment :=
  (readParts? {} pattern cs).bind Reading.moment?

/-- Reads a text as a moment with an offset, giving that moment in UTC. -/
def readUtc? (cs : List Char) : Option Moment :=
  (readParts? {} offsetPattern cs).bind Reading.utc?

end VehicleLink.Calendar
