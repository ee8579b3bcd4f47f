namespace VehicleLink.Text

/-- The parts before and after the first member of a class, which belongs to neither. -/
def cutAt {α : Type} (p : α → Bool) : List α → Option (List α × List α)
  | [] => none
  | c :: cs => if p c then some ([], cs) else (cutAt p cs).map fun (a, b) => (c :: a, b)

/-- The parts between the members of a class: always one more than there are such members. -/
def splitAll {α : Type} (p : α → Bool) : List α → List (List α)
  | [] => [[]]
  | c :: cs =>
    if p c then [] :: splitAll p cs
    else
      match splitAll p cs with
      | part :: parts => (c :: part) :: parts
      | [] => [[c]]

/-- What follows a text that begins with `start`. -/
def after? : List Char → List Char → Option (List Char)
  | [], cs => some cs
  | _ :: _, [] => none
  | a :: start, c :: cs => if a = c then after? start cs else none

/-- Reading on after `skip` further characters, every occurrence of `old` becomes `new`. -/
def replaceFrom (old new : List Char) : Nat → List Char → List Char
  | _, [] => []
  | skip + 1, _ :: cs => replaceFrom old new skip cs
  | 0, c :: cs =>
    if old.isPrefixOf (c :: cs) then new ++ replaceFrom old new (old.length - 1) cs
    else c :: replaceFrom old new 0 cs

/-- Every occurrence of `old`, found from the left and not overlapping, is replaced by `new`. The
empty text has an occurrence before each character and at the end. -/
def replaceChars (old new cs : List Char) : List Char :=
  if old.isEmpty then new ++ cs.flatMap fun c => c :: new else replaceFrom old new 0 cs

/-- Replaces every occurrence of `old` in a text. -/
def replaceAll (s old new : String) : String :=
  String.ofList (replaceChars old.toList new.toList s.toList)

/-- A line without the carriage return at its end. -/
def dropReturn {α : Type} (isReturn : α → Bool) (line : List α) : List α :=
  match line.reverse with
  | c :: rest => if isReturn c then rest.reverse else line
  | [] => []

/-- The lines of something written line by line. Each ends at a line feed, or at the end where the
last one is not empty; a carriage return before the line feed is no part of the line. -/
def linesBy {α : Type} (isFeed isReturn : α → Bool) (cs : List α) : List (List α) :=
  match (splitAll isFeed cs).reverse with
  | [] => []
  | last :: before =>
    let ended := (before.map (dropReturn isReturn)).reverse
    if last.isEmpty then ended else ended ++ [last]

/-- What comes up to the last member of a class, and what comes behind it. -/
def cutBehindLast {α : Type} (p : α → Bool) (cs : List α) : List α × List α :=
  ((cs.reverse.dropWhile (!p ·)).reverse, (cs.reverse.takeWhile (!p ·)).reverse)

/-- The lines of a text. -/
def lines (cs : List Char) : List (List Char) := linesBy (· == '\n') (· == '\r') cs

/-- The lines of bytes. -/
def byteLines (bytes : List UInt8) : List (List UInt8) := linesBy (· == 10) (· == 13) bytes

end VehicleLink.Text
