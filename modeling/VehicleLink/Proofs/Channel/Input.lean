import VehicleLink.Channel.Command
import VehicleLink.Proofs.Text.Lines
import VehicleLink.Proofs.Text.Utf8

namespace VehicleLink

/-- The commands on lines, as far as they are read. -/
def commandsIn (lines : List (List UInt8)) : List ChannelCommand :=
  (readLines lines).1.filterMap LineResult.command?

/-- The command on a line, if it is a text that says one. -/
def lineCommand? (line : List UInt8) : Option ChannelCommand :=
  (Text.decodeUtf8? line).bind fun s => (ChannelCommand.ofLine s).toOption.join

theorem command?_ofLine (s : String) :
    (LineResult.ofLine s).command? = (ChannelCommand.ofLine s).toOption.join := by
  unfold LineResult.ofLine
  split <;> rename_i read <;> rw [read] <;> rfl

theorem commandsIn_cons {line : List UInt8} {s : String} (read : Text.decodeUtf8? line = some s)
    (lines : List (List UInt8)) :
    commandsIn (line :: lines) = (LineResult.ofLine s).command?.toList ++ commandsIn lines := by
  rw [commandsIn, readLines, read]
  cases said : (LineResult.ofLine s).command? <;> simp [commandsIn, said]

theorem commandsIn_broken {line : List UInt8} (broken : Text.decodeUtf8? line = none)
    (lines : List (List UInt8)) : commandsIn (line :: lines) = [] := by
  rw [commandsIn, readLines, broken]
  rfl

/-- Nothing is read from the first line on that is no text; up to there each line counts. -/
theorem commandsIn_initial (lines : List (List UInt8)) : commandsIn lines <+: lines.filterMap lineCommand? := by
  induction lines with
  | nil => exact List.nil_prefix
  | cons line lines ih =>
    cases read : Text.decodeUtf8? line with
    | none => exact commandsIn_broken read lines ▸ List.nil_prefix
    | some s =>
      have said : lineCommand? line = (LineResult.ofLine s).command? := by
        rw [lineCommand?, read, command?_ofLine]
        rfl
      rw [commandsIn_cons read, List.filterMap_cons, said]
      cases (LineResult.ofLine s).command? with
      | none => exact ih
      | some c => exact (List.prefix_cons_inj c).mpr ih

section Lines

variable {texts : List String} {line : List UInt8} {lines rest : List (List UInt8)} {front back bytes : List UInt8}

/-- It makes no difference how the results of lines are grouped. -/
theorem followedBy_assoc (a b c : List LineResult × Bool) :
    followedBy (followedBy a b) c = followedBy a (followedBy b c) := by
  unfold followedBy
  split <;> simp_all
  split <;> simp_all

theorem readLines_cons {s : String} (read : Text.decodeUtf8? line = some s) (lines : List (List UInt8)) :
    readLines (line :: lines) = followedBy ([LineResult.ofLine s], false) (readLines lines) := by
  rw [readLines, read]
  rfl

/-- Lines are read up to the first that is no text, and then no further. -/
theorem readLines_append (lines rest : List (List UInt8)) :
    readLines (lines ++ rest) = followedBy (readLines lines) (readLines rest) := by
  induction lines with
  | nil => rfl
  | cons line lines ih =>
    cases read : Text.decodeUtf8? line with
    | none => simp [readLines, read, followedBy]
    | some s => rw [List.cons_append, readLines_cons read, readLines_cons read, ih, followedBy_assoc]

theorem readLines_texts (texts : List String) :
    readLines (texts.map Text.utf8) = (texts.map LineResult.ofLine, false) := by
  induction texts with
  | nil => rfl
  | cons s texts ih =>
    rw [List.map_cons, readLines_cons (Text.decodeUtf8?_eq_some_iff.mpr rfl), ih]
    rfl

theorem readLines_broken (broken : ∀ line ∈ rest.head?, ¬Text.IsText line) : (readLines rest).1 = [] := by
  cases rest with
  | nil => rfl
  | cons line rest => rw [readLines, Text.decodeUtf8?_eq_none_iff.mpr (broken line rfl)]

/-- Lines are texts up to the first one that is none. -/
theorem exists_texts (lines : List (List UInt8)) :
    ∃ (texts : List String) (rest : List (List UInt8)),
      lines = texts.map Text.utf8 ++ rest ∧ ∀ line ∈ rest.head?, ¬Text.IsText line := by
  induction lines with
  | nil => exact ⟨[], [], rfl, by simp⟩
  | cons line lines ih =>
    by_cases text : Text.IsText line
    · obtain ⟨s, rfl⟩ := text
      obtain ⟨texts, rest, rfl, broken⟩ := ih
      exact ⟨s :: texts, rest, rfl, broken⟩
    · exact ⟨[], line :: lines, rfl, by simpa using text⟩

/-- Input that ends with a line feed is read by itself, and what comes behind it by itself. -/
theorem readInput_append (ended : Text.Ended (· == 10) front) (back : List UInt8) :
    readInput (front ++ back) = followedBy (readInput front) (readInput back) := by
  rw [readInput, Text.byteLines, Text.linesBy_append ended, readLines_append]
  rfl

theorem commandsIn_append (lines rest : List (List UInt8)) : commandsIn (lines ++ rest) =
    commandsIn lines ++ if (readLines lines).2 then [] else commandsIn rest := by
  rw [commandsIn, readLines_append, followedBy]
  split <;> simp_all [commandsIn]

theorem commandsIn_texts (texts : List String) :
    commandsIn (texts.map Text.utf8) = texts.filterMap fun s => (ChannelCommand.ofLine s).toOption.join := by
  rw [commandsIn, readLines_texts, List.filterMap_map]
  exact congrArg (texts.filterMap ·) (funext command?_ofLine)

/-- The commands of two pieces of input are those of the first, and those of the second if the first has no broken
line. -/
theorem readCommands_append (ended : Text.Ended (· == 10) front) (back : List UInt8) :
    readCommands (front ++ back) =
      readCommands front ++ if (readInput front).2 then [] else readCommands back := by
  rw [readCommands, readInput_append ended, followedBy]
  split <;> simp_all [readCommands]

/-- The lines of a text are texts. -/
theorem isText_of_lined (text : Text.IsText bytes) (lined : Text.Lined (· == 10) (· == 13) bytes lines) :
    ∃ texts : List String, lines = texts.map Text.utf8 := by
  induction lined with
  | nothing => exact ⟨[], rfl⟩
  | last =>
    obtain ⟨s, rfl⟩ := text
    exact ⟨[s], rfl⟩
  | feed whole bare feeds behind ih =>
    obtain ⟨⟨s, here⟩, later⟩ := text.cut (beq_iff_eq.mp feeds ▸ by decide)
    obtain ⟨texts, rfl⟩ := ih later
    exact ⟨s :: texts, by rw [List.map_cons, here]⟩
  | returnFeed whole returns feeds behind ih =>
    obtain ⟨⟨s, here⟩, later⟩ := text.cut (beq_iff_eq.mp returns ▸ by decide)
    rw [← List.nil_append (_ :: _)] at later
    obtain ⟨texts, rfl⟩ := ih (later.cut (beq_iff_eq.mp feeds ▸ by decide)).2
    exact ⟨s :: texts, by rw [List.map_cons, here]⟩

theorem readCommands_text_append (text : Text.IsText front) (ended : Text.Ended (· == 10) front)
    (back : List UInt8) : readCommands (front ++ back) = readCommands front ++ readCommands back := by
  -- No line of the front is broken, so the reading does not stop in it.
  obtain ⟨texts, split⟩ := isText_of_lined text (Text.linesBy_eq_iff.mp rfl)
  have unbroken : (readInput front).2 = false := by
    rw [readInput, Text.byteLines, split, readLines_texts]
  rw [readCommands_append ended, unbroken]
  rfl

/-- A line without a command makes no difference, whatever stands before and behind it. -/
theorem readCommands_without {s : String} (ended : Text.Ended (· == 10) front)
    (lined : Text.Lined (· == 10) (· == 13) line [Text.utf8 s]) (ended' : Text.Ended (· == 10) line)
    (nothing : ∀ c, ChannelCommand.ofLine s ≠ .ok (some c)) (back : List UInt8) :
    readCommands (front ++ line ++ back) = readCommands (front ++ back) := by
  have single : readInput line = ([LineResult.ofLine s], false) := by
    rw [readInput, Text.byteLines, lined.linesBy_eq]
    exact readLines_texts [s]
  have none : (LineResult.ofLine s).command? = none := by
    rw [command?_ofLine]
    cases read : ChannelCommand.ofLine s with
    | error => rfl
    | ok result =>
      cases result with
      | none => rfl
      | some c => exact absurd read (nothing c)
  have same : readCommands (line ++ back) = readCommands back := by
    rw [readCommands_append ended', readCommands, single]
    simp [none]
  rw [List.append_assoc, readCommands_append ended, same, ← readCommands_append ended]

/-- Reading pieces as they come is reading them joined. -/
theorem readPieces_eq (pieces : List (List UInt8)) (left : List UInt8) :
    readPieces left pieces = readInput (left ++ pieces.flatten) := by
  induction pieces generalizing left with
  | nil => rw [readPieces, List.flatten_nil, List.append_nil]
  | cons piece pieces ih =>
    have cut := Text.cutBehindLast_append (· == 10) (left ++ piece)
    have ended := Text.cutBehindLast_ended (· == 10) (left ++ piece)
    calc readPieces left (piece :: pieces)
      _ = followedBy (readInput (Text.cutBehindLast (· == 10) (left ++ piece)).1)
            (readPieces (Text.cutBehindLast (· == 10) (left ++ piece)).2 pieces) := rfl
      _ = readInput (left ++ (piece :: pieces).flatten) := by
        rw [ih, ← readInput_append ended, ← List.append_assoc, cut, List.flatten_cons, List.append_assoc]

end Lines

/-- What is read of the input are the commands on its lines, in order, up to the first line that is no text. The
pieces in which the input comes make no difference, and neither does a line without a command, be it blank, a
comment or malformed. What stands behind a text that ends with a line feed is read as if it stood alone. -/
theorem commands_of_lines :
    (∀ bytes, ∃ (texts : List String) (rest : List (List UInt8)),
      (∀ lines, Text.Lined (· == 10) (· == 13) bytes lines ↔ lines = texts.map Text.utf8 ++ rest) ∧
      (∀ line ∈ rest.head?, ¬Text.IsText line) ∧
      readCommands bytes = texts.filterMap fun s => (ChannelCommand.ofLine s).toOption.join) ∧
    (∀ pieces, (readPieces [] pieces).1.filterMap LineResult.command? = readCommands pieces.flatten) ∧
    (∀ front line back s, Text.Ended (· == 10) front → Text.Ended (· == 10) line →
      Text.Lined (· == 10) (· == 13) line [Text.utf8 s] → (∀ c, ChannelCommand.ofLine s ≠ .ok (some c)) →
        readCommands (front ++ line ++ back) = readCommands (front ++ back)) ∧
    ∀ front back, Text.IsText front → Text.Ended (· == 10) front →
      readCommands (front ++ back) = readCommands front ++ readCommands back := by
  refine ⟨fun bytes => ?_, fun pieces => ?_, fun front line back s ended ended' lined nothing => ?_,
    fun front back text ended => readCommands_text_append text ended back⟩
  · obtain ⟨texts, rest, split, broken⟩ := exists_texts (Text.byteLines bytes)
    refine ⟨texts, rest, fun lines => ?_, broken, ?_⟩
    · rw [← Text.linesBy_eq_iff, ← split, eq_comm]
      rfl
    · have silent : commandsIn rest = [] := by rw [commandsIn, readLines_broken broken, List.filterMap_nil]
      calc readCommands bytes
        _ = commandsIn (texts.map Text.utf8 ++ rest) := congrArg commandsIn split
        _ = texts.filterMap fun s => (ChannelCommand.ofLine s).toOption.join := by
          rw [commandsIn_append, silent, ite_self, List.append_nil, commandsIn_texts]
  · rw [readPieces_eq, List.nil_append]
    rfl
  · exact readCommands_without ended lined ended' nothing back

/-- The malformed line in the middle ends with a return and a feed. The one behind the last command is no text. -/
theorem commands_of_lines_sample :
    let front := Text.utf8 "service#next ON\n"
    let line := Text.utf8 "nonsense\r\n"
    let back := Text.utf8 "check#next ON\n" ++ [0xFF, 10]
    Text.IsText front ∧ ¬Text.IsText back ∧ readCommands (front ++ line ++ back) = readCommands (front ++ back) ∧
      readCommands (front ++ back) = readCommands front ++ readCommands back := by
  intro front line back
  have text : Text.IsText front := ⟨_, rfl⟩
  have broken : ¬Text.IsText back := Text.decodeUtf8?_eq_none_iff.mp (by decide +kernel)
  have ended : Text.Ended (· == 10) front := by decide +kernel
  have ended' : Text.Ended (· == 10) line := by decide +kernel
  have lined : Text.Lined (· == 10) (· == 13) line [Text.utf8 "nonsense"] :=
    Text.linesBy_eq_iff.mp (by decide +kernel)
  have malformed : ∀ c, ChannelCommand.ofLine "nonsense" ≠ .ok (some c) := by
    have read : ChannelCommand.ofLine "nonsense" = .error (.noValue "nonsense") := rfl
    exact fun c => read ▸ nofun
  obtain ⟨_, _, without, behind⟩ := commands_of_lines
  exact ⟨text, broken, without front line back "nonsense" ended ended' lined malformed, behind front back text ended⟩

end VehicleLink
