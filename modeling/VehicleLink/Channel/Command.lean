import VehicleLink.Channel.Name
import VehicleLink.Decimal.Layout
import VehicleLink.Decimal.Reading
import VehicleLink.Text.Blank
import VehicleLink.Text.LetterCase
import VehicleLink.Text.Utf8

namespace VehicleLink

/-- A value that is written to a channel. -/
inductive Command where
  | onOff (on : Bool)
  | number (value : Float)
  | text (s : String)

namespace Command

/-- Reads a value: `ON` or `OFF` in any letter case, else a number, else any other text. There is
none in a blank text. -/
def ofText? (s : String) : Option Command :=
  let t := Text.trim s
  if t.isEmpty then none
  else if Text.sameAscii t "ON" then some (.onOff true)
  else if Text.sameAscii t "OFF" then some (.onOff false)
  else
    match Decimal.readFloat? t with
    | some x => some (.number x)
    | none => some (.text t)

/-- A value as messages repeat it. -/
def label : Command → String
  | .onOff true => "OnOff(true)"
  | .onOff false => "OnOff(false)"
  | .number value => "Number(" ++ Decimal.render Decimal.precise value ++ ")"
  | .text s => "Text(" ++ Text.quoted s ++ ")"

end Command

/-- A command with the channel it is for. -/
structure ChannelCommand where
  channel : Channel
  command : Command

/-- What is wrong with a command line. -/
inductive LineProblem where
  /-- There is no blank in it. -/
  | noValue (line : String)
  | channel (problem : ChannelProblem)
  | emptyValue
deriving DecidableEq, Repr

/-- The problem in words. -/
def LineProblem.message : LineProblem → String
  | .noValue line => "expected `<group>#<channel> <value>`, got " ++ Text.quoted line
  | .channel problem => problem.message
  | .emptyValue => "empty command value"

namespace ChannelCommand

/-- Reads a command line that is not blank and no comment, and has no blanks at its ends. -/
def ofWords (line : List Char) : Except LineProblem ChannelCommand :=
  match Text.cutAt Text.isBlank line with
  | none => .error (.noValue (String.ofList line))
  | some (channel, value) =>
    match Channel.ofText (String.ofList channel), Command.ofText? (String.ofList value) with
    | .error problem, _ => .error (.channel problem)
    | .ok _, none => .error .emptyValue
    | .ok channel, some command => .ok ⟨channel, command⟩

/-- Reads a line. -/
def ofLine (line : String) : Except LineProblem (Option ChannelCommand) :=
  match Text.trimChars line.toList with
  | [] | '#' :: _ => .ok none
  | cs => (ofWords cs).map some

end ChannelCommand

/-- What comes of one line of the command input. -/
inductive LineResult where
  | command (c : ChannelCommand)
  | silent
  /-- The line is passed over. -/
  | ignored (problem : LineProblem)
deriving Inhabited

/-- What comes of a line. -/
def LineResult.ofLine (line : String) : LineResult :=
  match ChannelCommand.ofLine line with
  | .ok (some c) => .command c
  | .ok none => .silent
  | .error problem => .ignored problem

/-- What comes of the lines before the first one that is no text, and whether there is such a line.
Nothing is read from that line on. -/
def readLines : List (List UInt8) → List LineResult × Bool
  | [] => ([], false)
  | line :: rest =>
    match Text.decodeUtf8? line with
    | none => ([], true)
    | some s =>
      let (results, broken) := readLines rest
      (LineResult.ofLine s :: results, broken)

/-- Reads the command input. -/
def readInput (bytes : List UInt8) : List LineResult × Bool := readLines (Text.byteLines bytes)

/-- What comes of some lines and of those behind them, which are read unless there was one that is no
text. -/
def followedBy (front back : List LineResult × Bool) : List LineResult × Bool :=
  if front.2 then front else (front.1 ++ back.1, back.2)

/-- Reads one more piece of the command input behind what was left of the pieces before it. What
comes behind the last line feed is left for the next one. -/
def readPiece (left piece : List UInt8) : (List LineResult × Bool) × List UInt8 :=
  let (whole, left) := Text.cutBehindLast (· == 10) (left ++ piece)
  (readInput whole, left)

/-- Reads the command input in pieces, as they come. -/
def readPieces : List UInt8 → List (List UInt8) → List LineResult × Bool
  | left, [] => readInput left
  | left, piece :: pieces =>
    let (results, left) := readPiece left piece
    followedBy results (readPieces left pieces)

/-- The command of a line, if it has one. -/
def LineResult.command? : LineResult → Option ChannelCommand
  | .command c => some c
  | _ => none

/-- The commands of the command input, in order. -/
def readCommands (bytes : List UInt8) : List ChannelCommand :=
  (readInput bytes).1.filterMap LineResult.command?

/-- What is noted about a line. -/
def LineResult.notes : LineResult → List String
  | .ignored problem => ["Ignoring command line: " ++ problem.message]
  | _ => []

/-- What is noted about lines of the command input. -/
def inputNotes (lines : List LineResult × Bool) : List String :=
  lines.1.flatMap LineResult.notes ++
    if lines.2 then ["Reading commands failed: " ++ Text.notTextReason] else []

/-- What is noted while the command input is read. -/
def readNotes (bytes : List UInt8) : List String := inputNotes (readInput bytes)

end VehicleLink
