import VehicleLink.Channel.Command
import VehicleLink.Proofs.Text.Cutting
import Mathlib.Tactic.Conv

namespace VehicleLink

open Text (isBlank trimChars)

namespace Command

variable {s v : String} {c : Command}

/-- What a value says: it is a switch in some letter case, or else a number, or else any other text. -/
inductive Means (v : String) : Command → Prop
  | on (same : Text.sameAscii v "ON" = true) : Means v (.onOff true)
  | off (same : Text.sameAscii v "OFF" = true) : Means v (.onOff false)
  | number {x : Float} (noOn : Text.sameAscii v "ON" = false) (noOff : Text.sameAscii v "OFF" = false)
      (read : Decimal.readFloat? v = some x) : Means v (.number x)
  | text (noOn : Text.sameAscii v "ON" = false) (noOff : Text.sameAscii v "OFF" = false)
      (unread : Decimal.readFloat? v = none) : Means v (.text v)

def ofValue (v : String) : Command :=
  if Text.sameAscii v "ON" then .onOff true
  else if Text.sameAscii v "OFF" then .onOff false
  else
    match Decimal.readFloat? v with
    | some x => .number x
    | none => .text v

theorem sameAscii_on_of_off (off : Text.sameAscii v "OFF" = true) : Text.sameAscii v "ON" = false :=
  Text.not_sameAscii_of_sameAscii off (by decide)

/-- A value says one thing, and that is what it is read as. -/
theorem means_iff : Means v c ↔ c = ofValue v := by
  constructor
  · intro means
    cases means with
    | on same => rw [ofValue, if_pos same]
    | off same => rw [ofValue, sameAscii_on_of_off same, if_neg (by decide), if_pos same]
    | number noOn noOff read => rw [ofValue, noOn, noOff, if_neg (by decide), if_neg (by decide), read]
    | text noOn noOff unread => rw [ofValue, noOn, noOff, if_neg (by decide), if_neg (by decide), unread]
  · rintro rfl
    unfold ofValue
    cases on : Text.sameAscii v "ON" with
    | true => exact .on on
    | false =>
      cases off : Text.sameAscii v "OFF" with
      | true => exact .off off
      | false =>
        cases read : Decimal.readFloat? v with
        | some x => exact .number on off read
        | none => exact .text on off read

theorem ofText?_of_ne (written : Text.trim s ≠ "") : ofText? s = some (ofValue (Text.trim s)) := by
  have nonempty : (Text.trim s).isEmpty = false := by simpa using written
  rw [ofText?, nonempty, if_neg (by decide), ofValue]
  split
  · rfl
  split
  · rfl
  cases Decimal.readFloat? (Text.trim s) <;> rfl

end Command

theorem ChannelGroup.name_ne_nil (g : ChannelGroup) : g.name.toList ≠ [] := by
  cases g <;> decide

theorem ChannelGroup.of_mem_name {g : ChannelGroup} {c : Char} (member : c ∈ g.name.toList) :
    (c == '#') = false ∧ isBlank c = false := by
  have plain : g.name.toList.all (fun c => c != '#' && !isBlank c) = true := by cases g <;> decide
  simpa using List.all_eq_true.mp plain c member

/-- A group is known by its name in this letter case only. -/
theorem ChannelGroup.ofName?_eq_some_iff {s : String} {g : ChannelGroup} : ofName? s = some g ↔ g.name = s := by
  constructor
  · intro known
    simpa using List.find?_some known
  · rintro rfl
    cases g <;> decide

namespace Channel

variable {s : String} {c : Channel}

theorem text_toList (c : Channel) : c.text.toList = c.group.name.toList ++ '#' :: c.id.toList := by
  simp [text]

/-- A text is the written name of a channel exactly if it is what is written for the channel. -/
theorem ofText_eq_ok_iff : ofText s = .ok c ↔ c.id ≠ "" ∧ c.text = s := by
  constructor
  · intro read
    unfold ofText at read
    split at read
    case h_1 => cases read
    case h_2 group id cut =>
      obtain ⟨sign, whole, here, _⟩ := Text.exists_of_cutAt cut
      split at read
      case h_1 => cases read
      case h_2 g known =>
        split at read
        case isTrue => cases read
        case isFalse named =>
          cases read
          refine ⟨by simpa using named, String.toList_inj.mp ?_⟩
          rw [text_toList, ChannelGroup.ofName?_eq_some_iff.mp known, String.toList_ofList, String.toList_ofList,
            whole, eq_of_beq here]
  · rintro ⟨named, rfl⟩
    have cut : Text.cutAt (· == '#') c.text.toList = some (c.group.name.toList, c.id.toList) := by
      rw [text_toList]
      exact Text.cutAt_append (fun d member => (ChannelGroup.of_mem_name member).1) rfl
    have known : ChannelGroup.ofName? (String.ofList c.group.name.toList) = some c.group := by
      rw [String.ofList_toList, ChannelGroup.ofName?_eq_some_iff]
    have nonempty : c.id.toList.isEmpty = false := by simpa using named
    rw [ofText, cut]
    dsimp only
    rw [known]
    dsimp only
    rw [nonempty, if_neg (by decide), String.ofList_toList]

/-- Channels that have names are told apart by their written names. -/
theorem text_inj {c' : Channel} (named : c.id ≠ "") (named' : c'.id ≠ "") (same : c.text = c'.text) : c = c' := by
  have read := ofText_eq_ok_iff.mpr ⟨named, rfl⟩
  rw [same, ofText_eq_ok_iff.mpr ⟨named', rfl⟩] at read
  exact (Except.ok.inj read).symm

end Channel

namespace ChannelCommand

variable {line value : String} {channel : Channel} {word rest : List Char}

/-- A line with nothing to read: it is blank, or begins with a number sign after blanks. -/
def IsSilent (line : String) : Prop := trimChars line.toList = [] ∨ ∃ rest, trimChars line.toList = '#' :: rest

/-- A line that, without the blanks at its ends, begins with the written name of a channel. The name goes up to the
first blank and has the name of a group before its first number sign; what is left behind the blank, without the
blanks at its ends, is the value. -/
structure Asks (line : String) (channel : Channel) (value : String) : Prop where
  named : channel.id ≠ ""
  unbroken : ∀ c ∈ channel.text.toList, isBlank c = false
  written : ∃ blank rest, isBlank blank = true ∧ trimChars line.toList = channel.text.toList ++ blank :: rest ∧
    value = Text.trim (String.ofList rest)

theorem Asks.not_silent (asks : Asks line channel value) : ¬IsSilent line := by
  obtain ⟨_, _, blank, more, _, whole, _⟩ := asks
  obtain ⟨first, rest, name⟩ := List.exists_cons_of_ne_nil channel.group.name_ne_nil
  rw [Channel.text_toList, name] at whole
  rintro (empty | ⟨comment, sign⟩)
  · cases whole.symm.trans empty
  · cases whole.symm.trans sign
    have own : '#' ∈ channel.group.name.toList := name ▸ List.mem_cons_self
    cases (ChannelGroup.of_mem_name own).1

theorem Asks.cut (asks : Asks line channel value) : ∃ rest,
    Text.cutAt isBlank (trimChars line.toList) = some (channel.text.toList, rest) ∧
      value = Text.trim (String.ofList rest) := by
  obtain ⟨_, unbroken, blank, rest, here, whole, same⟩ := asks
  refine ⟨rest, ?_, same⟩
  rw [whole]
  exact Text.cutAt_append unbroken here

/-- A line asks for one thing at most. -/
theorem Asks.unique {channel' : Channel} {value' : String} (asks : Asks line channel value)
    (asks' : Asks line channel' value') : channel = channel' ∧ value = value' := by
  obtain ⟨rest, cut, here⟩ := asks.cut
  obtain ⟨rest', cut', here'⟩ := asks'.cut
  obtain ⟨word, same⟩ := Prod.mk.inj (Option.some.inj (cut.symm.trans cut'))
  exact ⟨Channel.text_inj asks.named asks'.named (String.toList_inj.mp word), by rw [here, here', same]⟩

theorem asks_of_cut (cut : Text.cutAt isBlank (trimChars line.toList) = some (word, rest))
    (read : Channel.ofText (String.ofList word) = .ok channel) :
    Asks line channel (Text.trim (String.ofList rest)) := by
  obtain ⟨named, text⟩ := Channel.ofText_eq_ok_iff.mp read
  obtain ⟨blank, whole, here, unbroken⟩ := Text.exists_of_cutAt cut
  have same : channel.text.toList = word := by rw [text, String.toList_ofList]
  exact ⟨named, same ▸ unbroken, blank, rest, here, by rw [same, whole], rfl⟩

/-- A line does not end with a blank, so there is something behind its first one. -/
theorem value_ne_of_cut (cut : Text.cutAt isBlank (trimChars line.toList) = some (word, rest)) :
    Text.trim (String.ofList rest) ≠ "" := by
  obtain ⟨blank, whole, here, _⟩ := Text.exists_of_cutAt cut
  have ends := (Text.trimChars_bare line.toList).2
  have last : ∃ c ∈ rest, isBlank c = false := by
    rcases List.eq_nil_or_concat rest with none | ⟨front, c, split⟩
    · rw [none] at whole
      cases here.symm.trans (ends word blank whole)
    · rw [split, List.concat_eq_append] at whole ⊢
      exact ⟨c, by simp, ends (word ++ blank :: front) c (by rw [whole]; simp)⟩
  obtain ⟨c, member, visible⟩ := last
  simpa [Text.trim] using Text.trimChars_ne_nil member visible

/-- What can come of a line. -/
inductive Parsed (line : String) : Except LineProblem (Option ChannelCommand) → Prop
  | silent (silent : IsSilent line) : Parsed line (.ok none)
  | asked {channel : Channel} {value : String} {command : Command} (asks : Asks line channel value)
      (means : command.Means value) : Parsed line (.ok (some ⟨channel, command⟩))
  | undivided (loud : ¬IsSilent line) (unbroken : ∀ c ∈ trimChars line.toList, isBlank c = false) :
      Parsed line (.error (.noValue (Text.trim line)))
  | misnamed (loud : ¬IsSilent line) {word rest : List Char} {problem : ChannelProblem}
      (cut : Text.cutAt isBlank (trimChars line.toList) = some (word, rest))
      (unread : Channel.ofText (String.ofList word) = .error problem) : Parsed line (.error (.channel problem))

theorem ofLine_of_not_silent (loud : ¬IsSilent line) :
    ofLine line = (ofWords (trimChars line.toList)).map some := by
  unfold ofLine
  split
  case h_1 empty => exact absurd (.inl empty) loud
  case h_2 comment sign => exact absurd (.inr ⟨comment, sign⟩) loud
  case h_3 => rfl

/-- A line is read in one of these ways. -/
theorem ofLine_parsed (line : String) : Parsed line (ofLine line) := by
  by_cases silent : IsSilent line
  · have nothing : ofLine line = .ok none := by
      rcases silent with empty | ⟨comment, sign⟩
      · rw [ofLine, empty]
      · rw [ofLine, sign]
        rfl
    rw [nothing]
    exact .silent silent
  · rw [ofLine_of_not_silent silent, ofWords]
    cases cut : Text.cutAt isBlank (trimChars line.toList) with
    | none => exact .undivided silent (Text.cutAt_eq_none_iff.mp cut)
    | some sides =>
      obtain ⟨word, rest⟩ := sides
      dsimp only
      rw [Command.ofText?_of_ne (value_ne_of_cut cut)]
      cases read : Channel.ofText (String.ofList word) with
      | error problem => exact .misnamed silent cut read
      | ok channel => exact .asked (asks_of_cut cut read) (Command.means_iff.mpr rfl)

theorem ofLine_eq_none_iff : ofLine line = .ok none ↔ IsSilent line := by
  have course := ofLine_parsed line
  generalize ofLine line = result at course ⊢
  cases course with
  | silent silent => exact iff_of_true rfl silent
  | asked asks => exact iff_of_false nofun asks.not_silent
  | undivided loud | misnamed loud => exact iff_of_false nofun loud

/-- A command is read exactly from the lines that ask for its channel with a value that means it. -/
theorem ofLine_eq_some_iff {c : ChannelCommand} :
    ofLine line = .ok (some c) ↔ ∃ value, Asks line c.channel value ∧ c.command.Means value := by
  have course := ofLine_parsed line
  generalize ofLine line = result at course ⊢
  cases course with
  | silent silent => exact iff_of_false nofun fun ⟨_, asks, _⟩ => asks.not_silent silent
  | @asked channel value command asks means =>
    constructor
    · intro same
      cases same
      exact ⟨value, asks, means⟩
    · rintro ⟨value', asks', means'⟩
      obtain ⟨rfl, rfl⟩ := asks.unique asks'
      rw [Command.means_iff.mp means, ← Command.means_iff.mp means']
  | undivided _ unbroken =>
    refine iff_of_false nofun fun ⟨_, asks, _⟩ => ?_
    obtain ⟨_, cut, _⟩ := asks.cut
    cases (Text.cutAt_eq_none_iff.mpr unbroken).symm.trans cut
  | misnamed _ cut unread =>
    refine iff_of_false nofun fun ⟨_, asks, _⟩ => ?_
    obtain ⟨_, cut', _⟩ := asks.cut
    cases cut.symm.trans cut'
    have read := Channel.ofText_eq_ok_iff.mpr ⟨asks.named, (String.ofList_toList).symm⟩
    cases unread.symm.trans read

theorem Asks.read (asks : Asks line channel value) : ofLine line = .ok (some ⟨channel, .ofValue value⟩) :=
  ofLine_eq_some_iff.mpr ⟨value, asks, Command.means_iff.mpr rfl⟩

theorem text_unbroken (unbroken : ∀ c ∈ channel.id.toList, isBlank c = false) :
    ∀ c ∈ channel.text.toList, isBlank c = false := by
  intro c member
  rw [Channel.text_toList] at member
  rcases List.mem_append.mp member with own | own
  · exact (ChannelGroup.of_mem_name own).2
  · rcases List.mem_cons.mp own with rfl | own
    · rfl
    · exact unbroken c own

/-- A line can be written for any channel whose name has no blanks, with any value that is not blank. -/
theorem asks_written (named : channel.id ≠ "") (unbroken : ∀ c ∈ channel.id.toList, isBlank c = false)
    (written : Text.trim value ≠ "") : Asks (channel.text ++ " " ++ value) channel (Text.trim value) := by
  have whole := text_unbroken unbroken
  have some : channel.text.toList ≠ [] := by simp [Channel.text_toList]
  have nonempty : trimChars value.toList ≠ [] := by simpa [Text.trim] using written
  obtain ⟨front, back, padded, blanks, blanks'⟩ := Text.trimChars_split value.toList
  have bare := (Text.bare_of_forall whole).around (Text.trimChars_bare value.toList) some nonempty (' ' :: front)
  refine ⟨named, whole, ' ', front ++ trimChars value.toList, rfl, ?_, ?_⟩
  · -- The blanks at the end of the value are those at the end of the line.
    have line : (channel.text ++ " " ++ value).toList =
        [] ++ (channel.text.toList ++ ' ' :: front ++ trimChars value.toList) ++ back := by
      rw [String.toList_append]
      conv_lhs => rw [padded]
      simp
    rw [line, Text.trimChars_pad bare (by simp) blanks', List.append_assoc, List.cons_append]
  · have value : trimChars (front ++ trimChars value.toList ++ []) = trimChars value.toList :=
      Text.trimChars_pad (Text.trimChars_bare _) blanks (by simp)
    rw [List.append_nil] at value
    rw [Text.trim, Text.trim, String.toList_ofList, value]

/-- Which lines are read, and as what. A line is silent, asks for one thing, or is in error. The command of a line
that asks for something is for the channel whose written name stands there, and it is the one thing that the value
says; there is always a value. The written name of a channel is read as this channel, and where the name has no
blanks, so it is on a line. -/
theorem ofLine_grammar (line : String) :
    (ofLine line = .ok none ↔ IsSilent line) ∧
    ((∃ c, ofLine line = .ok (some c)) ↔ ¬IsSilent line ∧ ∃ channel value, Asks line channel value) ∧
    ((∃ problem, ofLine line = .error problem) ↔ ¬IsSilent line ∧ ¬∃ channel value, Asks line channel value) ∧
    (∀ c, ofLine line = .ok (some c) ↔ ∃ value, Asks line c.channel value ∧ c.command.Means value) ∧
    (∀ value, ∃! command : Command, command.Means value) ∧
    ofLine line ≠ .error .emptyValue ∧
    ∀ channel : Channel, channel.id ≠ "" → Channel.ofText channel.text = .ok channel ∧
      ((∀ c ∈ channel.id.toList, isBlank c = false) → ∀ value command, Text.trim value ≠ "" →
        command.Means (Text.trim value) →
          ofLine (channel.text ++ " " ++ value) = .ok (some ⟨channel, command⟩)) := by
  have value_of (value : String) : ∃! command : Command, command.Means value :=
    ⟨.ofValue value, Command.means_iff.mpr rfl, fun _ means => Command.means_iff.mp means⟩
  refine ⟨ofLine_eq_none_iff, ⟨?_, ?_⟩, ?_, fun c => ofLine_eq_some_iff, value_of, ?_, ?_⟩
  · rintro ⟨c, read⟩
    obtain ⟨value, asks, _⟩ := ofLine_eq_some_iff.mp read
    exact ⟨asks.not_silent, c.channel, value, asks⟩
  · rintro ⟨_, channel, value, asks⟩
    exact ⟨_, asks.read⟩
  · constructor
    · rintro ⟨problem, failed⟩
      refine ⟨fun silent => ?_, fun ⟨channel, value, asks⟩ => ?_⟩
      · cases failed.symm.trans (ofLine_eq_none_iff.mpr silent)
      · cases failed.symm.trans asks.read
    · rintro ⟨loud, nothing⟩
      cases course : ofLine line with
      | error problem => exact ⟨problem, rfl⟩
      | ok result =>
        cases result with
        | none => exact absurd (ofLine_eq_none_iff.mp course) loud
        | some c =>
          obtain ⟨value, asks, _⟩ := ofLine_eq_some_iff.mp course
          exact absurd ⟨c.channel, value, asks⟩ nothing
  · intro empty
    have course := ofLine_parsed line
    rw [empty] at course
    cases course
  · intro channel named
    refine ⟨Channel.ofText_eq_ok_iff.mpr ⟨named, rfl⟩, fun unbroken value command written means => ?_⟩
    exact ofLine_eq_some_iff.mpr ⟨_, asks_written named unbroken written, means⟩

/-- A second number sign belongs to the name, other blanks than spaces end it too, and the blanks inside a value are
kept. -/
theorem ofLine_grammar_sample :
    let line := "\u3000charge#a#b\tnot  now "
    ofLine line = .ok (some ⟨⟨.charge, "a#b"⟩, .text "not  now"⟩) ∧
      ofLine "charge#a#b on" = .ok (some ⟨⟨.charge, "a#b"⟩, .onOff true⟩) := by
  intro line
  have visible : ∀ c ∈ "a#b".toList, isBlank c = false := by simp [isBlank]
  obtain ⟨_, _, _, asked, _⟩ := ofLine_grammar line
  obtain ⟨_, _, _, _, _, _, written⟩ := ofLine_grammar ""
  constructor
  · have asks : Asks line ⟨.charge, "a#b"⟩ "not  now" :=
      ⟨by decide, text_unbroken visible, '\t', "not  now".toList, rfl, by decide +kernel, by decide +kernel⟩
    exact (asked _).mpr ⟨_, asks, .text (by decide +kernel) (by decide +kernel) (by decide +kernel)⟩
  · exact (written ⟨.charge, "a#b"⟩ (by decide)).2 visible "on" _ (by decide +kernel) (.on (by decide +kernel))

end ChannelCommand

end VehicleLink
