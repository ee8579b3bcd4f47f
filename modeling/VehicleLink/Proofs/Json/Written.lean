import Mathlib
import VehicleLink.Json.Shape
import VehicleLink.Proofs.Json.Parsing
import VehicleLink.Proofs.Json.Values

namespace VehicleLink.Json

section Texts

/-- The piece that a character of a text is read back as: one that has no letter of its own after the
backslash is written as a unit. -/
def pieceOf (c : Char) : Piece :=
  match escapeChar c with
  | '\\' :: 'u' :: _ => .unit c.toNat
  | _ => .char c

/-- A text as it is written. -/
def escaped (s : String) : Written := ⟨s.toList.map pieceOf, none⟩

/-- The digits that are written for a control character are read back as its unit. -/
theorem hexUnit_read {n : Nat} (small : n < 0x20) :
    ∃ a b c d, hexUnit n = [a, b, c, d] ∧ hexUnit? a b c d = some n := by
  interval_cases n <;> exact ⟨_, _, _, _, rfl, rfl⟩

/-- Every character is written as one piece. -/
theorem escapeChar_spells (c : Char) (rest : List Char) : (pieceOf c).Spells (escapeChar c ++ rest) rest := by
  unfold pieceOf
  fun_cases escapeChar c with
  | case8 c quote backslash _ _ _ _ _ control =>
    obtain ⟨a, b, d, e, digits, unit⟩ := hexUnit_read control
    rw [digits]
    exact .unit unit
  | case9 c quote backslash _ _ _ _ _ printed =>
    split
    · rename_i longer
      cases longer
    · exact .char quote backslash printed
  | _ => exact .escape rfl

/-- What is written for a text is the text as the grammar asks for. -/
theorem writeText_spells (s : String) (rest : List Char) : (escaped s).Spells (writeText s ++ rest) rest := by
  have pieces (cs : List Char) :
      PiecesSpell (cs.map pieceOf) (cs.flatMap escapeChar ++ '"' :: rest) rest := by
    induction cs with
    | nil => exact .close
    | cons c cs ih =>
      rw [List.map_cons, List.flatMap_cons, List.append_assoc]
      exact .piece (escapeChar_spells c _) ih
  exact ⟨rfl, _, by simp [writeText], pieces s.toList⟩

theorem joinPieces_pieceOf (c : Char) (rest : List Piece) :
    joinPieces none (pieceOf c :: rest) = (joinPieces none rest).map (c :: ·) := by
  unfold pieceOf
  split
  · rename_i letters
    have control : c.toNat < 0x20 := by
      by_contra printed
      unfold escapeChar at letters
      split at letters
      case h_8 => simp [if_neg printed] at letters
      all_goals simp at letters
    have unit : c.toNat < 0xD800 ∨ 0xE000 ≤ c.toNat := Or.inl (by omega)
    rw [joinPieces.eq_def]
    simp only [if_pos unit, Char.ofNat_toNat]
  · rfl

/-- A text is read back from what is written for it. -/
theorem escaped_read (s : String) : (escaped s).read = .ok s := by
  have joined (cs : List Char) : joinPieces none (cs.map pieceOf) = .ok cs := by
    induction cs with
    | nil => rfl
    | cons c cs ih => rw [List.map_cons, joinPieces_pieceOf, ih, Except.map]
  simp only [Written.read, escaped, joined, Except.map, String.ofList_toList]

end Texts

section Numbers

theorem ofText_numeral {n : Numeral} (proper : n.Proper) :
    ofText (String.ofList n.chars) = (Tree.number n.value?).keep depthLimit := by
  have spelled : n.Spells (n.chars ++ []) [] := Numeral.chars_spells proper fun _ first => by cases first
  rw [List.append_nil] at spelled
  have begins : (Tree.number n.value?).Begins (String.ofList n.chars) :=
    ⟨[], .of_spells ⟨n, by rwa [String.toList_ofList], rfl⟩⟩
  rw [ofText, (Tree.begins_iff.mp begins).1]

end Numbers

end VehicleLink.Json

namespace VehicleLink

open Json

/-- A number that is read back as it is from what is written for it. -/
def Number.ReadsBack (n : Number) : Prop := ofText (Json.number n).toText = .ok (.number n)

/-- An integer of 64 bits is read back. -/
theorem Number.readsBack_whole {n : Int} (range : Number.InRange (.whole n)) :
    Number.ReadsBack (.whole n) := by
  rw [ReadsBack, toText, write, writeWhole_numeral, ofText_numeral (wholeNumeral_proper n),
    wholeNumeral_value range, Tree.keep]

/-- What is written for a floating-point number that is infinite or no number is not read as a number. -/
theorem Number.ReadsBack.written {x : Float} (back : Number.ReadsBack (.real x)) :
    ∃ m : Numeral, m.Proper ∧ writeNumber (.real x) = m.chars := by
  rw [ReadsBack, toText, write, writeNumber] at back
  by_cases finite : x.isFinite
  · rw [if_pos finite, String.ofList_toList] at back
    rw [writeNumber, if_pos finite]
    cases size : Decimal.magnitude x with
    | finite size => exact render_numeral size
    | infinite =>
      rw [Decimal.render, size] at back
      cases sign : Decimal.isNegative x with
      | true =>
        rw [sign, show ofText _ = .error .malformed by cbv] at back
        cases back
      | false =>
        rw [sign, show ofText _ = .error .malformed by cbv] at back
        cases back
    | notANumber =>
      rw [Decimal.render, size, show ofText _ = .error .malformed by cbv] at back
      cases back
  · rw [if_neg finite, show ofText _ = .ok .null by cbv] at back
    cases back

/-- A number that is read back is written as a numeral of its value. -/
theorem Number.ReadsBack.numeral {n : Number} (back : n.ReadsBack) :
    ∃ m : Numeral, m.Proper ∧ writeNumber n = m.chars ∧ m.value? = some n := by
  have written : ∃ m : Numeral, m.Proper ∧ writeNumber n = m.chars := by
    cases n with
    | whole n => exact ⟨wholeNumeral n, wholeNumeral_proper n, writeWhole_numeral n⟩
    | real x => exact back.written
  obtain ⟨m, proper, text⟩ := written
  refine ⟨m, proper, text, ?_⟩
  rw [ReadsBack, toText, write, text, ofText_numeral proper] at back
  cases value : m.value? with
  | none => rw [value] at back; cases back
  | some v =>
    rw [value] at back
    cases back
    rfl

theorem Json.Numeral.three_halves_value :
    Numeral.value? ⟨false, ['1'], some ['5'], none⟩ = some (.real 1.5) := by
  have scaled : scale? (15 : Nat).toUInt64.toFloat (-1) = some 1.5 := by
    rw [scale?]
    rfl
  show Option.map _ (scale? (15 : Nat).toUInt64.toFloat (-1)) = _
  rw [scaled]
  rfl

theorem Number.readsBack_three_halves : Number.ReadsBack (.real 1.5) := by
  have text : (Json.number (.real 1.5)).toText = "1.5" := by decide +kernel
  have tokens : tokens "1.5".toList = [.number ⟨false, ['1'], some ['5'], none⟩] := by cbv
  have value := Numeral.three_halves_value
  rw [ReadsBack, text, ofText, Tree.ofText, tokens]
  simp [Tree.ofTokens, State.step, State.readValue, value, State.deliver, State.finish, Tree.keep]

namespace Json

mutual
/-- The syntax tree of a value whose texts are written in some way. -/
def treeWith (spelling : String → Written) : Json → Tree
  | .null => .null
  | .flag b => .flag b
  | .number n => .number (some n)
  | .text s => .text (spelling s)
  | .list items => .list (treesWith spelling items) none
  | .object members => .object (memberTreesWith spelling members) none

def treesWith (spelling : String → Written) : List Json → List Tree
  | [] => []
  | v :: rest => treeWith spelling v :: treesWith spelling rest

def memberTreesWith (spelling : String → Written) : List (String × Json) → List (Written × Tree)
  | [] => []
  | (key, v) :: rest => (spelling key, treeWith spelling v) :: memberTreesWith spelling rest
end

/-- What is written for a value is a value of this tree, whatever follows that does not continue a number. -/
def WrittenAs (v : Json) (t : Tree) : Prop :=
  ∀ rest, NumberEnds rest → t.Spells (v.write ++ rest) rest

theorem numberEnds_mark (mark : Char) {rest : List Char}
    (other : mark.isDigit = false ∧ mark ≠ '.' ∧ mark ≠ 'e' ∧ mark ≠ 'E') : NumberEnds (mark :: rest) := by
  intro c first
  cases first
  exact other

theorem writtenAs_null : WrittenAs .null .null := fun _ _ => rfl

theorem writtenAs_flag (b : Bool) : WrittenAs (.flag b) (.flag b) := by
  intro rest _
  cases b <;> rfl

theorem writtenAs_number {n : Number} {m : Numeral} (proper : m.Proper) (text : writeNumber n = m.chars) :
    WrittenAs (.number n) (.number m.value?) := by
  intro rest ends
  rw [write, text]
  exact ⟨m, Numeral.chars_spells proper (ends.endsBefore m), rfl⟩

theorem writtenAs_text (s : String) : WrittenAs (.text s) (.text (escaped s)) :=
  fun _ _ => writeText_spells s _

theorem writtenAs_list {items : List Json} {ts : List Tree} (each : List.Forall₂ WrittenAs items ts) :
    WrittenAs (.list items) (.list ts none) := by
  intro rest _
  have more {v : Json} {items : List Json} {ts : List Tree} (each : List.Forall₂ WrittenAs items ts) :
      ∃ after, writeItems (v :: items) ++ ']' :: rest = v.write ++ after ∧ NumberEnds after ∧
        ItemsSpell ts after rest := by
    induction each generalizing v with
    | nil => exact ⟨_, rfl, numberEnds_mark ']' (by decide), .of_spells rfl⟩
    | @cons w t items ts here later ih =>
      obtain ⟨after, text, ends, spelled⟩ := ih (v := w)
      refine ⟨',' :: (writeItems (w :: items) ++ ']' :: rest), by simp [writeItems], numberEnds_mark ',' (by decide),
        _, after, .of_spells rfl, ?_, spelled⟩
      rw [text]
      exact .of_spells (here _ ends)
  cases each with
  | nil => exact ⟨_, rfl, .of_spells rfl⟩
  | @cons v t items ts here later =>
    obtain ⟨after, text, ends, spelled⟩ := more later (v := v)
    refine ⟨writeItems (v :: items) ++ ']' :: rest, after, by simp [write, Token.Spells], ?_, spelled⟩
    rw [text]
    exact .of_spells (here _ ends)

/-- An object is written as one if each of its members is. -/
theorem writtenAs_object {members : List (String × Json)} {ms : List (Written × Tree)}
    (each : List.Forall₂ (fun m n => n.1 = escaped m.1 ∧ WrittenAs m.2 n.2) members ms) :
    WrittenAs (.object members) (.object ms none) := by
  intro rest _
  have more {m : String × Json} {members : List (String × Json)} {ms : List (Written × Tree)}
      (each : List.Forall₂ (fun m n => n.1 = escaped m.1 ∧ WrittenAs m.2 n.2) members ms) :
      ∃ after, writeMembers (m :: members) ++ '\x7d' :: rest = writeText m.1 ++ ':' :: (m.2.write ++ after) ∧
        NumberEnds after ∧ MembersSpell ms after rest := by
    induction each generalizing m with
    | nil => exact ⟨'\x7d' :: rest, by simp [writeMembers], numberEnds_mark _ (by decide), .of_spells rfl⟩
    | @cons w n members ms here later ih =>
      obtain ⟨after, text, ends, spelled⟩ := ih (m := w)
      obtain ⟨key, t⟩ := n
      obtain ⟨rfl, here⟩ := here
      refine ⟨',' :: (writeMembers (w :: members) ++ '\x7d' :: rest), by simp [writeMembers],
        numberEnds_mark ',' (by decide), _, _, _, after, .of_spells rfl, ?_, .of_spells rfl,
        .of_spells (here _ ends), spelled⟩
      rw [text]
      exact .of_spells (writeText_spells w.1 _)
  cases each with
  | nil => exact ⟨_, rfl, .of_spells rfl⟩
  | @cons m n members ms here later =>
    obtain ⟨after, text, ends, spelled⟩ := more later (m := m)
    obtain ⟨key, t⟩ := n
    obtain ⟨rfl, here⟩ := here
    refine ⟨writeMembers (m :: members) ++ '\x7d' :: rest, _, _, after, by simp [write, Token.Spells], ?_,
      .of_spells rfl, .of_spells (here _ ends), spelled⟩
    rw [text]
    exact .of_spells (writeText_spells m.1 _)

/-- The syntax tree of what is written for a value. -/
theorem WrittenAs.treeOfText {v : Json} {t : Tree} (written : WrittenAs v t) : Tree.ofText v.toText = t := by
  have spelled := written [] fun _ first => by cases first
  rw [List.append_nil] at spelled
  have begins : t.Begins v.toText := ⟨[], .of_spells (by rwa [toText, String.toList_ofList])⟩
  exact (Tree.begins_iff.mp begins).1

/-- A value with numbers that are read back is written with its texts escaped. -/
theorem writtenAs_treeWith {v : Json} (back : ∀ n, .number n ∈ v.parts → n.ReadsBack) :
    WrittenAs v (treeWith escaped v) := by
  induction v with
  | null => exact writtenAs_null
  | flag b => exact writtenAs_flag b
  | number n =>
    obtain ⟨m, proper, text, value⟩ := (back n (by simp [parts])).numeral
    rw [treeWith, ← value]
    exact writtenAs_number proper text
  | text s => exact writtenAs_text s
  | list items ih =>
    have each : ∀ v ∈ items, WrittenAs v (treeWith escaped v) := fun v member =>
      ih v member fun n part => back n (mem_parts_list.mpr (Or.inr ⟨v, member, part⟩))
    rw [treeWith]
    refine writtenAs_list ?_
    clear ih back
    induction items with
    | nil => exact .nil
    | cons v rest inner =>
      obtain ⟨here, later⟩ := List.forall_mem_cons.mp each
      exact .cons here (inner later)
  | object members ih =>
    have each : ∀ m ∈ members, WrittenAs m.2 (treeWith escaped m.2) := fun m member =>
      ih m member fun n part => back n (mem_parts_object.mpr (Or.inr ⟨m, member, part⟩))
    rw [treeWith]
    refine writtenAs_object ?_
    clear ih back
    induction members with
    | nil => exact .nil
    | cons m rest inner =>
      obtain ⟨here, later⟩ := List.forall_mem_cons.mp each
      exact .cons ⟨rfl, here⟩ (inner later)

/-- What is written for a value has the tree of the value. -/
theorem treeOfText_toText {v : Json} (back : ∀ n, .number n ∈ v.parts → n.ReadsBack) :
    Tree.ofText v.toText = treeWith escaped v :=
  (writtenAs_treeWith back).treeOfText

theorem keepItems_treesWith {spelling : String → Written} {room : Nat} {items : List Json}
    (each : ∀ v ∈ items, (treeWith spelling v).keep room = .ok v.normal) :
    keepItems room none (treesWith spelling items) = .ok (normalItems items) := by
  induction items with
  | nil => rfl
  | cons v rest ih =>
    obtain ⟨here, later⟩ := List.forall_mem_cons.mp each
    rw [treesWith, keepItems, here, ih later, normalItems]
    rfl

theorem keepMembers_treesWith {spelling : String → Written} (read : ∀ s, (spelling s).read = .ok s)
    {room : Nat} {members kept : List (String × Json)}
    (each : ∀ m ∈ members, (treeWith spelling m.2).keep room = .ok m.2.normal) :
    keepMembers room none kept (memberTreesWith spelling members) =
      .ok (insertAll kept (normalMembers members)) := by
  induction members generalizing kept with
  | nil => rfl
  | cons m rest ih =>
    obtain ⟨here, later⟩ := List.forall_mem_cons.mp each
    rw [memberTreesWith, keepMembers, read, here, normalMembers]
    exact ih later

/-- What is kept of the tree of a value is its normal form. -/
theorem keep_treeWith {spelling : String → Written} (read : ∀ s, (spelling s).read = .ok s) {v : Json}
    {room : Nat} (fits : v.depth ≤ room) : (treeWith spelling v).keep room = .ok v.normal := by
  induction v generalizing room with
  | null => rfl
  | flag b => rfl
  | number n => rfl
  | text s =>
    rw [treeWith, Tree.keep, read]
    rfl
  | list items ih =>
    cases room with
    | zero => simp [depth] at fits
    | succ room =>
      have each := depth_list_le.mp fits
      rw [treeWith, Tree.keep, keepItems_treesWith fun v member => ih v member (each v member)]
      rfl
  | object members ih =>
    cases room with
    | zero => simp [depth] at fits
    | succ room =>
      have each := depth_object_le.mp fits
      rw [treeWith, Tree.keep, keepMembers_treesWith read fun m member => ih m member (each m member)]
      rfl

/-- What is written for a value is read back as its normal form. -/
theorem ofText_toText {v : Json} (bounded : v.Bounded Number.ReadsBack depthLimit) :
    ofText v.toText = .ok v.normal := by
  rw [ofText, treeOfText_toText bounded.2, keep_treeWith escaped_read bounded.1]

/-- The characters of a text as they are. -/
def verbatim (s : String) : Written := ⟨s.toList.map .char, none⟩

theorem verbatim_read (s : String) : (verbatim s).read = .ok s := by
  have joined (cs : List Char) : joinPieces none (cs.map .char) = .ok cs := by
    induction cs with
    | nil => rfl
    | cons c cs ih =>
      rw [List.map_cons, joinPieces, ih]
      rfl
  rw [Written.read, verbatim, joined, Except.map, String.ofList_toList]

theorem toTree_eq (v : Json) : toTree v = treeWith verbatim v := by
  induction v with
  | null => rfl
  | flag b => rfl
  | number n => rfl
  | text s => rfl
  | list items ih =>
    have trees : toTrees items = treesWith verbatim items := by
      induction items with
      | nil => rfl
      | cons v rest inner =>
        obtain ⟨here, later⟩ := List.forall_mem_cons.mp ih
        rw [toTrees, treesWith, here, inner later]
    rw [toTree, treeWith, trees]
  | object members ih =>
    have trees : toTreeMembers members = memberTreesWith verbatim members := by
      induction members with
      | nil => rfl
      | cons m rest inner =>
        obtain ⟨here, later⟩ := List.forall_mem_cons.mp ih
        rw [toTreeMembers, memberTreesWith, here, inner later]
        rfl
    rw [toTree, treeWith, trees]

theorem keep_toTree {v : Json} {room : Nat} (fits : v.depth ≤ room) :
    (toTree v).keep room = .ok v.normal := by
  rw [toTree_eq, keep_treeWith verbatim_read fits]

end Json

end VehicleLink
