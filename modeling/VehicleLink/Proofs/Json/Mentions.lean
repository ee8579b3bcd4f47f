import VehicleLink.Json.Writer
import VehicleLink.Proofs.Json.Values
import VehicleLink.Proofs.Text.Replacement

namespace VehicleLink

/-- Whether a character is a capital letter or a digit. -/
def isMark (c : Char) : Bool := c.isUpper || c.isDigit

/-- A word of capital letters and digits. -/
structure Plain (word : List Char) : Prop where
  some : word ≠ []
  marks : ∀ c ∈ word, isMark c = true

namespace Plain

variable {word cs : List Char}

theorem outside (plain : Plain word) {c : Char} (other : isMark c = false) : c ∉ word := by
  intro member
  rw [plain.marks c member] at other
  cases other

/-- A text that has the word has as many capital letters and digits. -/
theorem length_le (plain : Plain word) (occurs : word <:+: cs) : word.length ≤ cs.countP isMark := by
  rw [← List.countP_eq_length.mpr plain.marks]
  exact occurs.sublist.countP_le

/-- A text with fewer capital letters and digits does not have the word. -/
theorem not_infix (plain : Plain word) (few : cs.countP isMark < word.length) : ¬word <:+: cs :=
  fun occurs => absurd (plain.length_le occurs) (Nat.not_le.mpr few)

theorem not_infix_of_none (plain : Plain word) (none : cs.countP isMark = 0) : ¬word <:+: cs :=
  plain.not_infix (none ▸ List.length_pos_iff.mpr plain.some)

end Plain

namespace Json

/-- A value has the word itself: in what is written for a key, a text or a number. -/
def Bears (word : List Char) : Json → Prop
  | .number n => word <:+: writeNumber n
  | .text s => word <:+: s.toList.flatMap escapeChar
  | .object members => ∃ m ∈ members, word <:+: m.1.toList.flatMap escapeChar
  | _ => False

/-- A value mentions a word: it has the word itself, or one of the values it consists of has. -/
def Mentions (word : List Char) (v : Json) : Prop := ∃ u ∈ v.parts, u.Bears word

variable {word : List Char}

@[simp] theorem not_mentions_null : ¬Mentions word .null := by simp [Mentions, parts, Bears]

@[simp] theorem not_mentions_flag (b : Bool) : ¬Mentions word (.flag b) := by
  simp [Mentions, parts, Bears]

@[simp] theorem mentions_number {n : Number} : Mentions word (.number n) ↔ word <:+: writeNumber n := by
  simp [Mentions, parts, Bears]

@[simp] theorem mentions_text {s : String} :
    Mentions word (.text s) ↔ word <:+: s.toList.flatMap escapeChar := by
  simp [Mentions, parts, Bears]

/-- A list mentions what its items mention, and nothing else. -/
@[simp] theorem mentions_list {items : List Json} :
    Mentions word (.list items) ↔ ∃ v ∈ items, v.Mentions word := by
  simp only [Mentions, mem_parts_list]
  constructor
  · rintro ⟨u, rfl | ⟨v, member, part⟩, bears⟩
    · cases bears
    · exact ⟨v, member, u, part, bears⟩
  · rintro ⟨v, member, u, part, bears⟩
    exact ⟨u, Or.inr ⟨v, member, part⟩, bears⟩

/-- An object mentions what its keys and its members mention. -/
@[simp] theorem mentions_object {members : List (String × Json)} :
    Mentions word (.object members) ↔
      ∃ m ∈ members, word <:+: m.1.toList.flatMap escapeChar ∨ m.2.Mentions word := by
  simp only [Mentions, mem_parts_object]
  constructor
  · rintro ⟨u, rfl | ⟨m, member, part⟩, bears⟩
    · obtain ⟨m, member, key⟩ := bears
      exact ⟨m, member, Or.inl key⟩
    · exact ⟨m, member, Or.inr ⟨u, part, bears⟩⟩
  · rintro ⟨m, member, key | ⟨u, part, bears⟩⟩
    · exact ⟨_, Or.inl rfl, m, member, key⟩
    · exact ⟨u, Or.inr ⟨m, member, part⟩, bears⟩

theorem mentions_single {key : String} {v : Json} (absent : ¬word <:+: key.toList.flatMap escapeChar) :
    Mentions word (.object [(key, v)]) ↔ v.Mentions word := by
  simp [absent]

/-- The quotes around a text make no difference. -/
theorem infix_writeText (plain : Plain word) (s : String) :
    word <:+: writeText s ↔ word <:+: s.toList.flatMap escapeChar := by
  have quote : '"' ∉ word := plain.outside rfl
  rw [writeText, List.cons_append, ← List.nil_append ('"' :: _), Text.infix_append_cons quote,
    Text.infix_append_cons quote, List.infix_nil]
  simp [plain.some]

/-- What stands between brackets or braces. -/
theorem infix_enclosed (plain : Plain word) {first last : Char} (first' : isMark first = false)
    (last' : isMark last = false) (cs : List Char) : word <:+: first :: cs ++ [last] ↔ word <:+: cs := by
  rw [List.cons_append, ← List.nil_append (first :: _), Text.infix_append_cons (plain.outside first'),
    Text.infix_append_cons (plain.outside last'), List.infix_nil]
  simp [plain.some]

theorem infix_writeItems (plain : Plain word) {items : List Json}
    (each : ∀ v ∈ items, word <:+: v.write ↔ v.Mentions word) :
    word <:+: writeItems items ↔ ∃ v ∈ items, v.Mentions word := by
  have comma : ',' ∉ word := plain.outside rfl
  induction items with
  | nil => simp [writeItems, plain.some]
  | cons v rest ih =>
    obtain ⟨here, later⟩ := List.forall_mem_cons.mp each
    cases rest with
    | nil => simp [writeItems, here]
    | cons w rest =>
      rw [writeItems, Text.infix_append_cons comma, here, List.exists_mem_cons_iff]
      exact or_congr_right (ih later)

theorem infix_writeMembers (plain : Plain word) {members : List (String × Json)}
    (each : ∀ m ∈ members, word <:+: m.2.write ↔ m.2.Mentions word) :
    word <:+: writeMembers members ↔
      ∃ m ∈ members, word <:+: m.1.toList.flatMap escapeChar ∨ m.2.Mentions word := by
  have comma : ',' ∉ word := plain.outside rfl
  have colon : ':' ∉ word := plain.outside rfl
  induction members with
  | nil => simp [writeMembers, plain.some]
  | cons m rest ih =>
    obtain ⟨key, v⟩ := m
    obtain ⟨here, later⟩ := List.forall_mem_cons.mp each
    have first : word <:+: writeText key ++ ':' :: v.write ↔
        word <:+: key.toList.flatMap escapeChar ∨ v.Mentions word := by
      rw [Text.infix_append_cons colon, infix_writeText plain, here]
    cases rest with
    | nil => simp [writeMembers, first]
    | cons n rest =>
      have split : writeMembers ((key, v) :: n :: rest) =
          (writeText key ++ ':' :: v.write) ++ ',' :: writeMembers (n :: rest) := by
        simp [writeMembers]
      rw [split, Text.infix_append_cons comma, first, List.exists_mem_cons_iff]
      exact or_congr_right (ih later)

/-- A plain word stands in the text of a value exactly if the value mentions it. -/
theorem infix_write_iff (plain : Plain word) (v : Json) : word <:+: v.write ↔ v.Mentions word := by
  have small (cs : List Char) (none : cs.countP isMark = 0) : word <:+: cs ↔ False :=
    iff_false_intro (plain.not_infix_of_none none)
  induction v with
  | null => rw [write, small _ (by decide), iff_false_intro not_mentions_null]
  | flag b =>
    rw [iff_false_intro (not_mentions_flag b)]
    cases b with
    | false => exact small _ (by decide)
    | true => exact small _ (by decide)
  | number n => rw [write, mentions_number]
  | text s => rw [write, infix_writeText plain, mentions_text]
  | list items ih => rw [write, infix_enclosed plain rfl rfl, infix_writeItems plain ih, mentions_list]
  | object members ih => rw [write, infix_enclosed plain rfl rfl, infix_writeMembers plain ih, mentions_object]

end Json

end VehicleLink
