import Mathlib.Data.List.Basic
import Mathlib.Data.List.TakeWhile
import VehicleLink.Text.Utf8

namespace VehicleLink.Text

/-- The bytes of a text. -/
def utf8 (s : String) : List UInt8 := s.toList.flatMap String.utf8EncodeChar

theorem utf8_eq (s : String) : utf8 s = s.toUTF8.data.toList := by
  rw [String.toUTF8_eq_toByteArray, ← String.utf8Encode_toList]
  simp [List.utf8Encode, utf8]

/-- Bytes are those of a text. -/
def IsText (bytes : List UInt8) : Prop := ∃ s, utf8 s = bytes

/-- Bytes that make up one character, a byte and one to three that continue it. -/
structure Leads (b : UInt8) (tail : List UInt8) : Prop where
  bounded : ∃ low high, leadByte b = some (low, high, tail.length) ∧ ∃ x ∈ tail.head?, low ≤ x ∧ x ≤ high
  continued : ∀ x ∈ tail, isContinuation x = true

/-- The code point of that character. -/
def codePoint (b : UInt8) (tail : List UInt8) : Nat := joinBits (leadBits b tail.length) tail

section Leads

variable {b low high x y z : UInt8} {bounds : UInt8 × UInt8 × Nat} {tail : List UInt8}

theorem leadByte_two (least : 0xC2 ≤ b) (most : b ≤ 0xDF) : leadByte b = some (0x80, 0xBF, 1) := by
  simp [leadByte, least, most]

theorem leadByte_three (least : 0xE0 ≤ b) (most : b ≤ 0xEF) :
    leadByte b = some (if b = 0xE0 then 0xA0 else 0x80, if b = 0xED then 0x9F else 0xBF, 2) := by
  unfold leadByte
  grind

theorem leadByte_four (least : 0xF0 ≤ b) (most : b ≤ 0xF4) :
    leadByte b = some (if b = 0xF0 then 0x90 else 0x80, if b = 0xF4 then 0x8F else 0xBF, 3) := by
  unfold leadByte
  grind

theorem leadByte_range (lead : leadByte b = some bounds) :
    0xC2 ≤ b ∧ b ≤ 0xDF ∨ 0xE0 ≤ b ∧ b ≤ 0xEF ∨ 0xF0 ≤ b ∧ b ≤ 0xF4 := by
  unfold leadByte at lead
  grind

theorem eq_of_leadByte (lead : leadByte b = some bounds) :
    (0xC2 ≤ b ∧ b ≤ 0xDF) ∧ bounds = (0x80, 0xBF, 1) ∨
    (0xE0 ≤ b ∧ b ≤ 0xEF) ∧ bounds = (if b = 0xE0 then 0xA0 else 0x80, if b = 0xED then 0x9F else 0xBF, 2) ∨
    (0xF0 ≤ b ∧ b ≤ 0xF4) ∧ bounds = (if b = 0xF0 then 0x90 else 0x80, if b = 0xF4 then 0x8F else 0xBF, 3) := by
  rcases leadByte_range lead with range | range | range
  · exact .inl ⟨range, Option.some.inj (lead.symm.trans (leadByte_two range.1 range.2))⟩
  · exact .inr (.inl ⟨range, Option.some.inj (lead.symm.trans (leadByte_three range.1 range.2))⟩)
  · exact .inr (.inr ⟨range, Option.some.inj (lead.symm.trans (leadByte_four range.1 range.2))⟩)

theorem isContinuation_iff : isContinuation b = true ↔ 0x80 ≤ b.toNat ∧ b.toNat ≤ 0xBF := by
  simp [isContinuation, UInt8.le_iff_toNat_le]

theorem ite_le_byte : (if b = z then low else high) ≤ x ↔
    (b.toNat = z.toNat → low.toNat ≤ x.toNat) ∧ (b.toNat ≠ z.toNat → high.toNat ≤ x.toNat) := by
  split <;> simp_all [UInt8.le_iff_toNat_le, UInt8.toNat_inj]

theorem byte_le_ite : x ≤ (if b = z then low else high) ↔
    (b.toNat = z.toNat → x.toNat ≤ low.toNat) ∧ (b.toNat ≠ z.toNat → x.toNat ≤ high.toNat) := by
  split <;> simp_all [UInt8.le_iff_toNat_le, UInt8.toNat_inj]

/-- The first of two bytes is so large that the character has no shorter form. -/
theorem leads_two :
    Leads b [x] ↔ (0xC2 ≤ b.toNat ∧ b.toNat ≤ 0xDF) ∧ 0x80 ≤ x.toNat ∧ x.toNat ≤ 0xBF := by
  constructor
  · rintro ⟨⟨low, high, lead, x, first, bounded⟩, _⟩
    rcases eq_of_leadByte lead with ⟨range, same⟩ | ⟨_, same⟩ | ⟨_, same⟩ <;> cases same
    cases first
    exact ⟨range, bounded⟩
  · rintro ⟨range, second⟩
    exact ⟨⟨_, _, leadByte_two range.1 range.2, x, rfl, second⟩, by simp [isContinuation_iff, second]⟩

/-- A character of three bytes has no shorter form and is no surrogate. That is what the bounds of the second byte
say. -/
theorem leads_three :
    Leads b [x, y] ↔ (0xE0 ≤ b.toNat ∧ b.toNat ≤ 0xEF) ∧ (0x80 ≤ x.toNat ∧ x.toNat ≤ 0xBF) ∧
      (0x80 ≤ y.toNat ∧ y.toNat ≤ 0xBF) ∧
      (b.toNat = 0xE0 → 0xA0 ≤ x.toNat) ∧ (b.toNat = 0xED → x.toNat ≤ 0x9F) := by
  constructor
  · rintro ⟨⟨low, high, lead, x, first, above, below⟩, continued⟩
    rcases eq_of_leadByte lead with ⟨_, same⟩ | ⟨range, same⟩ | ⟨_, same⟩ <;> cases same
    cases first
    simp only [ite_le_byte, UInt8.reduceToNat] at above
    simp only [byte_le_ite, UInt8.reduceToNat] at below
    simp only [List.forall_mem_cons, isContinuation_iff] at continued
    exact ⟨range, continued.1, continued.2.1, above.1, below.1⟩
  · rintro ⟨range, second, third, above, below⟩
    refine ⟨⟨_, _, leadByte_three range.1 range.2, x, rfl, ?_, ?_⟩, by simp [isContinuation_iff, second, third]⟩
    · exact ite_le_byte.mpr ⟨above, fun _ => second.1⟩
    · exact byte_le_ite.mpr ⟨below, fun _ => second.2⟩

/-- A character of four bytes has no shorter form and is none behind the last one. -/
theorem leads_four :
    Leads b [x, y, z] ↔ (0xF0 ≤ b.toNat ∧ b.toNat ≤ 0xF4) ∧ (0x80 ≤ x.toNat ∧ x.toNat ≤ 0xBF) ∧
      (0x80 ≤ y.toNat ∧ y.toNat ≤ 0xBF) ∧ (0x80 ≤ z.toNat ∧ z.toNat ≤ 0xBF) ∧
      (b.toNat = 0xF0 → 0x90 ≤ x.toNat) ∧ (b.toNat = 0xF4 → x.toNat ≤ 0x8F) := by
  constructor
  · rintro ⟨⟨low, high, lead, x, first, above, below⟩, continued⟩
    rcases eq_of_leadByte lead with ⟨_, same⟩ | ⟨_, same⟩ | ⟨range, same⟩ <;> cases same
    cases first
    simp only [ite_le_byte, UInt8.reduceToNat] at above
    simp only [byte_le_ite, UInt8.reduceToNat] at below
    simp only [List.forall_mem_cons, isContinuation_iff] at continued
    exact ⟨range, continued.1, continued.2.1, continued.2.2.1, above.1, below.1⟩
  · rintro ⟨range, second, third, fourth, above, below⟩
    refine ⟨⟨_, _, leadByte_four range.1 range.2, x, rfl, ?_, ?_⟩,
      by simp [isContinuation_iff, second, third, fourth]⟩
    · exact ite_le_byte.mpr ⟨above, fun _ => second.1⟩
    · exact byte_le_ite.mpr ⟨below, fun _ => second.2⟩

theorem Leads.length_eq (leads : Leads b tail) :
    (∃ x, tail = [x]) ∨ (∃ x y, tail = [x, y]) ∨ ∃ x y z, tail = [x, y, z] := by
  obtain ⟨⟨low, high, lead, _⟩, _⟩ := leads
  rcases eq_of_leadByte lead with ⟨_, same⟩ | ⟨_, same⟩ | ⟨_, same⟩ <;> simp only [Prod.mk.injEq] at same
  · exact .inl (List.length_eq_one_iff.mp same.2.2)
  · exact .inr (.inl (List.length_eq_two.mp same.2.2))
  · exact .inr (.inr (List.length_eq_three.mp same.2.2))

end Leads

section Character

variable {b x y z : UInt8} {c : Char} {rest tail : List UInt8} {n v : Nat}

theorem toNat_ofNat (valid : v.isValidChar) : (Char.ofNat v).val.toNat = v := by
  rw [Char.ofNat, dif_pos valid]
  rfl

/-- The two bytes of a character have five and six of its bits. -/
theorem encode_two (valid : v.isValidChar) (least : 0x7F < v) (most : v ≤ 0x7FF) (first : v / 64 + 0xC0 = b.toNat)
    (second : v % 64 + 0x80 = x.toNat) : String.utf8EncodeChar (Char.ofNat v) = [b, x] := by
  have small : v / 64 % 32 = v / 64 := by omega
  simp only [String.utf8EncodeChar, toNat_ofNat valid]
  rw [if_neg (by omega), if_pos most, small, first, second, UInt8.ofNat_toNat, UInt8.ofNat_toNat]

/-- The three bytes of a character have four, six and six of its bits. -/
theorem encode_three (valid : v.isValidChar) (least : 0x7FF < v) (most : v ≤ 0xFFFF)
    (first : v / 4096 + 0xE0 = b.toNat) (second : v / 64 % 64 + 0x80 = x.toNat) (third : v % 64 + 0x80 = y.toNat) :
    String.utf8EncodeChar (Char.ofNat v) = [b, x, y] := by
  have small : v / 4096 % 16 = v / 4096 := by omega
  simp only [String.utf8EncodeChar, toNat_ofNat valid]
  rw [if_neg (by omega), if_neg (by omega), if_pos most, small, first, second, third]
  simp only [UInt8.ofNat_toNat]

/-- The four bytes of a character have three, six, six and six of its bits. -/
theorem encode_four (valid : v.isValidChar) (least : 0xFFFF < v) (first : v / 262144 + 0xF0 = b.toNat)
    (second : v / 4096 % 64 + 0x80 = x.toNat) (third : v / 64 % 64 + 0x80 = y.toNat)
    (fourth : v % 64 + 0x80 = z.toNat) : String.utf8EncodeChar (Char.ofNat v) = [b, x, y, z] := by
  have bound := b.toNat_lt
  have small : v / 262144 % 8 = v / 262144 := by omega
  simp only [String.utf8EncodeChar, toNat_ofNat valid]
  rw [if_neg (by omega), if_neg (by omega), if_neg (by omega), small, first, second, third, fourth]
  simp only [UInt8.ofNat_toNat]

/-- The bounds of the second byte keep out what has a shorter form, the surrogates, and what is too large. -/
theorem Leads.encode (leads : Leads b tail) :
    String.utf8EncodeChar (Char.ofNat (codePoint b tail)) = b :: tail := by
  rcases leads.length_eq with ⟨x, rfl⟩ | ⟨x, y, rfl⟩ | ⟨x, y, z, rfl⟩
  · have range := leads_two.mp leads
    have value : codePoint b [x] = b.toNat % 32 * 64 + x.toNat % 64 := rfl
    have valid : (codePoint b [x]).isValidChar := .inl (by omega)
    exact encode_two valid (by omega) (by omega) (by omega) (by omega)
  · have range := leads_three.mp leads
    have value : codePoint b [x, y] = (b.toNat % 16 * 64 + x.toNat % 64) * 64 + y.toNat % 64 := rfl
    have valid : (codePoint b [x, y]).isValidChar := by
      unfold Nat.isValidChar
      omega
    exact encode_three valid (by omega) (by omega) (by omega) (by omega) (by omega)
  · have range := leads_four.mp leads
    have value : codePoint b [x, y, z] =
        ((b.toNat % 8 * 64 + x.toNat % 64) * 64 + y.toNat % 64) * 64 + z.toNat % 64 := rfl
    have valid : (codePoint b [x, y, z]).isValidChar := .inr (by omega)
    exact encode_four valid (by omega) (by omega) (by omega) (by omega) (by omega)

theorem exists_byte (small : n < 256) : ∃ b : UInt8, b.toNat = n := ⟨.ofNat n, UInt8.toNat_ofNat_of_lt' small⟩

/-- Every code point behind the first 128 has bytes of its own. -/
theorem exists_leads (valid : v.isValidChar) (large : 0x7F < v) :
    ∃ b tail, Leads b tail ∧ codePoint b tail = v := by
  have bound : v < 0xD800 ∨ 0xDFFF < v ∧ v < 0x110000 := valid
  rcases (by omega : v < 0x800 ∨ 0x800 ≤ v ∧ v < 0x10000 ∨ 0x10000 ≤ v) with most | ⟨least, most⟩ | least
  · obtain ⟨b, first⟩ := exists_byte (by omega : v / 64 + 0xC0 < 256)
    obtain ⟨x, second⟩ := exists_byte (by omega : v % 64 + 0x80 < 256)
    have value : codePoint b [x] = b.toNat % 32 * 64 + x.toNat % 64 := rfl
    exact ⟨b, [x], leads_two.mpr (by omega), by omega⟩
  · obtain ⟨b, first⟩ := exists_byte (by omega : v / 4096 + 0xE0 < 256)
    obtain ⟨x, second⟩ := exists_byte (by omega : v / 64 % 64 + 0x80 < 256)
    obtain ⟨y, third⟩ := exists_byte (by omega : v % 64 + 0x80 < 256)
    have value : codePoint b [x, y] = (b.toNat % 16 * 64 + x.toNat % 64) * 64 + y.toNat % 64 := rfl
    exact ⟨b, [x, y], leads_three.mpr (by omega), by omega⟩
  · obtain ⟨b, first⟩ := exists_byte (by omega : v / 262144 + 0xF0 < 256)
    obtain ⟨x, second⟩ := exists_byte (by omega : v / 4096 % 64 + 0x80 < 256)
    obtain ⟨y, third⟩ := exists_byte (by omega : v / 64 % 64 + 0x80 < 256)
    obtain ⟨z, fourth⟩ := exists_byte (by omega : v % 64 + 0x80 < 256)
    have value : codePoint b [x, y, z] =
        ((b.toNat % 8 * 64 + x.toNat % 64) * 64 + y.toNat % 64) * 64 + z.toNat % 64 := rfl
    exact ⟨b, [x, y, z], leads_four.mpr (by omega), by omega⟩

theorem exists_leads_encode (large : 0x7F < c.val.toNat) :
    ∃ b tail, Leads b tail ∧ codePoint b tail = c.toNat ∧ String.utf8EncodeChar c = b :: tail := by
  obtain ⟨b, tail, leads, point⟩ := exists_leads c.valid large
  have encoded := leads.encode
  rw [point] at encoded
  exact ⟨b, tail, leads, point, Char.ofNat_toNat c ▸ encoded⟩

theorem not_small_of_lead {bounds : UInt8 × UInt8 × Nat} (lead : leadByte b = some bounds) : ¬b < 0x80 := by
  have range := leadByte_range lead
  grind

/-- The bytes of a character are read as it, whatever follows them. -/
theorem Leads.scan (leads : Leads b tail) (more : List UInt8) :
    scanUtf8 b (tail ++ more) = .ok (Char.ofNat (codePoint b tail), tail.length + 1) := by
  obtain ⟨⟨low, high, lead, x, first, above, below⟩, continued⟩ := leads
  have inside : ¬(x < low ∨ high < x) := by simp [above, below]
  have whole : ((tail ++ more).take tail.length).takeWhile isContinuation = tail := by
    rw [List.take_left, List.takeWhile_eq_self_iff.mpr continued]
  rw [scanUtf8, if_neg (not_small_of_lead lead), lead]
  cases tail with
  | nil => cases first
  | cons y tail =>
    cases first
    rw [List.cons_append] at whole ⊢
    simp only [whole, inside, codePoint, if_true, Bool.or_eq_true, decide_eq_true_eq, if_false]

/-- Where a character is read that is not a byte of its own, its bytes stand. -/
theorem leads_of_scan (large : ¬b < 0x80) (scan : scanUtf8 b rest = .ok (c, n)) :
    ∃ tail more, rest = tail ++ more ∧ Leads b tail ∧ n = tail.length + 1 ∧ c = Char.ofNat (codePoint b tail) := by
  rw [scanUtf8, if_neg large] at scan
  cases lead : leadByte b with
  | none => simp [lead] at scan
  | some bounds =>
    obtain ⟨low, high, following⟩ := bounds
    rw [lead] at scan
    cases rest with
    | nil => simp at scan
    | cons x rest =>
      dsimp only at scan
      split at scan
      · cases scan
      · rename_i inside
        split at scan
        · rename_i long
          cases scan
          have whole : ((x :: rest).take following).takeWhile isContinuation = (x :: rest).take following :=
            (List.takeWhile_prefix _).eq_of_length_le (by rw [long]; exact List.length_take_le ..)
          rw [whole] at long ⊢
          have first : ((x :: rest).take following).head? = some x := by
            rcases eq_of_leadByte lead with ⟨_, same⟩ | ⟨_, same⟩ | ⟨_, same⟩ <;> cases same <;> rfl
          have bounded : low ≤ x ∧ x ≤ high := by simpa using inside
          have continued : ∀ y ∈ (x :: rest).take following, isContinuation y = true := by
            intro y member
            rw [← whole] at member
            exact List.mem_takeWhile_imp member
          refine ⟨(x :: rest).take following, (x :: rest).drop following, (List.take_append_drop ..).symm,
            ⟨⟨low, high, long.symm ▸ lead, x, first, bounded⟩, continued⟩, ?_, ?_⟩
          · rw [long]
          · rw [codePoint, long]
        · cases scan

theorem encode_small (small : c.val.toNat ≤ 0x7F) : String.utf8EncodeChar c = [UInt8.ofNat c.val.toNat] := by
  simp only [String.utf8EncodeChar, if_pos small]

/-- A character is found where its bytes stand, whatever follows them, and nowhere else. -/
theorem scanUtf8_eq_ok_iff : scanUtf8 b rest = .ok (c, n) ↔
    ∃ tail more, rest = tail ++ more ∧ n = tail.length + 1 ∧ String.utf8EncodeChar c = b :: tail := by
  constructor
  · intro scan
    by_cases small : b < 0x80
    · rw [scanUtf8, if_pos small] at scan
      cases scan
      have most : b.toNat ≤ 0x7F := by simpa [UInt8.lt_iff_toNat_lt, Nat.lt_succ_iff] using small
      have value : (Char.ofNat b.toNat).val.toNat = b.toNat := toNat_ofNat (.inl (by omega))
      refine ⟨[], rest, rfl, rfl, ?_⟩
      rw [encode_small (by omega), value, UInt8.ofNat_toNat]
    · obtain ⟨tail, more, split, leads, long, rfl⟩ := leads_of_scan small scan
      exact ⟨tail, more, split, long, leads.encode⟩
  · rintro ⟨tail, more, rfl, rfl, encoded⟩
    by_cases small : c.val.toNat ≤ 0x7F
    · rw [encode_small small] at encoded
      obtain ⟨rfl, rfl⟩ := List.cons.inj encoded
      have value : (UInt8.ofNat c.val.toNat).toNat = c.val.toNat := Nat.mod_eq_of_lt (by omega)
      have below : UInt8.ofNat c.val.toNat < 0x80 := by
        rw [UInt8.lt_iff_toNat_lt, value]
        exact Nat.lt_succ_of_le small
      rw [scanUtf8, if_pos below, value]
      exact congrArg (fun c => Except.ok (c, 1)) (Char.ofNat_toNat c)
    · obtain ⟨b', tail', leads, point, same⟩ := exists_leads_encode (not_le.mp small)
      cases encoded.symm.trans same
      rw [leads.scan, point, Char.ofNat_toNat]

end Character

section Whole

variable {bytes rest : List UInt8} {cs : List Char} {c : Char} {s : String}

theorem decodeFrom_skip (broken : Option Char) (front rest : List UInt8) :
    decodeFrom broken front.length (front ++ rest) = decodeFrom broken 0 rest := by
  induction front with
  | nil => rfl
  | cons b front ih => exact ih

theorem encode_ne_nil (c : Char) : String.utf8EncodeChar c ≠ [] := by
  have some : (String.utf8EncodeChar c).length ≠ 0 := by
    rw [String.length_utf8EncodeChar]
    exact Nat.pos_iff_ne_zero.mp c.utf8Size_pos
  exact fun none => some (congrArg List.length none)

/-- The bytes of a character are read as it before anything else is. -/
theorem decodeFrom_encode (c : Char) (rest : List UInt8) :
    decodeFrom none 0 (String.utf8EncodeChar c ++ rest) = (decodeFrom none 0 rest).map (c :: ·) := by
  obtain ⟨b, tail, encoded⟩ := List.exists_cons_of_ne_nil (encode_ne_nil c)
  have scan := scanUtf8_eq_ok_iff.mpr ⟨tail, rest, rfl, rfl, encoded⟩
  rw [encoded, List.cons_append, decodeFrom, scan]
  exact congrArg (Option.map (c :: ·)) (decodeFrom_skip none tail rest)

theorem decodeFrom_cons {b : UInt8} {bs : List UInt8} (read : decodeFrom none 0 (b :: bs) = some cs) :
    ∃ c rest cs', b :: bs = String.utf8EncodeChar c ++ rest ∧ decodeFrom none 0 rest = some cs' ∧ cs = c :: cs' := by
  cases scan : scanUtf8 b bs with
  | error taken => simp [decodeFrom, scan] at read
  | ok first =>
    obtain ⟨c, n⟩ := first
    obtain ⟨tail, rest, split, _, encoded⟩ := scanUtf8_eq_ok_iff.mp scan
    have whole : b :: bs = String.utf8EncodeChar c ++ rest := by rw [encoded, split, List.cons_append]
    rw [whole, decodeFrom_encode] at read
    obtain ⟨cs', later, same⟩ := Option.map_eq_some_iff.mp read
    exact ⟨c, rest, cs', whole, later, same.symm⟩

/-- Characters are read of bytes exactly if these are their bytes. -/
theorem decodeFrom_eq_some_iff : decodeFrom none 0 bytes = some cs ↔ cs.flatMap String.utf8EncodeChar = bytes := by
  constructor
  · intro read
    induction cs generalizing bytes with
    | nil =>
      cases bytes with
      | nil => rfl
      | cons b bs =>
        obtain ⟨_, _, _, _, _, same⟩ := decodeFrom_cons read
        cases same
    | cons c cs ih =>
      cases bytes with
      | nil => cases read
      | cons b bs =>
        obtain ⟨c', rest, cs', whole, later, same⟩ := decodeFrom_cons read
        cases same
        rw [whole, List.flatMap_cons, ih later]
  · rintro rfl
    induction cs with
    | nil => rfl
    | cons c cs ih => rw [List.flatMap_cons, decodeFrom_encode, ih, Option.map_some]

/-- Bytes are read as the text whose bytes they are. -/
theorem decodeUtf8?_eq_some_iff : decodeUtf8? bytes = some s ↔ utf8 s = bytes := by
  rw [decodeUtf8?, Option.map_eq_some_iff]
  constructor
  · rintro ⟨cs, read, rfl⟩
    rw [utf8, String.toList_ofList]
    exact decodeFrom_eq_some_iff.mp read
  · intro written
    exact ⟨s.toList, decodeFrom_eq_some_iff.mpr written, String.ofList_toList⟩

/-- Bytes are not read exactly if they are those of no text. -/
theorem decodeUtf8?_eq_none_iff : decodeUtf8? bytes = none ↔ ¬IsText bytes := by
  rw [Option.eq_none_iff_forall_not_mem, IsText, not_exists]
  exact forall_congr' fun s => not_congr decodeUtf8?_eq_some_iff

/-- A byte that is a character of its own is no part of any other one. -/
theorem encode_of_mem {b : UInt8} (member : b ∈ String.utf8EncodeChar c) (small : b < 0x80) :
    String.utf8EncodeChar c = [b] := by
  by_cases single : c.val.toNat ≤ 0x7F
  · rw [encode_small single, List.mem_singleton] at member
    rw [encode_small single, member]
  · obtain ⟨lead, tail, leads, _, encoded⟩ := exists_leads_encode (not_le.mp single)
    rw [encoded] at member
    rcases List.mem_cons.mp member with rfl | later
    · obtain ⟨_, _, known, _⟩ := leads.bounded
      exact absurd small (not_small_of_lead known)
    · have large := isContinuation_iff.mp (leads.continued b later)
      have below : b.toNat < 0x80 := small
      omega

theorem encode_cut {b : UInt8} {front back : List UInt8} (small : b < 0x80)
    (written : cs.flatMap String.utf8EncodeChar = front ++ b :: back) : ∃ cs₁ cs₂ : List Char,
      cs₁.flatMap String.utf8EncodeChar = front ∧ cs₂.flatMap String.utf8EncodeChar = back := by
  induction cs generalizing front with
  | nil => simp at written
  | cons c cs ih =>
    rw [List.flatMap_cons] at written
    have behind (front' : List UInt8) (ahead : front = String.utf8EncodeChar c ++ front')
        (rest : cs.flatMap String.utf8EncodeChar = front' ++ b :: back) : ∃ cs₁ cs₂ : List Char,
          cs₁.flatMap String.utf8EncodeChar = front ∧ cs₂.flatMap String.utf8EncodeChar = back := by
      obtain ⟨cs₁, cs₂, text, text'⟩ := ih rest
      exact ⟨c :: cs₁, cs₂, by rw [List.flatMap_cons, text, ahead], text'⟩
    rcases List.append_eq_append_iff.mp written with ⟨front', ahead, rest⟩ | ⟨more, split, rest⟩
    · exact behind front' ahead rest
    · cases more with
      | nil => exact behind [] (by simp [split]) (by simpa using rest.symm)
      | cons x more =>
        -- The byte is in the first character, so it is all of it.
        obtain ⟨rfl, later⟩ := List.cons.inj rest
        have alone := encode_of_mem (by rw [split]; simp) small
        rw [alone, List.singleton_eq_append_iff] at split
        rcases split with ⟨rfl, same⟩ | ⟨_, none⟩
        · cases same
          exact ⟨[], cs, rfl, later.symm⟩
        · cases none

/-- A text can be cut at a byte that is a character of its own. -/
theorem IsText.cut {b : UInt8} {front back : List UInt8} (text : IsText (front ++ b :: back)) (small : b < 0x80) :
    IsText front ∧ IsText back := by
  obtain ⟨s, written⟩ := text
  obtain ⟨cs₁, cs₂, text, text'⟩ := encode_cut small written
  exact ⟨⟨String.ofList cs₁, by rw [utf8, String.toList_ofList, text]⟩,
    ⟨String.ofList cs₂, by rw [utf8, String.toList_ofList, text']⟩⟩

end Whole

end VehicleLink.Text
