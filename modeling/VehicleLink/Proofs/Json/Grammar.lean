import VehicleLink.Json.Tree
import VehicleLink.Proofs.Json.Numerals

namespace VehicleLink.Json

/-- Space between tokens, perhaps none, and what follows it. -/
def Space (cs rest : List Char) : Prop := ∃ blank, (∀ c ∈ blank, isSpace c = true) ∧ cs = blank ++ rest

/-- A piece of a text as it may be written, and what follows it. -/
inductive Piece.Spells : Piece → List Char → List Char → Prop
  | char {c : Char} {rest : List Char} (quote : c ≠ '"') (backslash : c ≠ '\\') (printed : ¬c.toNat < 0x20) :
      Spells (.char c) (c :: rest) rest
  | escape {letter c : Char} {rest : List Char} (means : escape? letter = some c) :
      Spells (.char c) ('\\' :: letter :: rest) rest
  | unit {a b c d : Char} {n : Nat} {rest : List Char} (digits : hexUnit? a b c d = some n) :
      Spells (.unit n) ('\\' :: 'u' :: a :: b :: c :: d :: rest) rest

/-- The pieces of a text with its closing quote, and what follows them. -/
inductive PiecesSpell : List Piece → List Char → List Char → Prop
  | close {rest : List Char} : PiecesSpell [] ('"' :: rest) rest
  | piece {p : Piece} {pieces : List Piece} {cs after rest : List Char} (first : p.Spells cs after)
      (later : PiecesSpell pieces after rest) : PiecesSpell (p :: pieces) cs rest

/-- A text with its quotes, and what follows it. -/
def Written.Spells (t : Written) (cs rest : List Char) : Prop :=
  t.flaw = none ∧ ∃ inner, cs = '"' :: inner ∧ PiecesSpell t.pieces inner rest

/-- A token without flaw, and what follows it. -/
def Token.Spells : Token → List Char → List Char → Prop
  | .listOpen, cs, rest => cs = '[' :: rest
  | .listClose, cs, rest => cs = ']' :: rest
  | .objectOpen, cs, rest => cs = '\x7b' :: rest
  | .objectClose, cs, rest => cs = '\x7d' :: rest
  | .colon, cs, rest => cs = ':' :: rest
  | .comma, cs, rest => cs = ',' :: rest
  | .null, cs, rest => cs = 'n' :: 'u' :: 'l' :: 'l' :: rest
  | .flag true, cs, rest => cs = 't' :: 'r' :: 'u' :: 'e' :: rest
  | .flag false, cs, rest => cs = 'f' :: 'a' :: 'l' :: 's' :: 'e' :: rest
  | .number n, cs, rest => n.Spells cs rest
  | .text pieces flaw, cs, rest => Written.Spells ⟨pieces, flaw⟩ cs rest
  | .brokenNumber _, _, _ | .stray _, _, _ => False

/-- Something after space, perhaps none, and what follows it. -/
def Spaced (spells : List Char → List Char → Prop) (cs rest : List Char) : Prop :=
  ∃ here, Space cs here ∧ spells here rest

theorem Spaced.of_spells {spells : List Char → List Char → Prop} {cs rest : List Char} (spelled : spells cs rest) :
    Spaced spells cs rest :=
  ⟨cs, ⟨[], by simp, rfl⟩, spelled⟩

mutual
/-- A value without flaw, and what follows it. -/
def Tree.Spells : Tree → List Char → List Char → Prop
  | .null, cs, rest => Token.null.Spells cs rest
  | .flag b, cs, rest => (Token.flag b).Spells cs rest
  | .number value, cs, rest => ∃ n : Numeral, n.Spells cs rest ∧ n.value? = value
  | .text t, cs, rest => t.Spells cs rest
  | .list [] none, cs, rest => ∃ inner, Token.listOpen.Spells cs inner ∧ Spaced Token.listClose.Spells inner rest
  | .list (t :: ts) none, cs, rest => ∃ inner after,
      Token.listOpen.Spells cs inner ∧ Spaced t.Spells inner after ∧ ItemsSpell ts after rest
  | .object [] none, cs, rest =>
      ∃ inner, Token.objectOpen.Spells cs inner ∧ Spaced Token.objectClose.Spells inner rest
  | .object ((key, t) :: ms) none, cs, rest => ∃ inner colon due after, Token.objectOpen.Spells cs inner ∧
      Spaced key.Spells inner colon ∧ Spaced Token.colon.Spells colon due ∧ Spaced t.Spells due after ∧
        MembersSpell ms after rest
  | .list _ (some _), _, _ | .object _ (some _), _, _ | .brokenNumber _, _, _ | .stray _, _, _ => False

/-- The items of a list after another one, with its closing bracket, and what follows it. -/
def ItemsSpell : List Tree → List Char → List Char → Prop
  | [], cs, rest => Spaced Token.listClose.Spells cs rest
  | t :: ts, cs, rest => ∃ due after,
      Spaced Token.comma.Spells cs due ∧ Spaced t.Spells due after ∧ ItemsSpell ts after rest

/-- The members of an object after another one, with its closing brace, and what follows it. -/
def MembersSpell : List (Written × Tree) → List Char → List Char → Prop
  | [], cs, rest => Spaced Token.objectClose.Spells cs rest
  | (key, t) :: ms, cs, rest => ∃ next colon due after, Spaced Token.comma.Spells cs next ∧
      Spaced key.Spells next colon ∧ Spaced Token.colon.Spells colon due ∧ Spaced t.Spells due after ∧
        MembersSpell ms after rest
end

/-- A text that begins with a value, perhaps after space. -/
def Tree.Begins (t : Tree) (s : String) : Prop := ∃ rest, Spaced t.Spells s.toList rest

/-- A token in which nothing is wrong. -/
def Token.Sound : Token → Prop
  | .text _ flaw => flaw = none
  | .brokenNumber _ | .stray _ => False
  | _ => True

/-- A name is read letter by letter, and no further. -/
theorem scanName_iff {name cs rest : List Char} : scanName name cs = .ok rest ↔ cs = name ++ rest := by
  induction name generalizing cs with
  | nil => simp [scanName, eq_comm]
  | cons a name ih =>
    cases cs with
    | nil => simp [scanName]
    | cons c cs =>
      rw [scanName, List.cons_append]
      split
      · rename_i same
        rw [ih, same, List.cons.injEq]
        simp
      · rename_i other
        simp [Ne.symm other]

/-- A text is read up to its closing quote. -/
theorem scanText_iff {pieces : List Piece} {cs rest : List Char} :
    scanText cs = (pieces, none, rest) ↔ PiecesSpell pieces cs rest := by
  constructor
  · intro read
    fun_induction scanText cs generalizing pieces with
    | case2 =>
      cases read
      exact .close
    | case4 a b c d tail n digits inside flaw after scanned ih =>
      cases read
      exact .piece (.unit digits) (ih scanned)
    | case7 letter tail _ other c means inside flaw after scanned ih =>
      cases read
      exact .piece (.escape means) (ih scanned)
    | case10 c tail quote alone _ escape printed inside flaw after scanned ih =>
      cases read
      refine .piece (.char quote ?_ printed) (ih scanned)
      cases tail with
      | nil => exact fun same => alone same rfl
      | cons d tail => exact fun same => escape d tail same rfl
    | _ => cases read
  · intro spelled
    induction spelled with
    | close => rfl
    | piece first later ih =>
      cases first with
      | @char c _ quote backslash printed =>
        rw [scanText.eq_6 c _ quote (fun same => absurd same backslash)
          (fun _ _ _ _ _ same => absurd same backslash) (fun _ _ same => absurd same backslash), if_neg printed, ih]
      | @escape letter c _ means =>
        have other : letter ≠ 'u' := by
          rintro rfl
          cases means
        rw [scanText.eq_5 letter _ (fun _ _ _ _ _ same => absurd same other), if_neg other, means, ih]
      | unit digits => simp [scanText, digits, ih]

theorem nameToken_sound {token word : Token} {name cs rest : List Char}
    (read : nameToken word (scanName name cs) = (token, rest)) (sound : token.Sound) :
    token = word ∧ cs = name ++ rest := by
  cases scanned : scanName name cs with
  | error flaw =>
    rw [scanned] at read
    cases read
    cases sound
  | ok after =>
    rw [scanned] at read
    cases read
    exact ⟨rfl, scanName_iff.mp scanned⟩

/-- A number token without flaw is a numeral as the grammar asks for. -/
theorem numberToken_sound {token : Token} {negative : Bool} {cs rest : List Char}
    (read : numberToken (scanNumber negative cs) = (token, rest)) (sound : token.Sound) :
    ∃ n : Numeral, token = .number n ∧ n.negative = negative ∧ n.SizeSpells cs rest := by
  cases scanned : scanNumber negative cs with
  | error flaw =>
    rw [scanned] at read
    cases read
    cases sound
  | ok found =>
    obtain ⟨n, after⟩ := found
    rw [scanned] at read
    cases read
    exact ⟨n, rfl, scanNumber_iff.mp scanned⟩

theorem scanToken_digit {c : Char} (digit : c.isDigit = true) (cs : List Char) :
    scanToken c cs = numberToken (scanNumber false (c :: cs)) := by
  unfold scanToken
  split
  case h_12 => rw [if_pos digit]
  all_goals cases digit

theorem Numeral.SizeSpells.first {n : Numeral} {cs rest : List Char} (spelled : n.SizeSpells cs rest) :
    ∃ c more, cs = c :: more ∧ c.isDigit = true := by
  obtain ⟨proper, _, power, _, rfl⟩ := spelled
  obtain ⟨c, more, whole, _⟩ := proper.whole_first
  exact ⟨c, _, by rw [whole, List.cons_append], proper.whole_digits c (by simp [whole])⟩

/-- A token without flaw is read as the grammar says. -/
theorem scanToken_iff {token : Token} {c : Char} {cs rest : List Char} (sound : token.Sound) :
    scanToken c cs = (token, rest) ↔ token.Spells (c :: cs) rest := by
  constructor
  · intro read
    unfold scanToken at read
    split at read
    case h_7 | h_8 | h_9 =>
      obtain ⟨rfl, rfl⟩ := nameToken_sound read sound
      rfl
    case h_10 =>
      generalize scanned : scanText cs = found at read
      obtain ⟨pieces, flaw, after⟩ := found
      cases read
      obtain rfl : flaw = none := sound
      exact ⟨rfl, cs, rfl, scanText_iff.mp scanned⟩
    case h_11 =>
      obtain ⟨n, rfl, sign, spelled⟩ := numberToken_sound read sound
      exact ⟨cs, spelled, by rw [sign]; rfl⟩
    case h_12 =>
      split at read
      · obtain ⟨n, rfl, sign, spelled⟩ := numberToken_sound read sound
        exact ⟨c :: cs, spelled, by rw [sign]; rfl⟩
      · cases read
        cases sound
    all_goals
      cases read
      rfl
  · intro spelled
    cases token with
    | number n =>
      obtain ⟨size, spelled, text⟩ := spelled
      have scanned := scanNumber_iff.mpr ⟨rfl, spelled⟩
      cases sign : n.negative with
      | true =>
        rw [sign] at text scanned
        cases text
        show numberToken (scanNumber true size) = _
        rw [scanned, numberToken]
      | false =>
        rw [sign] at text scanned
        obtain ⟨d, more, rfl, digit⟩ := spelled.first
        cases text
        rw [scanToken_digit digit, scanned, numberToken]
    | text pieces flaw =>
      obtain ⟨rfl, inner, text, spelled⟩ := spelled
      cases text
      rw [scanToken, scanText_iff.mpr spelled]
    | flag b =>
      cases b <;> cases spelled <;> rfl
    | null =>
      cases spelled
      rfl
    | brokenNumber flaw => cases sound
    | stray flaw => cases sound
    | _ =>
      cases spelled
      rfl

theorem Token.Spells.sound {token : Token} {cs rest : List Char} (spelled : token.Spells cs rest) :
    token.Sound := by
  cases token with
  | text pieces flaw => exact spelled.1
  | brokenNumber flaw => exact spelled
  | stray flaw => exact spelled
  | _ => trivial

theorem Token.Spells.first {token : Token} {cs rest : List Char} (spelled : token.Spells cs rest) :
    ∃ c more, cs = c :: more ∧ isSpace c = false := by
  cases token with
  | number n =>
    obtain ⟨size, spelled, rfl⟩ := spelled
    cases sign : n.negative with
    | true => exact ⟨'-', size, rfl, rfl⟩
    | false =>
      obtain ⟨c, more, rfl, digit⟩ := spelled.first
      refine ⟨c, more, rfl, ?_⟩
      simp only [isSpace, decide_eq_false_iff_not]
      rintro (rfl | rfl | rfl | rfl) <;> cases digit
  | text pieces flaw =>
    obtain ⟨_, inner, rfl, _⟩ := spelled
    exact ⟨'"', inner, rfl, rfl⟩
  | flag b => cases b <;> exact ⟨_, _, spelled, rfl⟩
  | brokenNumber flaw => cases spelled
  | stray flaw => cases spelled
  | _ => exact ⟨_, _, spelled, rfl⟩

theorem tokens_space {cs rest : List Char} (space : Space cs rest) : tokens cs = tokens rest := by
  obtain ⟨blank, all, rfl⟩ := space
  induction blank with
  | nil => rfl
  | cons c blank ih =>
    obtain ⟨here, later⟩ := List.forall_mem_cons.mp all
    rw [List.cons_append, tokens, if_pos here, ih later]

/-- What is written as a token, perhaps after space, is read as that token first. -/
theorem tokens_spelled {token : Token} {cs rest : List Char} (spelled : Spaced token.Spells cs rest) :
    tokens cs = token :: tokens rest := by
  obtain ⟨here, space, spelled⟩ := spelled
  obtain ⟨c, more, rfl, visible⟩ := spelled.first
  rw [tokens_space space, tokens, if_neg (by simp [visible]), (scanToken_iff spelled.sound).mpr spelled]

/-- A token without flaw is in the text from which it has been read. -/
theorem spelled_of_tokens {token : Token} {cs : List Char} {more : List Token} (read : tokens cs = token :: more)
    (sound : token.Sound) :
    ∃ rest, Spaced token.Spells cs rest ∧ more = tokens rest ∧ rest.length < cs.length := by
  induction cs using tokens.induct with
  | case1 =>
    rw [tokens] at read
    cases read
  | case2 c cs blank ih =>
    rw [tokens, if_pos blank] at read
    obtain ⟨rest, ⟨here, ⟨space, all, rfl⟩, spelled⟩, later, shorter⟩ := ih read
    have spaced : Space (c :: (space ++ here)) here := ⟨c :: space, List.forall_mem_cons.mpr ⟨blank, all⟩, rfl⟩
    exact ⟨rest, ⟨here, spaced, spelled⟩, later, shorter.trans (Nat.lt_succ_self _)⟩
  | case3 c cs visible ih =>
    rw [tokens, if_neg visible] at read
    cases read
    have shorter := scanToken_length c cs
    generalize scanned : scanToken c cs = found at sound shorter
    obtain ⟨token, rest⟩ := found
    exact ⟨rest, ⟨c :: cs, ⟨[], by simp, rfl⟩, (scanToken_iff sound).mp scanned⟩, rfl, shorter⟩

end VehicleLink.Json
