import VehicleLink.Json.Numeral

namespace VehicleLink.Json

/-- What is wrong at a place of a document. -/
inductive Flaw where
  /-- The text ended where more was due. -/
  | ended
  /-- Something else stood where the grammar asks for something. -/
  | malformed
deriving DecidableEq, Repr

/-- A piece of a written text: a character, or one unit of 16 bits in hexadecimal. -/
inductive Piece where
  | char (c : Char)
  | unit (n : Nat)

/-- A token of a JSON text. A broken one is a token too, since it matters only when the reading comes to it. -/
inductive Token where
  | listOpen
  | listClose
  | objectOpen
  | objectClose
  | colon
  | comma
  | null
  | flag (b : Bool)
  | number (n : Numeral)
  /-- The pieces of a text, and what is wrong where they end, if the closing quote is missing. -/
  | text (pieces : List Piece) (flaw : Option Flaw)
  /-- A number that breaks off. -/
  | brokenNumber (flaw : Flaw)
  /-- A broken name, or a character that begins no token. -/
  | stray (flaw : Flaw)

/-- Whether a character may stand between tokens. -/
def isSpace (c : Char) : Bool := c = ' ' ∨ c = '\n' ∨ c = '\t' ∨ c = '\r'

/-- The rest of a name of which the first letter has been read. -/
def scanName : List Char → List Char → Except Flaw (List Char)
  | [], cs => .ok cs
  | _ :: _, [] => .error .ended
  | a :: name, c :: cs => if a = c then scanName name cs else .error .malformed

/-- A digit is due: what is wrong if there is none. -/
def digitDue : List Char → Flaw
  | [] => .ended
  | _ => .malformed

/-- The exponent of a number, after the letter e. -/
def scanExponent (cs : List Char) : Except Flaw (Int × List Char) :=
  let signed := Decimal.takeSign cs
  let ds := signed.2.takeWhile Char.isDigit
  if ds.isEmpty then .error (digitDue signed.2)
  else
    let size : Int := Decimal.ofDigits ds
    .ok (if signed.1 then -size else size, signed.2.dropWhile Char.isDigit)

/-- The part of a number after its whole digits and fraction. -/
def scanPower (negative : Bool) (whole : List Char) (fraction : Option (List Char))
    (cs : List Char) : Except Flaw (Numeral × List Char) :=
  match cs with
  | c :: rest =>
    if c = 'e' ∨ c = 'E' then
      (scanExponent rest).map fun (power, rest) =>
        (⟨negative, whole, fraction, some power⟩, rest)
    else .ok (⟨negative, whole, fraction, none⟩, cs)
  | [] => .ok (⟨negative, whole, fraction, none⟩, [])

/-- The part of a number after its whole digits. -/
def scanFraction (negative : Bool) (whole : List Char) (cs : List Char) :
    Except Flaw (Numeral × List Char) :=
  match cs with
  | '.' :: rest =>
    let ds := rest.takeWhile Char.isDigit
    if ds.isEmpty then .error (digitDue rest)
    else scanPower negative whole (some ds) (rest.dropWhile Char.isDigit)
  | _ => scanPower negative whole none cs

/-- A number after its sign. No digit may follow a zero in front. -/
def scanNumber (negative : Bool) (cs : List Char) : Except Flaw (Numeral × List Char) :=
  let ds := cs.takeWhile Char.isDigit
  match ds with
  | [] => .error (digitDue cs)
  | '0' :: _ :: _ => .error .malformed
  | _ => scanFraction negative ds (cs.dropWhile Char.isDigit)

/-- The value of a hexadecimal digit. -/
def hexDigit? (c : Char) : Option Nat :=
  if c.isDigit then some (c.toNat - '0'.toNat)
  else if 'a' ≤ c ∧ c ≤ 'f' then some (c.toNat - 'a'.toNat + 10)
  else if 'A' ≤ c ∧ c ≤ 'F' then some (c.toNat - 'A'.toNat + 10)
  else none

/-- The unit that four hexadecimal digits write. -/
def hexUnit? (a b c d : Char) : Option Nat := do
  let a ← hexDigit? a
  let b ← hexDigit? b
  let c ← hexDigit? c
  let d ← hexDigit? d
  return ((a * 16 + b) * 16 + c) * 16 + d

/-- Four bytes are due after the letter u: the text has ended when fewer are left. -/
def unitDue (cs : List Char) : Flaw :=
  if cs.foldl (fun n c => n + c.utf8Size) 0 < 4 then .ended else .malformed

/-- The character that a letter after a backslash stands for. -/
def escape? : Char → Option Char
  | '"' => some '"'
  | '\\' => some '\\'
  | '/' => some '/'
  | 'b' => some '\x08'
  | 'f' => some '\x0c'
  | 'n' => some '\n'
  | 'r' => some '\r'
  | 't' => some '\t'
  | _ => none

/-- The pieces of a text after its opening quote, what is wrong where they end, and what follows. -/
def scanText : List Char → List Piece × Option Flaw × List Char
  | [] => ([], some .ended, [])
  | '"' :: rest => ([], none, rest)
  | '\\' :: [] => ([], some .ended, [])
  | '\\' :: 'u' :: a :: b :: c :: d :: rest =>
    match hexUnit? a b c d with
    | some n =>
      let (pieces, flaw, rest) := scanText rest
      (.unit n :: pieces, flaw, rest)
    | none => ([], some (unitDue (a :: b :: c :: d :: rest)), [])
  | '\\' :: c :: rest =>
    if c = 'u' then ([], some (unitDue rest), [])
    else
      match escape? c with
      | some e =>
        let (pieces, flaw, rest) := scanText rest
        (.char e :: pieces, flaw, rest)
      | none => ([], some .malformed, [])
  | c :: rest =>
    if c.toNat < 0x20 then ([], some .malformed, [])
    else
      let (pieces, flaw, rest) := scanText rest
      (.char c :: pieces, flaw, rest)

/-- A number token, and what follows it. -/
def numberToken : Except Flaw (Numeral × List Char) → Token × List Char
  | .ok (n, rest) => (.number n, rest)
  | .error flaw => (.brokenNumber flaw, [])

/-- A name token, and what follows it. -/
def nameToken (token : Token) : Except Flaw (List Char) → Token × List Char
  | .ok rest => (token, rest)
  | .error flaw => (.stray flaw, [])

/-- The token that begins with a character, and what follows it. -/
def scanToken (c : Char) (rest : List Char) : Token × List Char :=
  match c with
  | '[' => (.listOpen, rest)
  | ']' => (.listClose, rest)
  | '\x7b' => (.objectOpen, rest)
  | '\x7d' => (.objectClose, rest)
  | ':' => (.colon, rest)
  | ',' => (.comma, rest)
  | 'n' => nameToken .null (scanName ['u', 'l', 'l'] rest)
  | 't' => nameToken (.flag true) (scanName ['r', 'u', 'e'] rest)
  | 'f' => nameToken (.flag false) (scanName ['a', 'l', 's', 'e'] rest)
  | '"' =>
    let (pieces, flaw, rest) := scanText rest
    (.text pieces flaw, rest)
  | '-' => numberToken (scanNumber true rest)
  | c => if c.isDigit then numberToken (scanNumber false (c :: rest)) else (.stray .malformed, [])

theorem scanName_length {name cs rest : List Char} (h : scanName name cs = .ok rest) :
    rest.length ≤ cs.length := by
  induction name generalizing cs with
  | nil => simp [scanName] at h; simp [h]
  | cons a name ih =>
    cases cs with
    | nil => simp [scanName] at h
    | cons c cs =>
      simp only [scanName] at h
      split at h
      · have := ih h; simp; omega
      · simp at h

theorem scanExponent_length {cs rest : List Char} {power : Int}
    (h : scanExponent cs = .ok (power, rest)) : rest.length ≤ cs.length := by
  simp only [scanExponent] at h
  split at h
  · simp at h
  · simp only [Except.ok.injEq, Prod.mk.injEq] at h
    rw [← h.2]
    exact Nat.le_trans (List.dropWhile_sublist _).length_le (Decimal.takeSign_length cs)

theorem scanPower_length {negative : Bool} {whole cs rest : List Char}
    {fraction : Option (List Char)} {n : Numeral}
    (h : scanPower negative whole fraction cs = .ok (n, rest)) : rest.length ≤ cs.length := by
  unfold scanPower at h
  split at h
  · next c tail =>
    split at h
    · cases he : scanExponent tail with
      | error => simp [he, Except.map] at h
      | ok p =>
        obtain ⟨power, left⟩ := p
        simp only [he, Except.map, Except.ok.injEq, Prod.mk.injEq] at h
        obtain ⟨-, rfl⟩ := h
        have := scanExponent_length he
        simp; omega
    · simp only [Except.ok.injEq, Prod.mk.injEq] at h
      simp [← h.2]
  · simp only [Except.ok.injEq, Prod.mk.injEq] at h
    simp [← h.2]

theorem scanFraction_length {negative : Bool} {whole cs rest : List Char} {n : Numeral}
    (h : scanFraction negative whole cs = .ok (n, rest)) : rest.length ≤ cs.length := by
  unfold scanFraction at h
  split at h
  · next tail =>
    simp only at h
    split at h
    · simp at h
    · have := scanPower_length h
      have := (tail.dropWhile_sublist Char.isDigit).length_le
      simp; omega
  · exact scanPower_length h

/-- A number takes characters away, so reading tokens comes to an end. -/
theorem scanNumber_length {negative : Bool} {cs rest : List Char} {n : Numeral}
    (h : scanNumber negative cs = .ok (n, rest)) : rest.length < cs.length := by
  unfold scanNumber at h
  simp only at h
  split at h
  · simp at h
  · simp at h
  · next hds _ =>
    have := scanFraction_length h
    have split : (cs.takeWhile Char.isDigit).length + (cs.dropWhile Char.isDigit).length
        = cs.length := by
      rw [← List.length_append, List.takeWhile_append_dropWhile]
    have : 0 < (cs.takeWhile Char.isDigit).length := List.length_pos_iff.mpr hds
    omega

theorem scanText_length (cs : List Char) : (scanText cs).2.2.length ≤ cs.length := by
  fun_induction scanText cs <;> simp_all <;> omega

theorem numberToken_length {negative : Bool} {cs : List Char} (pos : 0 < cs.length) :
    (numberToken (scanNumber negative cs)).2.length < cs.length := by
  cases h : scanNumber negative cs with
  | error => simpa [numberToken] using pos
  | ok p =>
    obtain ⟨n, rest⟩ := p
    exact scanNumber_length h

theorem nameToken_length {token : Token} {name cs : List Char} :
    (nameToken token (scanName name cs)).2.length ≤ cs.length := by
  cases h : scanName name cs with
  | error => simp [nameToken]
  | ok rest => exact scanName_length h

/-- Every token takes characters away. -/
theorem scanToken_length (c : Char) (rest : List Char) :
    (scanToken c rest).2.length < (c :: rest).length := by
  have number : (numberToken (scanNumber true rest)).2.length < (c :: rest).length := by
    cases h : scanNumber true rest with
    | error => simp [numberToken]
    | ok p =>
      obtain ⟨n, left⟩ := p
      have := scanNumber_length h
      simp [numberToken]; omega
  have text := scanText_length rest
  have name (token : Token) (word : List Char) :
      (nameToken token (scanName word rest)).2.length < (c :: rest).length :=
    Nat.lt_succ_of_le nameToken_length
  unfold scanToken
  split
  case h_10 => exact Nat.lt_succ_of_le text
  case h_11 => exact number
  case h_12 =>
    split
    · exact numberToken_length (by simp)
    · simp
  all_goals first | exact name _ _ | simp

/-- The tokens of a text. -/
def tokens (cs : List Char) : List Token :=
  match cs with
  | [] => []
  | c :: rest =>
    if isSpace c then tokens rest
    else (scanToken c rest).1 :: tokens (scanToken c rest).2
termination_by cs.length
decreasing_by
  · simp
  · exact scanToken_length c rest

end VehicleLink.Json
