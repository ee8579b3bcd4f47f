namespace VehicleLink.Text

/-- Whether a byte continues a character. -/
def isContinuation (b : UInt8) : Bool := 0x80 ≤ b && b ≤ 0xBF

/-- How the second byte of a character is bounded, and how many bytes follow the first, by the
first byte. -/
def leadByte (b : UInt8) : Option (UInt8 × UInt8 × Nat) :=
  if 0xC2 ≤ b && b ≤ 0xDF then some (0x80, 0xBF, 1)
  else if b == 0xE0 then some (0xA0, 0xBF, 2)
  else if b == 0xED then some (0x80, 0x9F, 2)
  else if 0xE1 ≤ b && b ≤ 0xEF then some (0x80, 0xBF, 2)
  else if b == 0xF0 then some (0x90, 0xBF, 3)
  else if 0xF1 ≤ b && b ≤ 0xF3 then some (0x80, 0xBF, 3)
  else if b == 0xF4 then some (0x80, 0x8F, 3)
  else none

/-- The payload bits of a first byte. -/
def leadBits (b : UInt8) (following : Nat) : Nat :=
  b.toNat % Nat.pow 2 (6 - following)

/-- The code point after further continuation bytes. -/
def joinBits (high : Nat) (bs : List UInt8) : Nat :=
  bs.foldl (fun n b => n * 64 + b.toNat % 64) high

/-- The character at the start of some bytes and the number of bytes it takes, or, where there is
no character, the number of bytes that belong to the broken one: at least one, and as many as could
begin a character. -/
def scanUtf8 (b : UInt8) (rest : List UInt8) : Except Nat (Char × Nat) :=
  if b < 0x80 then .ok (Char.ofNat b.toNat, 1)
  else
    match leadByte b with
    | none => .error 1
    | some (low, high, following) =>
      match rest with
      | [] => .error 1
      | second :: _ =>
        if second < low || high < second then .error 1
        else
          let tail := (rest.take following).takeWhile isContinuation
          if tail.length = following then
            .ok (Char.ofNat (joinBits (leadBits b following) tail), following + 1)
          else .error (tail.length + 1)

/-- Reads bytes from `skip` bytes on, giving `broken` for what is no character. -/
def decodeFrom (broken : Option Char) : Nat → List UInt8 → Option (List Char)
  | _, [] => some []
  | skip + 1, _ :: bs => decodeFrom broken skip bs
  | 0, b :: bs =>
    match scanUtf8 b bs with
    | .ok (c, taken) => (decodeFrom broken (taken - 1) bs).map (c :: ·)
    | .error taken =>
      match broken with
      | some c => (decodeFrom broken (taken - 1) bs).map (c :: ·)
      | none => none

/-- The text that bytes encode, if they encode one. -/
def decodeUtf8? (bytes : List UInt8) : Option String :=
  (decodeFrom none 0 bytes).map String.ofList

/-- The text that bytes encode, with the replacement character for each broken piece. -/
def decodeUtf8Lossy (bytes : List UInt8) : String :=
  match decodeFrom (some '\uFFFD') 0 bytes with
  | some cs => String.ofList cs
  | none => ""

/-- The words for bytes that ought to be a text and are none. -/
def notTextReason : String := "stream did not contain valid UTF-8"

end VehicleLink.Text
