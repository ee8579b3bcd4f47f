import VehicleLink.Text.Utf8

namespace VehicleLink

/-- Something that ought to be a text. -/
inductive RawText where
  | text (s : String)
  /-- Bytes that encode no text. -/
  | broken (bytes : List UInt8)
deriving DecidableEq, Repr, Inhabited

namespace RawText

/-- The text of bytes, if they encode one. -/
def ofBytes (bytes : List UInt8) : RawText :=
  match Text.decodeUtf8? bytes with
  | some s => .text s
  | none => .broken bytes

/-- The text, if it is one. -/
def text? : RawText → Option String
  | .text s => some s
  | .broken _ => none

/-- The text as messages show it, with the replacement character for each broken piece. -/
def shown : RawText → String
  | .text s => s
  | .broken bytes => Text.decodeUtf8Lossy bytes

end RawText

end VehicleLink
