namespace VehicleLink.Text

/-- Whether a byte stands for itself in a form: letters, digits and eight signs. -/
def isFormPlain (b : UInt8) : Bool :=
  let c := Char.ofNat b.toNat
  b < 0x80 && (c.isAlphanum || "-_.~*!()".toList.contains c)

/-- One of the sixteen upper-case hexadecimal digits. -/
def upperHexDigit (n : Nat) : Char := "0123456789ABCDEF".toList.getD n '0'

/-- A byte as a form writes it. -/
def formByte (b : UInt8) : List Char :=
  if isFormPlain b then [Char.ofNat b.toNat]
  else if b == 0x20 then ['+']
  else ['%', upperHexDigit (b.toNat / 16), upperHexDigit (b.toNat % 16)]

/-- A text as a form writes it: byte by byte. -/
def formText (s : String) : String :=
  String.ofList (s.toUTF8.toList.flatMap formByte)

/-- A form of named values, in order. -/
def formEncode (pairs : List (String × String)) : String :=
  "&".intercalate (pairs.map fun (name, value) => formText name ++ "=" ++ formText value)

end VehicleLink.Text
