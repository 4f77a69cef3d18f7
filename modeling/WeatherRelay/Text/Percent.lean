/-!
# Percent encoding

Bytes written as a percent sign with two hexadecimal digits, and the encoding of forms, which writes a space as a plus
sign.
-/

namespace WeatherRelay.Text

/-- A digit in hexadecimal. -/
def upperHex (n : Nat) : Char := if n < 10 then Char.ofNat (48 + n) else Char.ofNat (55 + n)

/-- A byte as a percent sign and two digits. -/
def percentByte (b : UInt8) : List Char := ['%', upperHex (b.toNat / 16), upperHex (b.toNat % 16)]

/-- A character, with its bytes escaped if it is in a set or no character of ASCII. -/
def percentChar (escape : Char → Bool) (c : Char) : List Char :=
  if 0x7F ≤ c.toNat || c.toNat < 0x20 || escape c then (String.singleton c).toUTF8.toList.flatMap percentByte else [c]

/-- Characters with those of a set escaped. -/
def percentEncode (escape : Char → Bool) (cs : List Char) : List Char := cs.flatMap (percentChar escape)

/-- The value of a hexadecimal digit. -/
def hexValue (c : Char) : Option Nat :=
  if '0' ≤ c ∧ c ≤ '9' then some (c.toNat - 48)
  else if 'a' ≤ c ∧ c ≤ 'f' then some (c.toNat - 87)
  else if 'A' ≤ c ∧ c ≤ 'F' then some (c.toNat - 55)
  else none

/-- The bytes of a text in which escaped bytes are replaced; a percent sign without two digits stands for itself. -/
def percentDecode : List UInt8 → List UInt8
  | 0x25 :: a :: b :: rest =>
    match hexValue (Char.ofNat a.toNat), hexValue (Char.ofNat b.toNat) with
    | some x, some y => (x * 16 + y).toUInt8 :: percentDecode rest
    | _, _ => 0x25 :: percentDecode (a :: b :: rest)
  | x :: rest => x :: percentDecode rest
  | [] => []

/-- A byte in a form: letters, digits and four signs stand for themselves. -/
def formByte (b : UInt8) : List Char :=
  let c := Char.ofNat b.toNat
  if c == ' ' then ['+']
  else if c.isAlphanum || c ∈ ['*', '-', '.', '_'] then [c]
  else percentByte b

/-- A text in a form. -/
def formEncode (s : String) : List Char := s.toUTF8.toList.flatMap formByte

end WeatherRelay.Text
