/-!
# Percent-encoding

Bytes outside the characters that a place admits are written as a percent sign and two upper-case
hexadecimal digits. An encoder is given by the ASCII characters it escapes; control characters,
DEL and all bytes of non-ASCII characters are always escaped.
-/
namespace ProxySync.Percent

/-- A hexadecimal digit in upper case. -/
def upperHex (n : UInt8) : Char :=
  Char.ofNat (if n < 10 then 48 + n.toNat else 55 + n.toNat)

/-- One byte in its escaped form. -/
def escapeByte (b : UInt8) : List Char := ['%', upperHex (b / 16), upperHex (b % 16)]

/-- Whether every place escapes the character: a control character or one beyond ASCII. -/
def alwaysEscaped (c : Char) : Bool := c.toNat < 0x20 || 0x7e < c.toNat

/-- One character, escaped if the place asks for it. -/
def encodeChar (escaped : Char → Bool) (c : Char) : List Char :=
  if alwaysEscaped c || escaped c then (String.utf8EncodeChar c).flatMap escapeByte else [c]

/-- A text, every character escaped that the place asks for. -/
def encode (escaped : Char → Bool) (cs : List Char) : List Char :=
  cs.flatMap (encodeChar escaped)

/-- The value of a hexadecimal digit of either case. -/
def hexValue? (c : Char) : Option UInt8 :=
  let n := c.toNat
  if 48 ≤ n ∧ n ≤ 57 then some (UInt8.ofNat (n - 48))
  else if 65 ≤ n ∧ n ≤ 70 then some (UInt8.ofNat (n - 55))
  else if 97 ≤ n ∧ n ≤ 102 then some (UInt8.ofNat (n - 87))
  else none

/-- The bytes of a text in which escapes stand for their byte and all else for itself. A percent
sign without two hexadecimal digits stands for itself. -/
def decodeBytes : List Char → List UInt8
  | [] => []
  | '%' :: a :: b :: cs =>
    match hexValue? a, hexValue? b with
    | some x, some y => (16 * x + y) :: decodeBytes cs
    | _, _ => 37 :: decodeBytes (a :: b :: cs)
  | c :: cs => String.utf8EncodeChar c ++ decodeBytes cs
termination_by cs => cs.length

/-- Undoes percent-encoding; fails where the bytes are not UTF-8. -/
def decode? (cs : List Char) : Option String :=
  String.fromUTF8? (decodeBytes cs).toByteArray

/-- Undoes percent-encoding; a text whose bytes are not UTF-8 stands for itself. -/
def decode (cs : List Char) : String := (decode? cs).getD (String.ofList cs)

end ProxySync.Percent
