/-!
# Decimal numerals

Reading whole numbers written in decimal. A numeral is an optional sign and at least one ASCII
digit; leading zeros are allowed, white space and digit separators are not. A number outside the
range asked for is no number at all.
-/
namespace ProxySync.Numeral

/-- The value of a digit. -/
def digit? (c : Char) : Option Nat :=
  if c.isDigit then some (c.toNat - '0'.toNat) else none

/-- Reads digits on top of the value read so far. -/
def digitsFrom? (value : Nat) : List Char → Option Nat
  | [] => some value
  | c :: cs => do digitsFrom? (10 * value + (← digit? c)) cs

/-- The value of a non-empty run of digits. -/
def digits? : List Char → Option Nat
  | [] => none
  | cs => digitsFrom? 0 cs

/-- An integer with an optional sign. -/
def int? : List Char → Option Int
  | '-' :: cs => (digits? cs).map fun n => -(n : Int)
  | '+' :: cs => (digits? cs).map fun n => (n : Int)
  | cs => (digits? cs).map fun n => (n : Int)

/-- An integer that fits 64 bits. -/
def int64? (s : String) : Option Int64 := do
  let n ← int? s.toList
  if -0x8000000000000000 ≤ n ∧ n < 0x8000000000000000 then some (Int64.ofInt n) else none

/-- A natural number not above the limit; a leading plus sign is allowed. -/
def natUpTo? (limit : Nat) (s : String) : Option Nat := do
  let cs := s.toList
  let n ← digits? (if cs.head? = some '+' then cs.tail else cs)
  if n ≤ limit then some n else none

/-- A port number, or any other 16-bit number. -/
def uint16? (s : String) : Option UInt16 := (natUpTo? 65535 s).map UInt16.ofNat

end ProxySync.Numeral
