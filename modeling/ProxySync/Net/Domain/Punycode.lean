/-!
# The ASCII encoding of labels

A label with characters beyond ASCII is written with letters, digits and hyphens: its ASCII
characters, a hyphen if there are any, and then, in ascending order of code point, how far it is
from one of the other characters to the next. A distance counts the places where a character could
be put in before the next one is reached, code point by code point. It is a number in base 36 whose
digits end at thresholds that adapt to the distances so far.

* `Punycode.encode`, `Punycode.decode?`: writing and reading the label behind its mark.
-/
namespace ProxySync.Net.Domain.Punycode

/-- A digit: letters, then digits. -/
def digit (n : Nat) : Char := Char.ofNat (if n < 26 then 97 + n else 22 + n)

/-- The value of a digit. -/
def digit? (c : Char) : Option Nat :=
  if c.isLower then some (c.toNat - 97)
  else if c.isDigit then some (c.toNat - 22)
  else none

/-- The threshold of the digit at a place, places counted in steps of 36. -/
def threshold (bias place : Nat) : Nat :=
  if place ≤ bias then 1 else if bias + 26 ≤ place then 26 else place - bias

theorem threshold_pos (bias place : Nat) : 1 ≤ threshold bias place := by
  unfold threshold
  repeat' split
  all_goals omega

/-- The bias that a scaled distance leads to, on top of `k`. -/
def scaled (d k : Nat) : Nat :=
  if 455 < d then scaled (d / 35) (k + 36) else k + 36 * d / (d + 38)
termination_by d
decreasing_by omega

/-- The bias after a distance that was the first or another one, in a label that then has `count`
characters. -/
def adapt (distance count : Nat) (first : Bool) : Nat :=
  let d := if first then distance / 700 else distance / 2
  scaled (d + d / count) 0

/-- One distance in digits, from a place on. -/
def digits (bias place q : Nat) : List Char :=
  let t := threshold bias place
  if q < t then [digit q]
  else digit (t + (q - t) % (36 - t)) :: digits bias (place + 36) ((q - t) / (36 - t))
termination_by q
decreasing_by
  have := threshold_pos bias place
  exact Nat.lt_of_le_of_lt (Nat.div_le_self _ _) (by omega)

/-- What the encoder keeps. -/
structure Encoder where
  distance : Nat
  bias : Nat
  handled : Nat
  output : List Char

/-- Encodes all occurrences of code point `m` in a label with `basic` ASCII characters. -/
def encodePoint (basic m : Nat) (label : List Nat) (s : Encoder) : Encoder :=
  label.foldl (fun s c =>
    if c < m then { s with distance := s.distance + 1 }
    else if c = m then
      { distance := 0
        bias := adapt s.distance (s.handled + 1) (s.handled = basic)
        handled := s.handled + 1
        output := s.output ++ digits s.bias 36 s.distance }
    else s) s

/-- Encodes some code points of a label in ascending order, none of them below `n`. -/
def encodePoints (basic : Nat) (label : List Nat) (n : Nat) : List Nat → Encoder → Encoder
  | [], s => s
  | m :: ms, s =>
    let s := { s with distance := s.distance + (m - n) * (s.handled + 1) }
    let s := encodePoint basic m label s
    encodePoints basic label (m + 1) ms { s with distance := s.distance + 1 }

/-- The encoding of a label. -/
def encode (label : List Char) : List Char :=
  let basic := label.filter (·.toNat < 0x80)
  let points := label.map Char.toNat
  let others := ((points.filter (0x80 ≤ ·)).mergeSort (· ≤ ·)).eraseDups
  (encodePoints basic.length points 0x80 others
    { distance := 0, bias := 72, handled := basic.length
      output := if basic.isEmpty then [] else basic ++ ['-'] }).output

/-- What the decoder keeps. -/
structure Decoder where
  label : List Char
  /-- The code point that was put in last. -/
  point : Nat
  bias : Nat
  /-- Where the search for the next place began. -/
  start : Nat
  /-- Where it is, by the digits so far. -/
  place : Nat
  /-- What the next digit counts. -/
  weight : Nat
  /-- The place of the next digit. -/
  step : Nat

/-- No weight of a digit reaches this. -/
def weightLimit : Nat := 0x100000000

/-- Reads one digit; the last one of a distance puts a character in. -/
def decodeDigit? (s : Decoder) (d : Nat) : Option Decoder :=
  let place := s.place + d * s.weight
  let t := threshold s.bias s.step
  if d < t then
    let count := s.label.length + 1
    let point := s.point + place / count
    if point.isValidChar then
      some {
        label := s.label.insertIdx (place % count) (Char.ofNat point), point
        bias := adapt (place - s.start) count (s.start = 0)
        start := place % count + 1, place := place % count + 1, weight := 1, step := 36 }
    else none
  else if s.weight * (36 - t) < weightLimit then
    some { s with place, weight := s.weight * (36 - t), step := s.step + 36 }
  else none

/-- The ASCII characters of an encoding and its digits. A hyphen at the front divides nothing. -/
def parts (cs : List Char) : List Char × List Char :=
  let basic := (cs.reverse.dropWhile (· ≠ '-')).reverse.dropLast
  if basic.isEmpty then ([], cs) else (basic, (cs.reverse.takeWhile (· ≠ '-')).reverse)

/-- The label of an encoding in lower case. -/
def decode? (cs : List Char) : Option (List Char) := do
  let (basic, digits) := parts cs
  let s ← (← digits.mapM digit?).foldlM decodeDigit?
    { label := basic, point := 0x80, bias := 72, start := 0, place := 0, weight := 1, step := 36 }
  if s.step = 36 then s.label else none

end ProxySync.Net.Domain.Punycode
