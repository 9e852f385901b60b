import ProxySync.Text.Numeral
/-!
# IP addresses

Version 4 addresses as 32-bit numbers and version 6 addresses as eight 16-bit groups, with their
written forms. Readers differ from format to format and are kept with the format.
-/
namespace ProxySync.Net

/-- The four numbers of a version 4 address. -/
def octets (n : Nat) : List Nat :=
  [n / 0x1000000 % 256, n / 0x10000 % 256, n / 256 % 256, n % 256]

/-- A version 4 address in dotted form. -/
def dotted (n : Nat) : String := ".".intercalate ((octets n).map toString)

/-- A 16-bit group in hexadecimal without leading zeros. -/
def group (n : Nat) : String := String.ofList (Nat.toDigits 16 n)

/-- The length of the run of zeros at the front. -/
def zeroRun (gs : List Nat) : Nat := (gs.takeWhile (· = 0)).length

/-- The start and the length of the first longest run of zeros, as far as it is longer than the one
given. -/
def longestZeroRun (best : Nat × Nat) (i : Nat) : List Nat → Nat × Nat
  | [] => best
  | g :: gs =>
    let n := zeroRun (g :: gs)
    longestZeroRun (if best.2 < n then (i, n) else best) (i + 1) gs

/-- A version 6 address in hexadecimal; the first longest run of two or more zeros becomes a double
colon. -/
def colons (gs : List Nat) : String :=
  let (start, length) := longestZeroRun (0, 1) 0 gs
  if length < 2 then ":".intercalate (gs.map group)
  else
    ":".intercalate ((gs.take start).map group) ++ "::" ++
      ":".intercalate ((gs.drop (start + length)).map group)

/-- The value of a hexadecimal digit of either case. -/
def hexValue? (c : Char) : Option Nat :=
  let n := c.toNat
  if 48 ≤ n ∧ n ≤ 57 then some (n - 48)
  else if 65 ≤ n ∧ n ≤ 70 then some (n - 55)
  else if 97 ≤ n ∧ n ≤ 102 then some (n - 87)
  else none

/-- The value of hexadecimal digits; no digits are zero. -/
def hexNumber? (cs : List Char) : Option Nat :=
  cs.foldlM (fun n c => (hexValue? c).map (16 * n + ·)) 0

/-- The two groups of a version 4 address. -/
def groupsOfV4 (n : Nat) : List Nat := [n / 0x10000, n % 0x10000]

/-- The number of four octets. -/
def ofOctets (os : List Nat) : Nat := os.foldl (fun n o => 256 * n + o) 0

/-- A version 4 address of four decimal numbers up to 255 without leading zeros. -/
def strictDotted? (s : String) : Option Nat := do
  let parts := s.splitOn "."
  if parts.length ≠ 4 then none
  let os ← parts.mapM fun p =>
    let cs := p.toList
    if cs.length ≤ 3 ∧ (cs.length = 1 ∨ cs.head? ≠ some '0') then
      (Numeral.digits? cs).filter (· ≤ 255)
    else none
  return ofOctets os

/-- One group of a version 6 address: one to four hexadecimal digits. -/
def readGroup? (s : String) : Option Nat :=
  let cs := s.toList
  if 0 < cs.length ∧ cs.length ≤ 4 then hexNumber? cs else none

/-- The groups of a part of a version 6 address; a version 4 address may end it. -/
def readGroups? : List String → Option (List Nat)
  | [] => some []
  | [s] => ((readGroup? s).map ([·])).or ((strictDotted? s).map groupsOfV4)
  | s :: ss => do return (← readGroup? s) :: (← readGroups? ss)

/-- The pieces between the colons; an empty text has none. -/
def colonPieces (s : String) : List String := if s = "" then [] else s.splitOn ":"

/-- A version 6 address. A double colon stands for at least one group. A version 4 address may only
stand at the end. -/
def v6? (s : String) : Option (List Nat) :=
  match s.splitOn "::" with
  | [whole] => (readGroups? (colonPieces whole)).filter (·.length = 8)
  | [front, back] => do
    let gs ← if front.contains '.' then none else readGroups? (colonPieces front)
    let hs ← readGroups? (colonPieces back)
    if gs.length + hs.length ≤ 7 then
      return gs ++ List.replicate (8 - gs.length - hs.length) 0 ++ hs
    else none
  | _ => none

end ProxySync.Net
