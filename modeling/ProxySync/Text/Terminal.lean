/-!
# Text without the sequences that steer terminals

A text that is not meant for a terminal is shown without control characters, white space apart, and
without escape sequences. Sequences are told apart by what follows the escape character:

* a control sequence ends with its first letter or sign from `@` to `~`;
* a command of the operating system ends with a bell;
* a device string and the other strings end with a code unit `9c` after their header;
* anything else ends with its first character from `0` to `~`.

Every sequence ends as well where a new one begins or where it is cancelled. White space inside a
control sequence is shown, and so is what follows it up to the next control character.
-/
namespace ProxySync.Text.Terminal

/-- Where a reader stands in a sequence. -/
inductive Phase where
  | ground
  /-- Behind the escape character. -/
  | escape
  /-- In an escape sequence of several characters. -/
  | intermediate
  /-- In a control sequence. -/
  | control
  /-- In a command of the operating system. -/
  | command
  /-- Behind the start of a device string. -/
  | deviceEntry
  /-- In the numbers of its header. -/
  | deviceNumbers
  /-- In the signs that end its header. -/
  | deviceSigns
  /-- In a string. -/
  | body
deriving DecidableEq

/-- Whether a control character is white space. -/
def isSpacing (n : Nat) : Bool := n = 9 || n = 10 || n = 12 || n = 13

/-- Whether one of the code units of a character is `9c`; it cannot be the first. -/
def endsString (n : Nat) : Bool :=
  0x80 ≤ n && ((n % 0x40 = 0x1c) || (0x800 ≤ n && n / 0x40 % 0x40 = 0x1c) ||
    (0x10000 ≤ n && n / 0x1000 % 0x40 = 0x1c))

/-- Whether a code point lies in a closed range. -/
private def within (lo hi n : Nat) : Bool := lo ≤ n && n ≤ hi

namespace Phase

/-- The phase behind an escape character and one more character. -/
def afterEscape (n : Nat) : Phase :=
  if within 0x20 0x2f n then .intermediate
  else if n = 0x5b then .control
  else if n = 0x5d then .command
  else if n = 0x50 then .deviceEntry
  else if n = 0x58 || n = 0x5e || n = 0x5f then .body
  else if within 0x30 0x7e n then .ground
  else .escape

/-- The phase behind a character of the header of a device string. -/
def afterHeader (s : Phase) (n : Nat) : Phase :=
  if within 0x40 0x7e n then .body
  else if within 0x20 0x2f n then .deviceSigns
  else if within 0x30 0x3f n then
    match s with
    | .deviceEntry => if n = 0x3a then .body else .deviceNumbers
    | .deviceNumbers => if n = 0x3a || 0x3c ≤ n then .body else .deviceNumbers
    | _ => .body
  else s

/-- The phase behind a character that is not shown. -/
def next (s : Phase) (c : Char) : Phase :=
  let n := c.toNat
  if n = 0x18 || n = 0x1a then .ground
  else if n = 0x1b then .escape
  else
    match s with
    | .ground => .ground
    | .escape => afterEscape n
    | .intermediate => if within 0x30 0x7e n then .ground else .intermediate
    | .control => if within 0x40 0x7e n then .ground else .control
    | .command => if n = 7 then .ground else .command
    | .body => if endsString n then .ground else .body
    | .deviceEntry | .deviceNumbers | .deviceSigns => afterHeader s n

/-- Whether a character is shown though it stands behind something that is not. -/
def shows (s : Phase) (c : Char) : Bool :=
  match s with
  | .ground => isSpacing c.toNat || (0x20 ≤ c.toNat && c.toNat ≠ 0x7f)
  | .escape | .intermediate | .control => isSpacing c.toNat
  | _ => false

end Phase

/-- What is shown of the characters that follow a shown one or one that is not. A run of shown
characters goes on as if no sequence were open. -/
def plainChars (s : Phase) (afterShown : Bool) : List Char → List Char
  | [] => []
  | c :: cs =>
    if (if afterShown then Phase.ground else s).shows c then
      c :: plainChars (if c.toNat < 0x80 then s else .ground) true cs
    else plainChars (s.next c) false cs

/-- The text without control characters and sequences. -/
def plain (s : String) : String := String.ofList (plainChars .ground false s.toList)

end ProxySync.Text.Terminal
