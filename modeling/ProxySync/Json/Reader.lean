import ProxySync.Json.Basic
/-!
# Reading JSON

A recursive descent reader over characters. `Json.parse?` accepts exactly one value with JSON
white space around it. Fuel bounds the depth of the descent; the wrapper gives twice the length of
the text, which no text uses up.

What cannot be held is read over as `Json.illFormed`: a number that exceeds the largest one of
double precision, and lists and objects below `maxNesting` others.
-/
namespace ProxySync.Json

/-- White space between JSON tokens. -/
def isGap (c : Char) : Bool := c == ' ' || c == '\n' || c == '\t' || c == '\r'

/-- Skips white space. -/
def skipGap (cs : List Char) : List Char := cs.dropWhile isGap

/-- A part of a string: a character, or a UTF-16 unit given by its code. -/
inductive Piece where
  | char (c : Char)
  | unit (n : Nat)

/-- The value of a hexadecimal digit of either case. -/
def hexDigit? (c : Char) : Option Nat :=
  let n := c.toNat
  if 48 ≤ n ∧ n ≤ 57 then some (n - 48)
  else if 65 ≤ n ∧ n ≤ 70 then some (n - 55)
  else if 97 ≤ n ∧ n ≤ 102 then some (n - 87)
  else none

/-- The value of four hexadecimal digits. -/
def hex4? (a b c d : Char) : Option Nat := do
  return ((← hexDigit? a) * 16 + (← hexDigit? b)) * 256 + (← hexDigit? c) * 16 + (← hexDigit? d)

/-- The character of a one-letter escape. -/
def shortEscape? (c : Char) : Option Char :=
  match c with
  | '"' => some '"'
  | '\\' => some '\\'
  | '/' => some '/'
  | 'b' => some '\x08'
  | 'f' => some '\x0c'
  | 'n' => some '\n'
  | 'r' => some '\r'
  | 't' => some '\t'
  | _ => none

/-- Reads the parts of a string up to its closing quote. -/
def readPieces : List Char → Option (List Piece × List Char)
  | [] => none
  | '"' :: cs => some ([], cs)
  | '\\' :: 'u' :: a :: b :: c :: d :: cs => do
    let n ← hex4? a b c d
    let (ps, rest) ← readPieces cs
    return (.unit n :: ps, rest)
  | '\\' :: e :: cs => do
    let c ← shortEscape? e
    let (ps, rest) ← readPieces cs
    return (.char c :: ps, rest)
  | c :: cs =>
    if c.toNat < 0x20 || c = '\\' then none
    else do
      let (ps, rest) ← readPieces cs
      return (.char c :: ps, rest)

/-- The first of a pair of surrogates. -/
def isHighSurrogate (n : Nat) : Bool := 0xd800 ≤ n && n ≤ 0xdbff

/-- The second of a pair of surrogates. -/
def isLowSurrogate (n : Nat) : Bool := 0xdc00 ≤ n && n ≤ 0xdfff

/-- The text of the parts; none if a surrogate has no partner. -/
def joinPieces : List Piece → Option (List Char)
  | [] => some []
  | .char c :: ps => (joinPieces ps).map (c :: ·)
  | .unit n :: .unit m :: ps =>
    if isHighSurrogate n then
      if isLowSurrogate m then
        (joinPieces ps).map (Char.ofNat (0x10000 + (n - 0xd800) * 0x400 + (m - 0xdc00)) :: ·)
      else none
    else if isLowSurrogate n then none
    else (joinPieces (.unit m :: ps)).map (Char.ofNat n :: ·)
  | .unit n :: ps =>
    if isHighSurrogate n || isLowSurrogate n then none
    else (joinPieces ps).map (Char.ofNat n :: ·)

/-- Reads a string after its opening quote; the text is none if it is ill-formed. -/
def readString (cs : List Char) : Option (Option String × List Char) := do
  let (ps, rest) ← readPieces cs
  return ((joinPieces ps).map String.ofList, rest)

/-- The digits at the front and what follows them. -/
def spanDigits (cs : List Char) : List Char × List Char :=
  (cs.takeWhile Char.isDigit, cs.dropWhile Char.isDigit)

/-- The digits before the point: a single zero, or digits that do not begin with one. -/
def readWhole (cs : List Char) : Option (List Char × List Char) :=
  match cs with
  | '0' :: rest => if (rest.head?.map Char.isDigit).getD false then none else some (['0'], rest)
  | _ =>
    let (digits, rest) := spanDigits cs
    if digits.isEmpty then none else some (digits, rest)

/-- The point and the digits after it, if there is a point. -/
def readFraction (cs : List Char) : Option (List Char × List Char) :=
  match cs with
  | '.' :: rest =>
    let (digits, rest) := spanDigits rest
    if digits.isEmpty then none else some ('.' :: digits, rest)
  | _ => some ([], cs)

/-- The exponent, if there is one. -/
def readExponent (cs : List Char) : Option (List Char × List Char) :=
  match cs with
  | e :: rest =>
    if e = 'e' || e = 'E' then
      let sign := rest.takeWhile fun c => c = '+' || c = '-'
      let (digits, after) := spanDigits (rest.drop sign.length)
      if sign.length ≤ 1 && !digits.isEmpty then some (e :: sign ++ digits, after) else none
    else some ([], cs)
  | [] => some ([], [])

/-- The value of a run of digits. -/
def natOfDigits (digits : List Char) : Nat :=
  digits.foldl (fun n c => 10 * n + (c.toNat - 48)) 0

/-- A number without a fraction and an exponent: an integer if it fits and is not a negative
zero. -/
def ofWhole (negative : Bool) (digits : List Char) : Json :=
  let n : Int := if negative then -(natOfDigits digits : Int) else natOfDigits digits
  if fitsInt n && !(negative && n == 0) then .int n
  else .decimal (String.ofList (if negative then '-' :: digits else digits))

/-- The least number that is rounded to infinity in double precision. -/
def firstInfinite : Nat := Nat.pow 2 1024 - Nat.pow 2 970

/-- Whether a number given by its digits and a power of ten is finite in double precision. Numbers
of clearly more or fewer digits than the largest one are told by their digits. -/
def isFinite (digits : List Char) (power : Int) : Bool :=
  let significant := digits.dropWhile (· = '0')
  let size := significant.length + power
  if significant.isEmpty || size < 300 then true
  else if 310 < size then false
  else natOfDigits significant * Nat.pow 10 power.toNat <
    firstInfinite * Nat.pow 10 (-power).toNat

/-- The value of an exponent as written, behind its letter. -/
def exponentValue (cs : List Char) : Int :=
  match cs with
  | _ :: '-' :: digits => -(natOfDigits digits : Int)
  | _ :: '+' :: digits => natOfDigits digits
  | _ :: digits => natOfDigits digits
  | [] => 0

/-- Reads a number. -/
def readNumber (cs : List Char) : Option (Json × List Char) := do
  let negative := cs.head? = some '-'
  let (whole, rest) ← readWhole (if negative then cs.drop 1 else cs)
  let (fraction, rest) ← readFraction rest
  let (exponent, rest) ← readExponent rest
  let shift := exponentValue exponent - (fraction.length - 1 : Nat)
  if !isFinite (whole ++ fraction.drop 1) shift then return (.illFormed, rest)
  else if fraction.isEmpty && exponent.isEmpty then return (ofWhole negative whole, rest)
  else
    let digits := whole ++ fraction ++ exponent
    return (.decimal (String.ofList (if negative then '-' :: digits else digits)), rest)

/-- An object of the fields read; it is ill-formed if a key is. -/
def ofReadFields (fields : List (Option String × Json)) : Json :=
  match fields.mapM fun f => f.1.map (·, f.2) with
  | some fs => .obj fs
  | none => .illFormed

/-- How many lists and objects may be nested. -/
def maxNesting : Nat := 127

/-- A list or an object, unless there is no room for it. -/
def ifRoom (room : Nat) (j : Json) : Json := if room = 0 then .illFormed else j

mutual

/-- Reads one value, after white space. The room is how many lists and objects may be nested in
it. -/
def readValue : Nat → Nat → List Char → Option (Json × List Char)
  | 0, _, _ => none
  | fuel + 1, room, cs =>
    match skipGap cs with
    | '"' :: cs => do
      let (s, rest) ← readString cs
      return ((s.map Json.str).getD .illFormed, rest)
    | '[' :: cs =>
      match skipGap cs with
      | ']' :: rest => some (ifRoom room (.arr []), rest)
      | _ => do
        let (items, rest) ← readItems fuel (room - 1) cs
        return (ifRoom room (.arr items), rest)
    | '{' :: cs =>
      match skipGap cs with
      | '}' :: rest => some (ifRoom room (.obj []), rest)
      | _ => do
        let (fields, rest) ← readFields fuel (room - 1) cs
        return (ifRoom room (ofReadFields fields), rest)
    | 'n' :: 'u' :: 'l' :: 'l' :: rest => some (.null, rest)
    | 't' :: 'r' :: 'u' :: 'e' :: rest => some (.bool true, rest)
    | 'f' :: 'a' :: 'l' :: 's' :: 'e' :: rest => some (.bool false, rest)
    | cs => readNumber cs

/-- Reads the items of a list that has some, with the closing bracket. -/
def readItems : Nat → Nat → List Char → Option (List Json × List Char)
  | 0, _, _ => none
  | fuel + 1, room, cs => do
    let (j, rest) ← readValue fuel room cs
    match skipGap rest with
    | ',' :: rest => do
      let (js, rest) ← readItems fuel room rest
      return (j :: js, rest)
    | ']' :: rest => some ([j], rest)
    | _ => none

/-- Reads the fields of an object that has some, with the closing brace. -/
def readFields : Nat → Nat → List Char → Option (List (Option String × Json) × List Char)
  | 0, _, _ => none
  | fuel + 1, room, cs =>
    match skipGap cs with
    | '"' :: cs => do
      let (key, rest) ← readString cs
      match skipGap rest with
      | ':' :: rest => do
        let (value, rest) ← readValue fuel room rest
        match skipGap rest with
        | ',' :: rest => do
          let (fields, rest) ← readFields fuel room rest
          return ((key, value) :: fields, rest)
        | '}' :: rest => some ([(key, value)], rest)
        | _ => none
      | _ => none
    | _ => none

end

/-- Reads a text that is one value with white space around it. -/
def parse? (s : String) : Option Json :=
  let cs := s.toList
  match readValue (2 * cs.length + 2) maxNesting cs with
  | some (j, rest) => if (skipGap rest).isEmpty then some j else none
  | none => none

end ProxySync.Json
