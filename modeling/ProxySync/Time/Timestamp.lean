import ProxySync.Text.Numeral
import ProxySync.Text.Pieces
/-!
# Instants

An instant is a number of seconds since the start of 1970 in UTC. It is read from a date, a time of
day and an offset from UTC, in any of the spellings of ISO 8601: with separators throughout or
without, with or without minutes and seconds, with fractions of a second. Annotations in brackets
may follow; they do not change the instant. It is written in UTC, to the second, and fractions
count as the second that they are in.

Years go from -9999 to 9999. The instants of the first and the last day of that time are left out,
as far as they would be in another year somewhere on earth.
-/
namespace ProxySync

/-- An instant. -/
structure Timestamp where
  seconds : Int
deriving DecidableEq

namespace Timestamp

/-- Whether a year has a 29th of February. -/
def isLeap (year : Int) : Bool := year % 4 == 0 && (year % 100 != 0 || year % 400 == 0)

/-- The length of a month. -/
def monthDays (year : Int) (month : Nat) : Nat :=
  if month = 2 then (if isLeap year then 29 else 28)
  else if month = 4 ∨ month = 6 ∨ month = 9 ∨ month = 11 then 30 else 31

/-- Days from the start of 1970 to a date. Years are counted from March, so that the leap day is
the last of its year. -/
def daysOfDate (year : Int) (month day : Nat) : Int :=
  let y := if month ≤ 2 then year - 1 else year
  let era := y / 400
  let yearOfEra := y - era * 400
  let monthOfYear := (month + 9) % 12
  let dayOfYear : Int := (153 * monthOfYear + 2) / 5 + day - 1
  let dayOfEra := yearOfEra * 365 + yearOfEra / 4 - yearOfEra / 100 + dayOfYear
  era * 146097 + dayOfEra - 719468

/-- The date of a number of days from the start of 1970. -/
def dateOfDays (days : Int) : Int × Nat × Nat :=
  let z := days + 719468
  let era := z / 146097
  let dayOfEra := z - era * 146097
  let yearOfEra := (dayOfEra - dayOfEra / 1460 + dayOfEra / 36524 - dayOfEra / 146096) / 365
  let dayOfYear := dayOfEra - (365 * yearOfEra + yearOfEra / 4 - yearOfEra / 100)
  let monthOfYear := (5 * dayOfYear + 2) / 153
  let day := dayOfYear - (153 * monthOfYear + 2) / 5 + 1
  let month := if monthOfYear < 10 then monthOfYear + 3 else monthOfYear - 9
  (yearOfEra + era * 400 + (if month ≤ 2 then 1 else 0), month.toNat, day.toNat)

/-- A number of exactly `count` digits, not above a limit, and what follows it. -/
def fixedDigits? (count limit : Nat) (cs : List Char) : Option (Nat × List Char) := do
  let n ← Numeral.digits? (cs.take count)
  if (cs.take count).length = count && n ≤ limit then some (n, cs.drop count) else none

/-- Skips one of the given characters. -/
def skipOne? (allowed : List Char) : List Char → Option (List Char)
  | c :: cs => if c ∈ allowed then some cs else none
  | [] => none

/-- Whether a text begins with two digits. -/
def beginsWithPair : List Char → Bool
  | c :: d :: _ => c.isDigit && d.isDigit
  | _ => false

/-- Where the next two digits of a time begin, if there are any: behind a colon if the first two
are followed by one, else at once. -/
def nextPair? (withColons : Bool) (cs : List Char) : Option (List Char) :=
  if withColons then skipOne? [':'] cs else if beginsWithPair cs then some cs else none

/-- A year: four digits, or six behind a sign. There is no negative year zero. -/
def year? : List Char → Option (Int × List Char)
  | '+' :: cs => (fixedDigits? 6 9999 cs).map fun (n, rest) => (n, rest)
  | '-' :: cs => do
    let (n, rest) ← fixedDigits? 6 9999 cs
    if n = 0 then none else some (-(n : Int), rest)
  | cs => (fixedDigits? 4 9999 cs).map fun (n, rest) => (n, rest)

/-- A date, as days from the start of 1970. -/
def date? (cs : List Char) : Option (Int × List Char) := do
  let (year, cs) ← year? cs
  let withDashes := cs.head? = some '-'
  let (month, cs) ← fixedDigits? 2 12 (if withDashes then cs.drop 1 else cs)
  let cs ← if withDashes then skipOne? ['-'] cs else some cs
  let (day, cs) ← fixedDigits? 2 31 cs
  if month = 0 || day = 0 || monthDays year month < day then none
  else some (daysOfDate year month day, cs)

/-- Skips a fraction: a mark and one to nine digits. -/
def skipFraction? (cs : List Char) : Option (List Char) :=
  match skipOne? ['.', ','] cs with
  | none => some cs
  | some rest =>
    let digits := (rest.take 9).takeWhile Char.isDigit
    if digits.isEmpty then none else some (rest.drop digits.length)

/-- A time of day, in seconds. A sixtieth second counts as the fifty-ninth. -/
def timeOfDay? (cs : List Char) : Option (Nat × List Char) := do
  let (hour, cs) ← fixedDigits? 2 23 cs
  let withColons := cs.head? = some ':'
  match nextPair? withColons cs with
  | none => return (hour * 3600, cs)
  | some cs =>
    let (minute, cs) ← fixedDigits? 2 59 cs
    match nextPair? withColons cs with
    | none => return (hour * 3600 + minute * 60, cs)
    | some cs =>
      let (second, cs) ← fixedDigits? 2 60 cs
      return (hour * 3600 + minute * 60 + min second 59, ← skipFraction? cs)

/-- The most that an offset can be, in seconds. -/
def maxOffset : Nat := 25 * 3600 + 59 * 60 + 59

/-- Whether a fraction, if there is one, is at least a half. -/
def roundsUp : List Char → Bool
  | m :: d :: _ => (m = '.' || m = ',') && d.isDigit && '5' ≤ d
  | _ => false

/-- The size of an offset, in seconds; fractions are rounded. -/
def offsetSize? (cs : List Char) : Option (Nat × List Char) := do
  let (hours, cs) ← fixedDigits? 2 25 cs
  let withColons := cs.head? = some ':'
  match nextPair? withColons cs with
  | none => return (hours * 3600, cs)
  | some cs =>
    let (minutes, cs) ← fixedDigits? 2 59 cs
    match nextPair? withColons cs with
    | none => return (hours * 3600 + minutes * 60, cs)
    | some cs =>
      let (seconds, cs) ← fixedDigits? 2 59 cs
      let rest ← skipFraction? cs
      let n := hours * 3600 + minutes * 60 + seconds + if roundsUp cs then 1 else 0
      if n ≤ maxOffset then return (n, rest) else none

/-- An offset from UTC, in seconds. -/
def offset? : List Char → Option (Int × List Char)
  | 'Z' :: cs => some (0, cs)
  | 'z' :: cs => some (0, cs)
  | '+' :: cs => (offsetSize? cs).map fun (n, rest) => ((n : Int), rest)
  | '-' :: cs => (offsetSize? cs).map fun (n, rest) => (-(n : Int), rest)
  | _ => none

/-- A character inside a part of the name of a time zone. -/
def isZoneChar (c : Char) : Bool := c.isAlphanum || c ∈ ['_', '.', '+', '-']

/-- A part of the name of a time zone. -/
def isZonePart : List Char → Bool
  | c :: cs => (c.isAlpha || c = '_' || c = '.') && cs.all isZoneChar
  | [] => false

/-- Whether a text is an offset of hours and perhaps minutes, behind its sign. -/
def isShortOffset (cs : List Char) : Bool :=
  match fixedDigits? 2 25 cs with
  | none => false
  | some (_, rest) =>
    match nextPair? (rest.head? = some ':') rest with
    | none => rest.isEmpty
    | some rest => (fixedDigits? 2 59 rest).any (·.2.isEmpty)

/-- Whether an annotation names a time zone; a mark at its start insists on it. -/
def isZone (cs : List Char) : Bool :=
  let cs := if cs.head? = some '!' then cs.drop 1 else cs
  match cs with
  | '+' :: rest => isShortOffset rest
  | '-' :: rest => isShortOffset rest
  | _ => (Text.pieces (· == '/') cs).all isZonePart

/-- A lower-case letter of ASCII or an underscore. -/
def isKeyStart (c : Char) : Bool := c.isLower || c = '_'

/-- Whether an annotation is a key with its values. -/
def isTag (cs : List Char) : Bool :=
  let key := cs.takeWhile (· ≠ '=')
  match cs.dropWhile (· ≠ '=') with
  | [] => false
  | _ :: values =>
    key.head?.any isKeyStart && key.all (fun c => isKeyStart c || c.isDigit || c = '-') &&
      (Text.pieces (· == '-') values).all fun v => !v.isEmpty && v.all Char.isAlphanum

/-- What stands between the brackets of a text that is nothing but brackets. -/
def bracketed? (cs : List Char) : Option (List (List Char)) :=
  let groups := Text.pieces (· == ']') cs
  if groups.getLast? = some [] then
    groups.dropLast.mapM fun
      | '[' :: inner => some inner
      | _ => none
  else none

/-- Whether a text is a sequence of annotations: a time zone, if there is one, and tags. -/
def isAnnotation (cs : List Char) : Bool :=
  match bracketed? cs with
  | some (first :: others) => (isZone first || isTag first) && others.all isTag
  | some [] => true
  | none => false

/-- The first and the last second. -/
def range : Int × Int := (-377705023201, 253402207200)

/-- Reads an instant. -/
def parse? (s : String) : Option Timestamp := do
  let (days, cs) ← date? s.toList
  let cs ← skipOne? ['T', 't', ' '] cs
  let (ofDay, cs) ← timeOfDay? cs
  let (offset, cs) ← offset? cs
  let seconds := days * 86400 + ofDay - offset
  if isAnnotation cs && range.1 ≤ seconds && seconds ≤ range.2 then some { seconds } else none

/-- A number with leading zeros up to the given width. -/
def padded (width n : Nat) : String :=
  let digits := Nat.toDigits 10 n
  String.ofList (List.replicate (width - digits.length) '0' ++ digits)

/-- A year of four characters, the sign of a negative one among them. -/
def yearText (year : Int) : String :=
  if year < 0 then "-" ++ padded 3 year.natAbs else padded 4 year.natAbs

/-- Writes an instant in UTC. -/
def print (t : Timestamp) : String :=
  let (year, month, day) := dateOfDays (t.seconds / 86400)
  let ofDay := (t.seconds % 86400).toNat
  let date := yearText year ++ "-" ++ padded 2 month ++ "-" ++ padded 2 day
  let time := padded 2 (ofDay / 3600) ++ ":" ++ padded 2 (ofDay / 60 % 60) ++ ":" ++
    padded 2 (ofDay % 60)
  date ++ "T" ++ time ++ "Z"

end Timestamp
end ProxySync
