import ProxySync.Net.Ip
import ProxySync.Text.Pieces
/-!
# Tables of characters

A property of characters as a table with a row for each range of code points that share a value.
Tables are read from a compact written form, in words between blanks, all numbers in hexadecimal.

* `CharTable.find?`: the value of a code point, by bisection.
* `CharTable.ofClasses`: reads ranges, a list of them for each value. A word is a code point or two
  with a hyphen between them, such as `5BF` or `300-36F`.
* `CharTable.ofImages`: reads what characters turn into. A word names the first character and then,
  after `>`, the images of this one and of those that follow it, between commas. An image is a
  sequence of code points with `+` between them. Behind it, `*n` stands for `n` characters with the
  same image, `~n` for `n` characters whose images follow each other as they do, and `^n` for every
  second of `2n` characters in the same way, where those in between have no image.
-/
namespace ProxySync.Net.Domain

/-- A range of code points that share a value. -/
structure CharRow (α : Type) where
  first : Nat
  last : Nat
  value : α

/-- A table of characters, its rows in ascending order. -/
structure CharTable (α : Type) where
  rows : Array (CharRow α)

namespace CharTable
variable {α : Type}

/-- The row for a code point among those from `lo` up to but not including `hi`. -/
def rowWithin? (rows : Array (CharRow α)) (c lo hi : Nat) (h : hi ≤ rows.size) :
    Option (CharRow α) :=
  if _ : lo < hi then
    let mid := lo + (hi - lo) / 2
    have : mid < rows.size := by omega
    let row := rows[mid]
    if row.last < c then rowWithin? rows c (mid + 1) hi h
    else if c < row.first then rowWithin? rows c lo mid (by omega)
    else some row
  else none
termination_by hi - lo

/-- The value of a code point. -/
def find? (t : CharTable α) (c : Nat) : Option α :=
  (rowWithin? t.rows c 0 t.rows.size (Nat.le_refl _)).map (·.value)

/-- Whether a table has a row for a code point. -/
def has (t : CharTable α) (c : Nat) : Bool := (t.find? c).isSome

/-- The table of some rows. -/
def ofRows (rows : List (CharRow α)) : CharTable α :=
  { rows := (rows.mergeSort fun a b => a.first ≤ b.first).toArray }

/-- The words of a written table. -/
def words (lines : List String) : List (List Char) :=
  lines.flatMap fun line => Text.pieces (· == ' ') line.toList

/-- The row of a range in its written form. -/
def range? (value : α) (word : List Char) : Option (CharRow α) :=
  match (Text.pieces (· == '-') word).mapM hexNumber? with
  | some [c] => some { first := c, last := c, value }
  | some [first, last] => some { first, last, value }
  | _ => none

/-- Reads the ranges of each value. -/
def ofClasses (classes : List (α × List String)) : CharTable α :=
  .ofRows (classes.flatMap fun (value, lines) => (words lines).filterMap (range? value))

/-- Reads a set of characters. -/
def ofRanges (lines : List String) : CharTable Unit := .ofClasses [((), lines)]

/-- Whether a character says how the image before it goes on. -/
def isRepeat (c : Char) : Bool := c = '*' || c = '~' || c = '^'

/-- The rows of an image in its written form, and the character that comes after them. -/
def imageRows? (first : Nat) (item : List Char) : Option (List (CharRow (List Char)) × Nat) := do
  let image ← (Text.pieces (· == '+') (item.takeWhile (! isRepeat ·))).mapM hexNumber?
  let row (c last k : Nat) : CharRow (List Char) :=
    { first := c, last, value := image.map fun n => Char.ofNat (n + k) }
  match item.dropWhile (! isRepeat ·) with
  | [] => some ([row first first 0], first + 1)
  | mark :: digits =>
    let count ← hexNumber? digits
    if mark = '*' then some ([row first (first + count - 1) 0], first + count)
    else
      let step := if mark = '^' then 2 else 1
      some ((List.range count).map (fun i => row (first + step * i) (first + step * i) (step * i)),
        first + step * count)

/-- The rows of the images of a character and those that follow it. -/
def imagesFrom (first : Nat) : List (List Char) → List (CharRow (List Char))
  | [] => []
  | item :: items =>
    match imageRows? first item with
    | some (rows, next) => rows ++ imagesFrom next items
    | none => []

/-- Reads what characters turn into. -/
def ofImages (lines : List String) : CharTable (List Char) :=
  .ofRows ((words lines).flatMap fun word =>
    match Text.pieces (· == '>') word with
    | [first, items] =>
      imagesFrom ((hexNumber? first).getD 0) (Text.pieces (· == ',') items)
    | _ => [])

end CharTable
end ProxySync.Net.Domain
