/-!
# JSON values

A JSON value keeps what a reader of records may ask for: the order of an object's fields, fields
given twice, and whether a number is an integer. Integers are those that fit 64 bits with or
without a sign; every other number keeps its digits as written.

A string with an unpaired surrogate has no text, an object that uses one as a key has no fields, a
number may be larger than any that can be held, and lists and objects may be nested too deeply.
Such a value may stand where nobody reads it; it is kept as `Json.illFormed`, which no reader
accepts.
-/
namespace ProxySync

/-- A JSON value. -/
inductive Json where
  | null
  | bool (b : Bool)
  | int (n : Int)
  | decimal (digits : String)
  | str (s : String)
  | arr (items : List Json)
  | obj (fields : List (String × Json))
  | illFormed
deriving Inhabited

namespace Json

/-- The integers that a JSON number is read as: 64 bits, with or without a sign. -/
def fitsInt (n : Int) : Bool := -0x8000000000000000 ≤ n && n < 0x10000000000000000

/-- An object with those of the given fields that have a value. -/
def ofFields (fields : List (String × Option Json)) : Json :=
  .obj (fields.filterMap fun f => f.2.map (f.1, ·))

/-- The value of the last field of that name. -/
def field? (name : String) : Json → Option Json
  | .obj fields => (fields.reverse.find? (·.1 == name)).map (·.2)
  | _ => none

/-- The text of a string. -/
def text? : Json → Option String
  | .str s => some s
  | _ => none

/-- A truth value. -/
def bool? : Json → Option Bool
  | .bool b => some b
  | _ => none

/-- An integer that fits 64 bits with a sign. -/
def int64? : Json → Option Int64
  | .int n =>
    if -0x8000000000000000 ≤ n ∧ n < 0x8000000000000000 then some (Int64.ofInt n) else none
  | _ => none

/-- A natural number not above the limit. -/
def natUpTo? (limit : Nat) : Json → Option Nat
  | .int n => if 0 ≤ n ∧ n ≤ limit then some n.toNat else none
  | _ => none

/-- A list, each item read in the same way. -/
def list? {α : Type} (read : Json → Option α) : Json → Option (List α)
  | .arr items => items.mapM read
  | _ => none

/-- One of a fixed set of words: the word itself, or an object with the word as its only key and
nothing below it. -/
def word? {α : Type} (ofText? : String → Option α) : Json → Option α
  | .str s => ofText? s
  | .obj [(s, .null)] => ofText? s
  | _ => none

mutual

/-- Whether nothing in a value is ill-formed, so that it can be held as it is. -/
def isWellFormed : Json → Bool
  | .arr items => areWellFormed items
  | .obj fields => haveWellFormed fields
  | .illFormed => false
  | _ => true

/-- Whether all items are well-formed. -/
def areWellFormed : List Json → Bool
  | [] => true
  | j :: js => isWellFormed j && areWellFormed js

/-- Whether the values of all fields are well-formed. -/
def haveWellFormed : List (String × Json) → Bool
  | [] => true
  | (_, j) :: fields => isWellFormed j && haveWellFormed fields

end

/-- Any well-formed value. -/
def held? (j : Json) : Option Json := if j.isWellFormed then some j else none

/-- A number of 64 bits. -/
def ofInt64 (n : Int64) : Json := .int n.toInt

/-- A list of texts. -/
def ofTexts (ss : List String) : Json := .arr (ss.map .str)

theorem toInt_bounds (n : Int64) :
    -0x8000000000000000 ≤ n.toInt ∧ n.toInt < 0x8000000000000000 :=
  ⟨n.le_toInt, n.toInt_lt⟩

theorem int64?_ofInt64 (n : Int64) : (ofInt64 n).int64? = some n := by
  simp only [ofInt64, int64?, toInt_bounds n, and_self, if_true, Int64.ofInt_toInt]

end Json
end ProxySync
