import ProxySync.Json.Basic
/-!
# Records in JSON

A record is written as an object with one field per name, or as a list of the values in the order
in which the names are declared. Unknown fields of an object are ignored; a known field given
twice, or more values than names, is refused. A list may stop early: what is then missing is a
`Slot.short`, which a field may treat otherwise than one that an object leaves out.
-/
namespace ProxySync.Json

/-- What a record holds for one name. -/
inductive Slot where
  /-- The value given. -/
  | given (value : Json)
  /-- An object without the field. -/
  | absent
  /-- A list that ends before the field. -/
  | short

/-- What a record holds for each of its names. -/
abbrev Record := String → Slot

/-- The slot of one name in an object. -/
def slotOf (fields : List (String × Json)) (name : String) : Slot :=
  match fields.find? (·.1 == name) with
  | some f => .given f.2
  | none => .absent

/-- The slot of one name in a list. -/
def slotAt (names : List String) (items : List Json) (name : String) : Slot :=
  match items[names.idxOf name]? with
  | some j => .given j
  | none => .short

/-- Reads a record with the given names. -/
def record? (names : List String) : Json → Option Record
  | .obj fields =>
    if names.all fun n => fields.countP (·.1 == n) ≤ 1 then some (slotOf fields) else none
  | .arr items => if items.length ≤ names.length then some (slotAt names items) else none
  | _ => none

namespace Record
variable {α : Type}

/-- A field that has to be given. -/
def required (r : Record) (name : String) (read : Json → Option α) : Option α :=
  match r name with
  | .given j => read j
  | _ => none

/-- A field that is none where it is missing or null. -/
def optional (r : Record) (name : String) (read : Json → Option α) : Option (Option α) :=
  match r name with
  | .given .null => some none
  | .given j => (read j).map some
  | _ => some none

/-- A field that is none where an object leaves it out or it is null, but which a list has to
reach. -/
def optionalReached (r : Record) (name : String) (read : Json → Option α) : Option (Option α) :=
  match r name with
  | .given .null => some none
  | .given j => (read j).map some
  | .absent => some none
  | .short => none

/-- A field with a default for where it is missing; null is no value of it. -/
def defaulted (r : Record) (name : String) (dflt : α) (read : Json → Option α) : Option α :=
  match r name with
  | .given j => read j
  | _ => some dflt

end Record
end ProxySync.Json
