import ProxySync.Json.Member
import ProxySync.Time.Timestamp
/-!
# Shapes of Kubernetes values

What a value in a Kubernetes object has to look like for the object to be readable at all, even
where nobody asks for the value. A record may lack any of its members, hold null for them and have
members that its shape does not name; only a few shapes insist on a member.

* `Shape.fits`: whether a value has a shape.
-/
namespace ProxySync.Kube

/-- What a value looks like. -/
inductive Shape where
  | text
  | boolean
  | int32
  | int64
  /-- An instant, as text. -/
  | instant
  /-- An amount of a resource: a text or a number. -/
  | quantity
  /-- A text or a 32-bit number, such as the name or the number of a port. -/
  | intOrText
  /-- Whatever can be held. -/
  | any
  | list (item : Shape)
  /-- An object with arbitrary names. -/
  | table (value : Shape)
  /-- An object with members of given shapes, some of which it has to have. -/
  | record (members : List (String × Shape)) (required : List String)

namespace Shape

/-- Members of one shape. -/
def members (shape : Shape) (names : List String) : List (String × Shape) :=
  names.map (·, shape)

/-- A record that may lack any of its members. -/
def loose (members : List (String × Shape)) : Shape := .record members []

/-- Whether a value without parts fits a shape. -/
def fitsLeaf : Shape → Json → Bool
  | .text, .str _ => true
  | .boolean, .bool _ => true
  | .int32, .int n => -0x80000000 ≤ n && n < 0x80000000
  | .int64, .int n => -0x8000000000000000 ≤ n && n < 0x8000000000000000
  | .instant, .str s => (Timestamp.parse? s).isSome
  | .quantity, .str _ => true
  | .quantity, .int _ => true
  | .quantity, .decimal _ => true
  | .intOrText, .str _ => true
  | .intOrText, .int n => -0x80000000 ≤ n && n < 0x80000000
  | _, _ => false

/-- Whether the last member of a name has a value. -/
def hasValue (fields : List (String × Json)) (name : String) : Bool :=
  match Json.field? name (.obj fields) with
  | none => false
  | some .null => false
  | some _ => true

mutual

/-- Whether a value has a shape. -/
def fits (s : Shape) : Json → Bool
  | .arr items =>
    match s with
    | .list item => allFit item items
    | .any => Json.areWellFormed items
    | _ => false
  | .obj fields =>
    match s with
    | .table value => valuesFit value fields
    | .record members required => required.all (hasValue fields) && membersFit members fields
    | .any => Json.haveWellFormed fields
    | _ => false
  | .illFormed => false
  | j =>
    match s with
    | .any => true
    | s => fitsLeaf s j

/-- Whether all items have a shape. -/
def allFit (item : Shape) : List Json → Bool
  | [] => true
  | j :: js => fits item j && allFit item js

/-- Whether the values of all members have a shape. -/
def valuesFit (value : Shape) : List (String × Json) → Bool
  | [] => true
  | (_, j) :: fields => fits value j && valuesFit value fields

/-- Whether all members that are named have no value or one of their shape. -/
def membersFit (members : List (String × Shape)) : List (String × Json) → Bool
  | [] => true
  | (_, .null) :: fields => membersFit members fields
  | (name, j) :: fields =>
    (match members.lookup name with
      | some s => fits s j
      | none => true) && membersFit members fields

end

/-- Reads a value of a shape as it is. -/
def read? (s : Shape) (j : Json) : Option Json := if s.fits j then some j else none

end Shape
end ProxySync.Kube
