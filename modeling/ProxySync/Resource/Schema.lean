import ProxySync.Json.Basic
/-!
# Schemas

The form of a resource as Kubernetes checks it. A schema says what a value is for, whether it may
be left out, and which values there are. In its JSON form an optional value is nullable, and an
optional choice of words has null as its last choice.
-/
namespace ProxySync.Resource

/-- Whether a value has to be given. -/
inductive Presence where
  | required
  /-- May be left out or null. -/
  | optional
  /-- May be left out, and is then an empty list. -/
  | emptyByDefault
  /-- May be left out. -/
  | omittable
deriving DecidableEq

/-- What is said of every kind of value. -/
structure Note where
  about : Option String
  presence : Presence

/-- The form of a value. -/
inductive Schema where
  | text (note : Note) (pattern : Option String)
  | choice (note : Note) (words : List String)
  | integer (note : Note) (range : Option (Nat × Nat))
  | list (note : Note) (item : Schema)
  | record (note : Note) (fields : List (String × Schema))

/-- A note with a description. -/
def note (about : String) (presence : Presence) : Note := { about := some about, presence }

/-- A note without a description. -/
def bare (presence : Presence) : Note := { about := none, presence }

namespace Schema

/-- What is said of the value. -/
def getNote : Schema → Note
  | .text n _ => n
  | .choice n _ => n
  | .integer n _ => n
  | .list n _ => n
  | .record n _ => n

/-- Whether the value has to be given. -/
def isRequired (s : Schema) : Bool := s.getNote.presence == .required

/-- The names of the fields that have to be given, in order. -/
def requiredNames (fields : List (String × Schema)) : List String :=
  ((fields.filter (·.2.isRequired)).map (·.1)).mergeSort (· ≤ ·)

/-- What the JSON form of every kind of value has. -/
def common (n : Note) (type : String) : List (String × Json) :=
  (n.about.map fun s => ("description", Json.str s)).toList ++
    (match n.presence with
      | .required => []
      | .optional => [("nullable", .bool true)]
      | .emptyByDefault => [("default", .arr [])]
      | .omittable => []) ++
    [("type", .str type)]

/-- The words of a choice, and null where it is optional. -/
def choices (n : Note) (words : List String) : Json :=
  .arr (words.map .str ++ if n.presence = .optional then [.null] else [])

/-- A bound of a range. -/
def bound (n : Nat) : Json := .decimal (toString n ++ ".0")

mutual

/-- The JSON form of a schema. -/
def toJson : Schema → Json
  | .text n pattern => .obj (common n "string" ++ (pattern.map fun p => ("pattern", .str p)).toList)
  | .choice n words => .obj (("enum", choices n words) :: common n "string")
  | .integer n range =>
    .obj (("format", .str "int64") :: common n "integer" ++
      match range with
      | some (low, high) => [("minimum", bound low), ("maximum", bound high)]
      | none => [])
  | .list n item => .obj (("items", item.toJson) :: common n "array")
  | .record n fields =>
    .obj (("properties", .obj (fieldsToJson fields)) :: common n "object" ++
      match requiredNames fields with
      | [] => []
      | names => [("required", .ofTexts names)])

/-- The JSON forms of fields. -/
def fieldsToJson : List (String × Schema) → List (String × Json)
  | [] => []
  | (name, s) :: fields => (name, s.toJson) :: fieldsToJson fields

end
end Schema
end ProxySync.Resource
