import ProxySync.Json.Basic
import ProxySync.Table
/-!
# Members of loosely read objects

Kubernetes objects are read loosely: unknown members are ignored, a member that is missing or null
has no value, and of members given twice the last counts, though all have to be readable.
-/
namespace ProxySync.Json
variable {α : Type}

/-- Reads a value that null leaves out. -/
def unlessNull (read : Json → Option α) : Json → Option (Option α)
  | .null => some none
  | j => (read j).map some

/-- The value of a member. -/
def member? (name : String) (read : Json → Option α) : Json → Option (Option α)
  | .obj fields =>
    (fields.filter (·.1 == name)).foldlM (fun _ f => unlessNull read f.2) none
  | _ => none

/-- Whether a member, if given, is the expected word. -/
def memberIs (name expected : String) (j : Json) : Bool :=
  match j with
  | .obj fields => (fields.filter (·.1 == name)).all fun f =>
      match f.2 with
      | .str s => s == expected
      | _ => false
  | _ => false

/-- A map from texts to texts. -/
def textTable? : Json → Option (Table String String)
  | .obj fields => do
    return .ofList (← fields.mapM fun f => f.2.text?.map (f.1, ·))
  | _ => none

/-- Writes a map from texts to texts. -/
def ofTextTable (t : Table String String) : Json :=
  .obj (t.entries.map fun e => (e.1, .str e.2))

end ProxySync.Json
