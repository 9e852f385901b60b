import ProxySync.Desired
/-!
# Validation

Turning a specification into a desired backend, or naming the first thing that is wrong with it:
the name, then the server entries in order, of each its port, its shape and a static name that an
earlier entry already has. An empty text counts as unset.
-/
namespace ProxySync.Validation

/-- A character of a backend name. -/
def isNameChar (c : Char) : Bool :=
  c.isAlphanum || c == '-' || c == '_' || c == '.' || c == ':'

/-- A backend name is not empty and has only ASCII letters, digits and `-_.:`. -/
def isName (s : String) : Bool := !s.toList.isEmpty && s.toList.all isNameChar

/-- A text that is set and not empty. -/
def nonEmpty (s : Option String) : Option String := s.filter (· ≠ "")

/-- A port, which is unset or between 1 and 65535. -/
def port : Option Int64 → Except String (Option UInt16)
  | none => .ok none
  | some p =>
    if 1 ≤ p.toInt ∧ p.toInt ≤ 65535 then .ok (some (UInt16.ofNat p.toInt.toNat))
    else
      let shown := toString p.toInt
      .error s!"port {shown} is out of range 1-65535"

/-- The Service that an entry refers to. -/
def reference (ns : String) (v : Resource.ValueFrom) (port : Option UInt16)
    (check : Option CheckMode) : Except String DynamicServer :=
  match v.serviceRef with
  | none => .error "valueFrom.serviceRef must be set"
  | some ref =>
    if ref.name = "" then .error "valueFrom.serviceRef.name must be set"
    else .ok
      { ns := (nonEmpty ref.ns).getD ns
        service := ref.name
        servicePort := (nonEmpty ref.port).map ServicePort.parse
        port, check }

/-- One server entry. -/
def entry (ns : String) (s : Resource.ServerSpec) : Except String ServerEntry := do
  let port ← port s.port
  match s.valueFrom, nonEmpty s.name, nonEmpty s.address with
  | none, some name, some address =>
    return .fixed { name, address, port, id := s.id, check := s.check }
  | none, _, _ => throw "either address/name or valueFrom must be set for server"
  | some v, none, none => return .dynamic (← reference ns v port s.check)
  | some _, _, _ => throw "only one of address/name or valueFrom may be set for server"

/-- The static name that an entry takes. -/
def takenName : ServerEntry → Option String
  | .fixed s => some s.name
  | .dynamic _ => none

/-- An entry whose static name is not taken yet. -/
def freshEntry (ns : String) (taken : List String) (s : Resource.ServerSpec) :
    Except String ServerEntry := do
  let e ← entry ns s
  match takenName e with
  | some name =>
    if name ∈ taken then throw ("duplicate server name " ++ Text.quoted name) else return e
  | none => return e

/-- The server entries from a position on. -/
def entriesFrom (ns : String) (taken : List String) (i : Nat) :
    List Resource.ServerSpec → Except PassError (List ServerEntry)
  | [] => .ok []
  | s :: ss =>
    match freshEntry ns taken s with
    | .error e => .error (.validation s!"server[{i}]: {e}")
    | .ok x =>
      match entriesFrom ns ((takenName x).toList ++ taken) (i + 1) ss with
      | .error e => .error e
      | .ok xs => .ok (x :: xs)

end Validation

open Validation in
/-- Validates a specification. The namespace is that of the `Backend`; a reference without one of
its own falls back to it. -/
def Resource.Spec.validate (s : Resource.Spec) (ns : String) : Except PassError Desired :=
  if isName s.name then
    match entriesFrom ns [] 0 s.servers with
    | .error e => .error e
    | .ok servers => .ok
      { name := s.name, mode := s.mode, algorithm := s.balance, advCheck := s.advCheck, servers
        httpChecks := s.httpChecks }
  else .error (.validation
    ("name " ++ Text.quoted s.name ++ " must be non-empty and match ^[A-Za-z0-9-_.:]+$"))

end ProxySync
