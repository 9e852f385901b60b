import ProxySync.Session.Backends
/-!
# Frontends, binds and switching rules

Frontend sections follow the pattern of backend sections. Binds and switching rules are added to
what is there; a list of rules is replaced as a whole.
-/
namespace ProxySync.DataPlane.Client

/-- The frontend section of a name. -/
def getFrontend (c : Client) (name : String) : SessionM (Option Wire.Frontend) :=
  c.find? ["frontends", name] "get frontend" "frontend" Wire.Frontend.ofJson?

/-- Makes the section of that name the wanted one. -/
def ensureFrontend (c : Client) (wanted : Wire.Frontend) : SessionM Change := do
  let f := wanted.stamped
  match ← c.getFrontend f.name with
  | none =>
    c.write .post ["frontends"] f.toJson "create frontend" "frontend" "create"
    return .created
  | some current =>
    if !current.isManaged then SessionM.fail (.notManaged "frontend" f.name)
    else if !current.same f then
      c.write .put ["frontends", f.name] f.toJson "update frontend" "frontend" "update"
      return .updated
    else return .unchanged

/-- The binds of a frontend. -/
def listBinds (c : Client) (frontend : String) : SessionM (List Wire.Bind) :=
  c.list ["frontends", frontend, "binds"] "list binds" "bind list" Wire.Bind.ofJson?

/-- Adds a bind unless its address and port are bound already. -/
def ensureBind (c : Client) (frontend : String) (wanted : Wire.Bind) : SessionM Change := do
  let binds ← c.listBinds frontend
  if binds.any (·.same wanted) then return .unchanged
  else
    c.write .post ["frontends", frontend, "binds"] wanted.toJson "create bind" "bind" "create"
    return .created

/-- The switching rules of a frontend, in the order in which they are tried. -/
def listRules (c : Client) (frontend : String) : SessionM (List Wire.SwitchingRule) :=
  c.list ["frontends", frontend, "backend_switching_rules"] "list backend switching rules"
    "backend switching rule list" Wire.SwitchingRule.ofJson?

/-- Appends a rule unless there is one with its target and condition text. -/
def ensureRule (c : Client) (frontend : String) (wanted : Wire.SwitchingRule) :
    SessionM Change := do
  let rules ← c.listRules frontend
  if rules.any (·.same wanted) then return .unchanged
  else
    c.write .put ["frontends", frontend, "backend_switching_rules"]
      (.arr ((rules ++ [wanted]).map (·.toJson))) "replace backend switching rules"
      "backend_switching_rule" "update"
    return .updated

/-- Deletes the rule at a position. -/
def deleteRule (c : Client) (frontend : String) (index : Nat) : SessionM Change :=
  c.delete ["frontends", frontend, "backend_switching_rules", toString index]
    "delete backend switching rule" "backend_switching_rule"

end ProxySync.DataPlane.Client
