import ProxySync.Desired
import ProxySync.Session.Transaction
import ProxySync.Wire.Same
/-!
# Synchronizing a backend

Each object is read, compared with the wanted one and written only where they disagree. A backend
section belongs to this program if its description says so; one that does not is never touched, nor
are its check list and its servers.
-/
namespace ProxySync

namespace Wire

/-- The description of everything this program owns. -/
def managed : String := "Managed by haproxy-operator"

/-- Whether a backend section belongs to this program. -/
def Backend.isManaged (b : Backend) : Bool := textOr b.description == managed

/-- Whether a frontend section belongs to this program. -/
def Frontend.isManaged (f : Frontend) : Bool := textOr f.description == managed

/-- The section as this program's own. -/
def Backend.stamped (b : Backend) : Backend := { b with description := some managed }

/-- The section as this program's own. -/
def Frontend.stamped (f : Frontend) : Frontend := { f with description := some managed }

end Wire

namespace DataPlane.Client

/-- The backend section of a name. -/
def getBackend (c : Client) (name : String) : SessionM (Option Wire.Backend) :=
  c.find? ["backends", name] "get backend" "backend" Wire.Backend.ofJson?

/-- The backend sections that belong to this program. -/
def listBackends (c : Client) : SessionM (List Wire.Backend) := do
  let all ← c.list ["backends"] "list backends" "backend list" Wire.Backend.ofJson?
  return all.filter (·.isManaged)

/-- Makes the section of that name the wanted one. -/
def ensureDefinition (c : Client) (wanted : Wire.Backend) : SessionM Change := do
  let b := wanted.stamped
  match ← c.getBackend b.name with
  | none =>
    c.write .post ["backends"] b.toJson "create backend" "backend" "create"
    return .created
  | some current =>
    if !current.isManaged then SessionM.fail (.notManaged "backend" b.name)
    else if !current.same b then
      c.write .put ["backends", b.name] b.toJson "update backend" "backend" "update"
      return .updated
    else return .unchanged

/-- Deletes a section of this program; one that is gone already needs nothing. -/
def deleteBackend (c : Client) (name : String) : SessionM Change := do
  match ← c.getBackend name with
  | none => return .unchanged
  | some current =>
    if !current.isManaged then SessionM.fail (.notManaged "backend" name)
    else c.delete ["backends", name] "delete backend" "backend"

/-- The check list of a backend; one that is not there is empty. -/
def getHttpChecks (c : Client) (backend : String) : SessionM (List Wire.HttpCheck) := do
  let checks ← c.find? ["backends", backend, "http_checks"] "get http checks" "http check list"
    (Json.list? Wire.HttpCheck.ofJson?)
  return checks.getD []

/-- Replaces the check list as a whole unless it agrees with the wanted one. -/
def ensureHttpChecks (c : Client) (backend : String) (wanted : List Wire.HttpCheck) :
    SessionM Change := do
  let current ← c.getHttpChecks backend
  if Wire.HttpCheck.sameList current wanted then return .unchanged
  else
    c.write .put ["backends", backend, "http_checks"] (.arr (wanted.map (·.toJson)))
      "replace http checks" "http_checks" "update"
    return .updated

/-- One server of a backend. -/
def getServer (c : Client) (backend name : String) : SessionM (Option Wire.Server) :=
  c.find? ["backends", backend, "servers", name] "get server" "server" Wire.Server.ofJson?

/-- The servers of a backend. -/
def listServers (c : Client) (backend : String) : SessionM (List Wire.Server) :=
  c.list ["backends", backend, "servers"] "list servers" "server list" Wire.Server.ofJson?

/-- Creates a server, replaces it if it disagrees, or leaves it. -/
def ensureServer (c : Client) (backend : String) (wanted : Wire.Server) : SessionM Change := do
  match ← c.getServer backend wanted.name with
  | none =>
    c.write .post ["backends", backend, "servers"] wanted.toJson "create server" "server" "create"
    return .created
  | some current =>
    if !current.same wanted then
      c.write .put ["backends", backend, "servers", wanted.name] wanted.toJson "update server"
        "server" "update"
      return .updated
    else return .unchanged

/-- Deletes one server. -/
def deleteServer (c : Client) (backend name : String) : SessionM Change :=
  c.delete ["backends", backend, "servers", name] "delete server" "server"

/-- Ensures servers one after the other and notes what became of them. -/
def ensureServers (c : Client) (backend : String) (report : ServerReport) :
    List Wire.Server → SessionM ServerReport
  | [] => return report
  | s :: ss => do
    let change ← c.ensureServer backend s
    c.ensureServers backend (report.note s.name change) ss

/-- Deletes servers one after the other and notes those that were still there. -/
def deleteServers (c : Client) (backend : String) (report : ServerReport) :
    List String → SessionM ServerReport
  | [] => return report
  | name :: names => do
    let change ← c.deleteServer backend name
    c.deleteServers backend (report.note name change) names

/-- Ensures every wanted server, then deletes the servers that are not wanted. -/
def syncServers (c : Client) (backend : String) (wanted : List Wire.Server) :
    SessionM ServerReport := do
  let report ← c.ensureServers backend .empty wanted
  let remote ← c.listServers backend
  let extra := (remote.map (·.name)).filter fun n => !(wanted.map (·.name)).contains n
  c.deleteServers backend report extra

/-- Makes a backend, its check list and its servers the wanted ones. -/
def ensureBackend (c : Client) (r : Resolved) : SessionM SyncReport := do
  let backend ← c.ensureDefinition r.wireBackend
  let httpChecks ← c.ensureHttpChecks r.name r.wireChecks
  let servers ← c.syncServers r.name r.wireServers
  return { backend, httpChecks, servers }

/-- Makes a backend the wanted one inside a transaction of its own. -/
def apply (c : Client) (r : Resolved) : SessionM SyncReport := do
  let _ ← c.openTransaction
  c.orAbort do
    let report ← c.ensureBackend r
    let _ ← c.close
    return report

/-- Removes a backend of this program inside a transaction of its own. -/
def teardown (c : Client) (name : String) : SessionM Unit := do
  let _ ← c.openTransaction
  c.orAbort do
    let _ ← c.deleteBackend name
    let _ ← c.close

end DataPlane.Client
end ProxySync
