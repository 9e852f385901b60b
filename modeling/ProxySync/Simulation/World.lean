import ProxySync.Pass.Basic
import ProxySync.Simulation.ApiServer
import ProxySync.Simulation.Cluster
import ProxySync.Simulation.Plane
/-!
# A world to run passes in

All partners of a pass together: a Data Plane, and a cluster that is either kept in tables or
reached through the Kubernetes API. Between passes the world keeps the index of Services.
-/
namespace ProxySync.Simulation

/-- How the resources and the members of Services are reached. -/
inductive Access where
  | tables (backends : Backends) (members : Members)
  | api (server : ApiServer)

/-- A world. -/
structure World where
  plane : Plane
  access : Access
  index : ServiceIndex
  log : Log

namespace World

/-- What is needed to answer: the time that is stamped, and the client in use. -/
structure Setting where
  now : String
  client : DataPlane.Client

/-- Answers a call to the Data Plane. -/
def onPlane (s : Setting) : Environment DataPlane.interface World := fun c w =>
  let (a, (plane, log)) := Plane.answer s.client c (w.plane, w.log)
  (a, { w with plane, log })

/-- Lets the API serve a call. -/
def throughApi {α : Type} (d : Dialogue Kube.interface α) (server : ApiServer) (w : World) :
    α × World :=
  let (a, (server, log)) := d.run ApiServer.answer (server, w.log)
  (a, { w with access := .api server, log })

/-- Answers a call of the store. -/
def onStore (s : Setting) : Environment Store.interface World := fun c w =>
  match w.access with
  | .tables backends members =>
    let (a, (backends, log)) := Backends.answer c (backends, w.log)
    (a, { w with access := .tables backends members, log })
  | .api server => throughApi (Kube.store s.now c) server w

/-- Answers a look-up. -/
def onMembership : Environment Membership.interface World := fun c w =>
  match w.access with
  | .tables _ members =>
    let (a, log) := members.answer c w.log
    (a, { w with log })
  | .api server => throughApi (Kube.membership c) server w

/-- Answers a call of a pass. -/
def answer (s : Setting) : Environment Pass.interface World
  | .store c, w => onStore s c w
  | .membership c, w => onMembership c w
  | .plane c, w => onPlane s c w

/-- Runs one pass. -/
def reconcile (s : Setting) (key : Key) (w : World) : Except PassError PassOutcome × World :=
  let ((result, index), w) :=
    (Pass.start (ProxySync.reconcile s.now s.client key) w.index).run (answer s) w
  (result, { w with index })

/-- The log so far, in order, and the world with an empty one. -/
def takeLog (w : World) : List LogEntry × World := (w.log.reverse, { w with log := [] })

end World
end ProxySync.Simulation
