import ProxySync.DataPlane.Memory
import ProxySync.Simulation.Log
import ProxySync.Simulation.Script
/-!
# A simulated Data Plane

What a client finds at the other end of its exchanges. If the network is down every request is lost
on the way and nobody sees it. Otherwise the Data Plane logs the request and answers it by its
script, else from memory if it has one, else with 404.
-/
namespace ProxySync.Simulation

/-- Whether requests arrive. -/
inductive Network where
  | up | down
deriving DecidableEq

/-- The other end of a client. -/
structure Plane where
  network : Network
  routes : List Route
  memory : Option DataPlane.Memory

namespace Plane

/-- What a lost request says; the detail is not part of this program's text. -/
def lostDetail : String := "<transport-error>"

/-- Answers a request that arrived. -/
def respond (p : Plane) (r : DataPlane.WireRequest) : DataPlane.Reply × Plane :=
  match matchRoute? r.method.text r.path r.query p.routes with
  | some (route, routes) =>
    (if route.broken then .lost lostDetail else .answered route.status route.bodyText,
      { p with routes })
  | none =>
    match p.memory.bind (·.respond? r) with
    | some (a, memory) => (.answered a.status a.bodyText, { p with memory := some memory })
    | none => (.answered 404 "", p)

/-- Answers a call of a session, and logs what was seen of it. -/
def answer (client : DataPlane.Client) : Environment DataPlane.interface (Plane × Log)
  | .measure m, (p, log) => ((), (p, .measurement m :: log))
  | .request r, (p, log) =>
    match p.network with
    | .down => (.lost lostDetail, (p, log))
    | .up =>
      let (reply, p) := p.respond (client.wire r)
      (reply, (p, .request (client.wire r) :: log))

end Plane
end ProxySync.Simulation
