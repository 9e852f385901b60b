import ProxySync.DataPlane.Client
import ProxySync.Kube.Api
/-!
# The log of a simulation

What the partners of a program saw, in order.
-/
namespace ProxySync.Simulation

/-- One thing that a partner saw. -/
inductive LogEntry where
  | request (r : DataPlane.WireRequest)
  | measurement (m : Measurement)
  | membership (c : Membership.Call)
  | store (c : Store.Call)
  | kube (r : Kube.ApiRequest)

/-- A request as it is written down. -/
def requestText (r : DataPlane.WireRequest) : String :=
  r.method.text ++ " " ++ r.path ++ (if r.query = "" then "" else "?" ++ r.query)

/-- The request that an entry stands for. -/
def LogEntry.callText? : LogEntry → Option String
  | .request r => some (requestText r)
  | .kube r => some r.text
  | _ => none

/-- The log of a simulation, latest entry first. -/
abbrev Log := List LogEntry

end ProxySync.Simulation
