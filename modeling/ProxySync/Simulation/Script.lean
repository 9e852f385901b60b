import ProxySync.Json.Printer
/-!
# Scripted answers

A script is a list of routes. The first route that fits a request answers it, in place of whatever
else would have; a route may be good for a limited number of requests. A route can also fail to
answer.
-/
namespace ProxySync.Simulation

/-- What a route answers with. -/
inductive RouteBody where
  | empty
  | text (s : String)
  | json (j : Json)

/-- One scripted answer. What is left open fits every request. -/
structure Route where
  method : Option String
  path : Option String
  query : Option String
  /-- How many more requests the route answers; none is without limit. -/
  times : Option Nat
  status : Nat
  body : RouteBody
  /-- Whether the answer never arrives in full. -/
  broken : Bool

namespace Route

/-- Whether a route fits a request. -/
def fits (r : Route) (method path query : String) : Bool :=
  r.times != some 0 && r.method.all (· == method) && r.path.all (· == path) &&
    r.query.all (· == query)

/-- The body of the answer. Two statuses never have one. -/
def bodyText (r : Route) : String :=
  if r.status = 204 || r.status = 304 then ""
  else match r.body with
    | .empty => ""
    | .text s => s
    | .json j => j.sorted.print

/-- The route after one more request. -/
def used (r : Route) : Route := { r with times := r.times.map (· - 1) }

end Route

/-- The first route that fits, and the script after it. -/
def matchRoute? (method path query : String) : List Route → Option (Route × List Route)
  | [] => none
  | r :: rs =>
    if r.fits method path query then some (r, r.used :: rs)
    else (matchRoute? method path query rs).map fun (m, rs) => (m, r :: rs)

end ProxySync.Simulation
