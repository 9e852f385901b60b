import ProxySync.Simulation.World
import ProxySync.WatchScope
/-!
# Controllers at work

The controllers of a watch scope on a simulated cluster. Each lists and watches its Backends and all
Services and slices, and runs a pass over every Backend that it lists or that changes. A change of a
Service or a slice leads to a pass over each Backend that the index names for it, that is in the
namespace of the controller and that the controller has seen. All controllers share one index.

Each Backend is passed over as soon as it is due, so passes never overlap. A controller that is sent
something it cannot read pauses all its watches, for longer than a simulation lasts: from then on it
is silent.
-/
namespace ProxySync.Simulation

/-- A controller. -/
structure Controller where
  /-- The namespace it owns; none is all. -/
  ns : Option String
  /-- The Backends it has seen. -/
  seen : Table Key Unit
  /-- Whether it was sent something that it cannot read. -/
  silent : Bool

/-- The controllers of a scope in their world. -/
structure Fleet where
  label : Option String
  controllers : List Controller
  world : World

/-- What a change was. -/
inductive ChangeKind where
  | modified | deleted
deriving DecidableEq

namespace Fleet

/-- Notes a request that a controller makes of its own accord. -/
def request (w : World) (kind : Kube.ObjectKind) (ns label : Option String) (watch : Bool) :
    World :=
  let r : Kube.ApiRequest :=
    { verb := .get, path := kind.collection ns, watch, labelSelector := label }
  { w with log := .kube r :: w.log }

/-- The objects that the API keeps. -/
def stored (w : World) : ApiServer :=
  match w.access with
  | .api server => server
  | .tables .. => { objects := .empty, routes := [] }

/-- Whether a controller can read an object of a kind that it watches. -/
def isReadable (kind : Kube.ObjectKind) (j : Json) : Bool :=
  match kind with
  | .backend => (Resource.Backend.ofJson? j).isSome
  | .service => (Kube.Service.ofJson? j).isSome
  | .endpointSlice => (Kube.EndpointSlice.ofJson? j).isSome
  | .pod | .event => true

/-- Whether a controller can take note of a change of an object: it follows the versions. -/
def isNoticeable (kind : Kube.ObjectKind) (j : Json) : Bool :=
  isReadable kind j && ApiServer.metaText j "resourceVersion" ≠ ""

/-- What a controller lists and, where that is marked, watches at its start. The three lists come in
turn, and the first one with an unreadable object is the last. A watch begins once all of its list
is handed on: at once for an empty list and for objects that no Backend is known to depend on yet,
after the other lists for the Backends. -/
def openings (backends services slices : List Json) : List (Kube.ObjectKind × Bool) :=
  let early := if backends.isEmpty then [(.backend, true)] else []
  if !backends.all (isReadable .backend) then [(.backend, false)]
  else if !services.all (isReadable .service) then
    [(.backend, false)] ++ early ++ [(.service, false)]
  else if !slices.all (isReadable .endpointSlice) then
    [(.backend, false)] ++ early ++ [(.service, false), (.service, true), (.endpointSlice, false)]
  else
    [.backend, .service, .endpointSlice].flatMap fun kind => [(kind, false), (kind, true)]

/-- Starts the controller of a namespace. -/
def launch (label ns : Option String) (w : World) : Controller × World :=
  let server := stored w
  let backends := server.listed .backend ns label
  let services := server.listed .service none none
  let slices := server.listed .endpointSlice none none
  let asks := openings backends services slices
  let awake := asks.contains (.endpointSlice, true)
  let w := asks.foldl (fun w (kind, watch) =>
    if kind = .backend then request w kind ns label watch else request w kind none none watch) w
  let keys := if awake then backends.map ApiServer.keyOf else []
  ({ ns, seen := .ofList (keys.map (·, ())), silent := !awake }, w)

/-- Runs one pass over each key, and notes how it ended. -/
def passes (s : World.Setting) (keys : List Key) (w : World) : List String × World :=
  keys.foldl (fun (labels, w) key =>
    let (result, w) := w.reconcile s key
    (labels ++ [passLabel result], w)) ([], w)

/-- Starts the controllers of a scope. The labels are those of the passes that follow at once. -/
def start (s : World.Setting) (scope : WatchScope) (w : World) : List String × Fleet :=
  let (controllers, w) := scope.controllers.foldl (fun (controllers, w) ns =>
    let (c, w) := launch scope.label ns w
    (controllers ++ [c], w)) ([], w)
  let (labels, w) := passes s (controllers.flatMap (·.seen.keys)) w
  (labels, { label := scope.label, controllers, world := w })

/-- Whether a controller watches a Backend. -/
def watches (label : Option String) (c : Controller) (j : Json) : Bool :=
  c.ns.all (ApiServer.metaText j "namespace" == ·) && ApiServer.selected label j

/-- Whether a controller is sent the changes of an object. -/
def isSent (label : Option String) (kind : Kube.ObjectKind) (j : Json) (c : Controller) : Bool :=
  !c.silent &&
    match kind with
    | .backend => watches label c j
    | .service | .endpointSlice => true
    | .pod | .event => false

/-- The Backends that depend on an object. -/
def dependents (x : ServiceIndex) (kind : Kube.ObjectKind) (j : Json) : List Key :=
  match kind with
  | .service => ((Kube.Service.ofJson? j).map x.backendsForService).getD []
  | .endpointSlice => ((Kube.EndpointSlice.ofJson? j).map x.backendsForSlice).getD []
  | .backend | .pod | .event => []

/-- The controller after a change, and the Backends that it passes over for it. -/
def noticed (label : Option String) (x : ServiceIndex) (change : ChangeKind)
    (kind : Kube.ObjectKind) (j : Json) (c : Controller) : Controller × List Key :=
  if !isSent label kind j c then (c, [])
  else if !isNoticeable kind j then ({ c with silent := true }, [])
  else
    let key := ApiServer.keyOf j
    match kind, change with
    | .backend, .modified => ({ c with seen := c.seen.insert key () }, [key])
    | .backend, .deleted => ({ c with seen := c.seen.erase key }, [])
    | _, _ => (c, (retriggered (dependents x kind j) c.ns).filter c.seen.contains)

/-- Lets every controller notice a change. -/
def notice (s : World.Setting) (change : ChangeKind) (kind : Kube.ObjectKind) (j : Json)
    (f : Fleet) : List String × Fleet :=
  let after := f.controllers.map (noticed f.label f.world.index change kind j)
  let (labels, world) := passes s (after.flatMap (·.2)) f.world
  (labels, { f with controllers := after.map (·.1), world })

/-- The world with the API changed. -/
def change? (w : World) (f : ApiServer → Option ApiServer) : Option World :=
  match w.access with
  | .api server => (f server).map fun server => { w with access := .api server }
  | .tables .. => none

/-- Puts an object into the cluster. -/
def put? (s : World.Setting) (j : Json) (f : Fleet) : Option (List String × Fleet) := do
  let kind ← ApiServer.kindOf? j
  let world ← change? f.world (·.put? j)
  return { f with world }.notice s .modified kind (ApiServer.filled kind j)

/-- Removes an object from the cluster. -/
def delete? (s : World.Setting) (j : Json) (f : Fleet) : Option (List String × Fleet) := do
  let kind ← ApiServer.kindOf? j
  let world ← change? f.world (·.delete? j)
  return { f with world }.notice s .deleted kind (ApiServer.filled kind j)

/-- The requests since the last time, and the fleet with an empty log. -/
def takeCalls (f : Fleet) : List String × Fleet :=
  let (log, world) := f.world.takeLog
  (log.filterMap LogEntry.callText?, { f with world })

end Fleet
end ProxySync.Simulation
