import ProxySync.Kube.Membership
/-!
# Which backends depend on a Service

A relation between backends and the Services they refer to, kept from both sides so that a change
of a Service finds its backends and a change of a backend finds what to forget. Neither side keeps
empty sets.
-/
namespace ProxySync

/-- A relation between Services and backends. -/
structure ServiceIndex where
  byService : Table Key (Table Key Unit)
  byBackend : Table Key (Table Key Unit)

namespace ServiceIndex

/-- The relation of nothing. -/
def empty : ServiceIndex := { byService := .empty, byBackend := .empty }

instance : Inhabited ServiceIndex := ⟨empty⟩

/-- Puts a backend under a Service. -/
def link (backend : Key) (t : Table Key (Table Key Unit)) (service : Key) :
    Table Key (Table Key Unit) :=
  t.insert service (((t.get? service).getD .empty).insert backend ())

/-- Takes a backend from under a Service; the Service goes with its last backend. -/
def unlink (backend : Key) (t : Table Key (Table Key Unit)) (service : Key) :
    Table Key (Table Key Unit) :=
  match t.get? service with
  | none => t
  | some backends =>
    let rest := backends.erase backend
    if rest.isEmpty then t.erase service else t.insert service rest

/-- Forgets a backend. -/
def remove (backend : Key) (x : ServiceIndex) : ServiceIndex :=
  match x.byBackend.get? backend with
  | none => x
  | some services =>
    { byService := services.keys.foldl (unlink backend) x.byService
      byBackend := x.byBackend.erase backend }

/-- Replaces the set of Services that a backend refers to. -/
def update (backend : Key) (services : Table Key Unit) (x : ServiceIndex) : ServiceIndex :=
  let x := x.remove backend
  if services.isEmpty then x
  else
    { byService := services.keys.foldl (link backend) x.byService
      byBackend := x.byBackend.insert backend services }

/-- The backends that refer to a Service, in order. -/
def backendsFor (x : ServiceIndex) (service : Key) : List Key :=
  ((x.byService.get? service).getD .empty).keys

/-- The backends that a change of a Service concerns. -/
def backendsForService (x : ServiceIndex) (s : Kube.Service) : List Key :=
  x.backendsFor s.metadata.key

/-- The Service that a slice belongs to. -/
def sliceService? (s : Kube.EndpointSlice) : Option Key :=
  (s.metadata.label? Kube.EndpointSlice.serviceLabel).map fun name =>
    { ns := s.metadata.nsText, name }

/-- The backends that a change of a slice concerns. -/
def backendsForSlice (x : ServiceIndex) (s : Kube.EndpointSlice) : List Key :=
  match sliceService? s with
  | some service => x.backendsFor service
  | none => []

/-- The number of backends that refer to a Service. -/
def size (x : ServiceIndex) : Nat := x.byBackend.size

end ServiceIndex

/-- Of the backends that a change concerns, those that a controller of the given namespace owns; a
controller without a namespace owns all. -/
def retriggered (keys : List Key) (ns : Option String) : List Key :=
  keys.filter fun k => ns.all (k.ns == ·)

end ProxySync
