import ProxySync.Simulation.Log
/-!
# A cluster in memory

Backends, Services, slices and Pods in tables, with the calls that are to fail. It serves the store
and the look-ups directly, without an API in between.
-/
namespace ProxySync.Simulation

/-- Services, slices and Pods, by the written form of their keys. -/
structure Members where
  services : List String
  slices : Table String (List Kube.EndpointSlice)
  pods : Table String Kube.Pod
  /-- The look-ups that fail, and how. -/
  failures : Table String String

namespace Members

/-- No Service. -/
def empty : Members :=
  { services := [], slices := .empty, pods := .empty, failures := .empty }

/-- The written form of a look-up. -/
def callText : Membership.Call → String
  | .service k => "service " ++ k.text
  | .slices k => "slices " ++ k.text
  | .pod k => "pod " ++ k.text

/-- Answers a look-up that does not fail. -/
def found (m : Members) : (c : Membership.Call) → Membership.interface.Answer c
  | .service k => .ok (if m.services.contains k.text then some { metadata := .empty } else none)
  | .slices k => .ok ((m.slices.get? k.text).getD [])
  | .pod k => .ok (m.pods.get? k.text)

/-- The answer to a look-up that fails. -/
def refused (cause : String) : (c : Membership.Call) → Membership.interface.Answer c
  | .service _ => .error cause
  | .slices _ => .error cause
  | .pod _ => .error cause

/-- Answers a look-up. -/
def lookUp (m : Members) (c : Membership.Call) : Membership.interface.Answer c :=
  match m.failures.get? (callText c) with
  | some cause => refused cause c
  | none => m.found c

/-- Answers a look-up and logs it. -/
def answer (m : Members) : Environment Membership.interface Log :=
  fun c log => (m.lookUp c, .membership c :: log)

end Members

/-- `Backend` resources, and the calls of the store that are to fail. -/
structure Backends where
  resources : Table Key Resource.Backend
  failures : Table String String

namespace Backends

/-- The name of a call that may fail. -/
def callName : Store.Call → String
  | .get _ => "get"
  | .addFinalizer _ => "add_finalizer"
  | .removeFinalizer _ => "remove_finalizer"
  | .patchStatus .. => "patch_status"
  | .publish .. => "event"

/-- Changes a resource that is there. -/
def change (s : Backends) (key : Key) (f : Resource.Backend → Option Resource.Backend) : Backends :=
  match s.resources.get? key with
  | none => s
  | some b =>
    match f b with
    | some b => { s with resources := s.resources.insert key b }
    | none => { s with resources := s.resources.erase key }

/-- The resource with other finalizers. -/
def withFinalizers (b : Resource.Backend) (finalizers : List String) : Resource.Backend :=
  { b with metadata := { b.metadata with finalizers := some finalizers } }

/-- The resource without the finalizer; it is gone if it is being deleted and has none left. -/
def released (b : Resource.Backend) : Option Resource.Backend :=
  let left := b.metadata.finalizerList.filter (· ≠ Resource.Backend.finalizer)
  if b.isDeleting && left.isEmpty then none else some (withFinalizers b left)

/-- Answers a call that does not fail. -/
def perform (s : Backends) : (c : Store.Call) → Store.interface.Answer c × Backends
  | .get key => (.ok (s.resources.get? key), s)
  | .addFinalizer b =>
    (.ok (), s.change b.metadata.key fun b =>
      some (withFinalizers b (b.metadata.finalizerList ++ [Resource.Backend.finalizer])))
  | .removeFinalizer b => (.ok (), s.change b.metadata.key released)
  | .patchStatus b status =>
    (.ok (), s.change b.metadata.key fun b => some { b with status := some status })
  | .publish .. => ((), s)

/-- The answer to a call that fails. -/
def refused (cause : String) : (c : Store.Call) → Store.interface.Answer c
  | .get _ => .error cause
  | .addFinalizer _ => .error cause
  | .removeFinalizer _ => .error cause
  | .patchStatus .. => .error cause
  | .publish .. => ()

/-- Answers a call. -/
def serve (s : Backends) (c : Store.Call) : Store.interface.Answer c × Backends :=
  match s.failures.get? (callName c) with
  | some cause => (refused cause c, s)
  | none => s.perform c

/-- Answers a call and logs it. -/
def answer : Environment Store.interface (Backends × Log) := fun c (s, log) =>
  let (a, s) := s.serve c
  (a, (s, .store c :: log))

end Backends
end ProxySync.Simulation
