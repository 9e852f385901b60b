import ProxySync.Kube.Meta
import ProxySync.Resource.Condition
import ProxySync.Resource.Spec
/-!
# The `Backend` resource

A namespaced Kubernetes object that asks for one backend section. The program guards it with a
finalizer, so that the section can be removed before the object goes away.
-/
namespace ProxySync.Resource

/-- A `Backend` resource. -/
structure Backend where
  metadata : Kube.Meta
  spec : Spec
  status : Option Status

namespace Backend

/-- The API group and version of the resource. -/
def apiVersion : String := "haproxy.firestoned.io/v1alpha1"

/-- The kind of the resource. -/
def kind : String := "Backend"

/-- The finalizer that keeps the resource until its section is removed. -/
def finalizer : String := "haproxy.firestoned.io/finalizer"

/-- Whether deletion has been requested. -/
def isDeleting (b : Backend) : Bool := b.metadata.isDeleting

/-- Whether the finalizer is attached. -/
def hasFinalizer (b : Backend) : Bool := b.metadata.finalizerList.any (· == finalizer)

/-- Reads a resource; its kind and version are not looked at. -/
def ofJson? (j : Json) : Option Backend := do
  let r ← j.record? ["metadata", "spec", "status"]
  return {
    metadata := ← r.required "metadata" Kube.Meta.ofJson?
    spec := ← r.required "spec" Spec.ofJson?
    status := ← r.optionalReached "status" Status.ofJson? }

/-- Writes a resource. -/
def toJson (b : Backend) : Json :=
  .ofFields
    [("apiVersion", some (.str apiVersion)), ("kind", some (.str kind)),
      ("metadata", some b.metadata.toJson), ("spec", some b.spec.toJson),
      ("status", b.status.map (·.toJson))]

end Backend
end ProxySync.Resource
