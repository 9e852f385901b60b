import ProxySync.Resource.Backend
/-!
# Events

A remark on a `Backend` that Kubernetes shows beside the resource.
-/
namespace ProxySync

/-- The weight of an event. -/
inductive EventKind where
  | normal | warning
deriving DecidableEq

/-- The word for it. -/
def EventKind.text : EventKind → String
  | .normal => "Normal"
  | .warning => "Warning"

/-- What an event says. -/
structure Remark where
  kind : EventKind
  reason : String
  message : String
deriving DecidableEq

namespace Kube

/-- The Event object for a remark on a `Backend`, seen once at the given time. -/
def eventJson (now : String) (b : Resource.Backend) (r : Remark) : Json :=
  let ns := b.metadata.nsText
  let name := b.metadata.nameOrStem
  .ofFields
    [("apiVersion", some (.str "v1")), ("kind", some (.str "Event")),
      ("metadata", some (.obj [("generateName", .str (name ++ "-")), ("namespace", .str ns)])),
      ("involvedObject", some (.ofFields
        [("apiVersion", some (.str Resource.Backend.apiVersion)),
          ("kind", some (.str Resource.Backend.kind)), ("name", some (.str name)),
          ("namespace", some (.str ns)), ("uid", b.metadata.uid.map .str)])),
      ("reason", some (.str r.reason)), ("message", some (.str r.message)),
      ("type", some (.str r.kind.text)), ("firstTimestamp", some (.str now)),
      ("lastTimestamp", some (.str now)), ("count", some (.int 1))]

end Kube
end ProxySync
