import ProxySync.Kube.Meta
import ProxySync.Kube.Shape.Pod
import ProxySync.Kube.Shape.Service
/-!
# Services, Pods and EndpointSlices

The objects from which the members of a Service are found. A Service is only asked for its
existence; an EndpointSlice lists endpoints and ports; a Pod decides whether an endpoint that
targets it is live. What nobody asks for has to be of its shape all the same.
-/
namespace ProxySync.Kube

/-- Whether an object, as far as it says, is of the given version and kind. -/
def hasType (version kind : String) (j : Json) : Bool :=
  j.memberIs "apiVersion" version && j.memberIs "kind" kind

/-- A Service. -/
structure Service where
  metadata : Meta

/-- A condition of a Pod. -/
structure PodCondition where
  kind : String
  status : String

/-- What has been observed of a Pod. -/
structure PodStatus where
  phase : Option String
  conditions : Option (List PodCondition)

/-- A Pod. -/
structure Pod where
  metadata : Meta
  status : Option PodStatus

/-- What an endpoint stands for. -/
structure TargetRef where
  apiVersion : Option String
  fieldPath : Option String
  kind : Option String
  name : Option String
  ns : Option String
  resourceVersion : Option String
  uid : Option String

/-- The state of an endpoint. -/
structure EndpointConditions where
  ready : Option Bool
  serving : Option Bool
  terminating : Option Bool

/-- An endpoint of a Service. -/
structure Endpoint where
  addresses : List String
  conditions : Option EndpointConditions
  deprecatedTopology : Option (Table String String)
  /-- Zones for which the endpoint is meant. -/
  zoneHints : Option (Option (List String))
  hostname : Option String
  nodeName : Option String
  targetRef : Option TargetRef
  zone : Option String

/-- A port of an EndpointSlice. -/
structure EndpointPort where
  appProtocol : Option String
  name : Option String
  /-- A 32-bit number. -/
  port : Option Int
  protocol : Option String

/-- Endpoints and ports of a Service. -/
structure EndpointSlice where
  metadata : Meta
  addressType : String
  endpoints : List Endpoint
  ports : Option (List EndpointPort)

namespace Service

/-- Reads a Service. -/
def ofJson? (j : Json) : Option Service := do
  if !hasType "v1" "Service" j then none
  let _ ← j.member? "spec" Shape.serviceSpec.read?
  let _ ← j.member? "status" Shape.serviceStatus.read?
  return { metadata := (← j.member? "metadata" Meta.ofJson?).getD .empty }

end Service

namespace Pod

/-- Reads a condition. -/
def conditionOfJson? (j : Json) : Option PodCondition := do
  return {
    kind := (← j.member? "type" Json.text?).getD ""
    status := (← j.member? "status" Json.text?).getD "" }

/-- Reads a status. -/
def statusOfJson? (j : Json) : Option PodStatus := do
  let j ← Shape.podStatus.read? j
  return {
    phase := ← j.member? "phase" Json.text?
    conditions := ← j.member? "conditions" (Json.list? conditionOfJson?) }

/-- Reads a Pod. -/
def ofJson? (j : Json) : Option Pod := do
  if !hasType "v1" "Pod" j then none
  let _ ← j.member? "spec" Shape.podSpec.read?
  return {
    metadata := (← j.member? "metadata" Meta.ofJson?).getD .empty
    status := ← j.member? "status" statusOfJson? }

/-- Whether the Pod is running, ready and not being deleted. -/
def isLive (p : Pod) : Bool :=
  !p.metadata.isDeleting &&
    match p.status with
    | none => false
    | some s => s.phase == some "Running" &&
      (s.conditions.getD []).any fun c => c.kind == "Ready" && c.status == "True"

end Pod

namespace TargetRef

/-- Reads a target. -/
def ofJson? (j : Json) : Option TargetRef := do
  return {
    apiVersion := ← j.member? "apiVersion" Json.text?
    fieldPath := ← j.member? "fieldPath" Json.text?
    kind := ← j.member? "kind" Json.text?
    name := ← j.member? "name" Json.text?
    ns := ← j.member? "namespace" Json.text?
    resourceVersion := ← j.member? "resourceVersion" Json.text?
    uid := ← j.member? "uid" Json.text? }

/-- Writes a target. -/
def toJson (t : TargetRef) : Json :=
  .ofFields
    [("apiVersion", t.apiVersion.map .str), ("fieldPath", t.fieldPath.map .str),
      ("kind", t.kind.map .str), ("name", t.name.map .str), ("namespace", t.ns.map .str),
      ("resourceVersion", t.resourceVersion.map .str), ("uid", t.uid.map .str)]

end TargetRef

namespace EndpointConditions

/-- Reads the state of an endpoint. -/
def ofJson? (j : Json) : Option EndpointConditions := do
  return {
    ready := ← j.member? "ready" Json.bool?
    serving := ← j.member? "serving" Json.bool?
    terminating := ← j.member? "terminating" Json.bool? }

/-- Writes the state of an endpoint. -/
def toJson (c : EndpointConditions) : Json :=
  .ofFields
    [("ready", c.ready.map .bool), ("serving", c.serving.map .bool),
      ("terminating", c.terminating.map .bool)]

end EndpointConditions

namespace Endpoint

/-- Reads a zone hint. -/
def zoneOfJson? (j : Json) : Option String := do
  return (← j.member? "name" Json.text?).getD ""

/-- Reads an endpoint. -/
def ofJson? (j : Json) : Option Endpoint := do
  return {
    addresses := (← j.member? "addresses" (Json.list? Json.text?)).getD []
    conditions := ← j.member? "conditions" EndpointConditions.ofJson?
    deprecatedTopology := ← j.member? "deprecatedTopology" Json.textTable?
    zoneHints := ← j.member? "hints" fun h => h.member? "forZones" (Json.list? zoneOfJson?)
    hostname := ← j.member? "hostname" Json.text?
    nodeName := ← j.member? "nodeName" Json.text?
    targetRef := ← j.member? "targetRef" TargetRef.ofJson?
    zone := ← j.member? "zone" Json.text? }

/-- Writes the zones for which an endpoint is meant. -/
def hintsToJson (zones : Option (List String)) : Json :=
  .ofFields [("forZones", zones.map fun zs => .arr (zs.map fun z => .obj [("name", .str z)]))]

/-- Writes an endpoint. -/
def toJson (e : Endpoint) : Json :=
  .ofFields
    [("addresses", some (.ofTexts e.addresses)), ("conditions", e.conditions.map (·.toJson)),
      ("deprecatedTopology", e.deprecatedTopology.map .ofTextTable),
      ("hints", e.zoneHints.map hintsToJson), ("hostname", e.hostname.map .str),
      ("nodeName", e.nodeName.map .str), ("targetRef", e.targetRef.map (·.toJson)),
      ("zone", e.zone.map .str)]

end Endpoint

namespace EndpointPort

/-- A 32-bit number with a sign. -/
def int32? : Json → Option Int
  | .int n => if -0x80000000 ≤ n ∧ n < 0x80000000 then some n else none
  | _ => none

/-- Reads a port. -/
def ofJson? (j : Json) : Option EndpointPort := do
  return {
    appProtocol := ← j.member? "appProtocol" Json.text?
    name := ← j.member? "name" Json.text?
    port := ← j.member? "port" int32?
    protocol := ← j.member? "protocol" Json.text? }

/-- Writes a port. -/
def toJson (p : EndpointPort) : Json :=
  .ofFields
    [("appProtocol", p.appProtocol.map .str), ("name", p.name.map .str), ("port", p.port.map .int),
      ("protocol", p.protocol.map .str)]

end EndpointPort

namespace EndpointSlice

/-- The label by which a slice names its Service. -/
def serviceLabel : String := "kubernetes.io/service-name"

/-- Reads a slice. -/
def ofJson? (j : Json) : Option EndpointSlice := do
  if !hasType "discovery.k8s.io/v1" "EndpointSlice" j then none
  return {
    metadata := (← j.member? "metadata" Meta.ofJson?).getD .empty
    addressType := (← j.member? "addressType" Json.text?).getD ""
    endpoints := (← j.member? "endpoints" (Json.list? Endpoint.ofJson?)).getD []
    ports := ← j.member? "ports" (Json.list? EndpointPort.ofJson?) }

/-- Writes a slice. -/
def toJson (s : EndpointSlice) : Json :=
  .ofFields
    [("apiVersion", some (.str "discovery.k8s.io/v1")), ("kind", some (.str "EndpointSlice")),
      ("metadata", some s.metadata.toJson), ("addressType", some (.str s.addressType)),
      ("endpoints", some (.arr (s.endpoints.map (·.toJson)))),
      ("ports", s.ports.map fun ps => .arr (ps.map (·.toJson)))]

end EndpointSlice
end ProxySync.Kube
