import ProxySync.Json.Member
import ProxySync.Time.Timestamp
/-!
# Metadata of Kubernetes objects

Name, namespace, labels, finalizers and the other data that every Kubernetes object carries. A
deletion timestamp means that deletion has been requested; the object stays until no finalizer is
left.
-/
namespace ProxySync.Kube

/-- A reference to the object that owns another one. -/
structure OwnerReference where
  apiVersion : String
  kind : String
  name : String
  uid : String
  blockOwnerDeletion : Option Bool
  controller : Option Bool

/-- A note of who manages which fields of an object. -/
structure ManagedFields where
  apiVersion : Option String
  fieldsType : Option String
  fieldsV1 : Option Json
  manager : Option String
  operation : Option String
  subresource : Option String
  time : Option Timestamp

/-- Metadata of an object. -/
structure Meta where
  name : Option String := none
  ns : Option String := none
  generateName : Option String := none
  uid : Option String := none
  generation : Option Int64 := none
  labels : Option (Table String String) := none
  annotations : Option (Table String String) := none
  finalizers : Option (List String) := none
  creationTimestamp : Option Timestamp := none
  deletionTimestamp : Option Timestamp := none
  deletionGracePeriodSeconds : Option Int64 := none
  resourceVersion : Option String := none
  selfLink : Option String := none
  managedFields : Option (List ManagedFields) := none
  ownerReferences : Option (List OwnerReference) := none

/-- An instant in JSON. -/
private def timestamp? (j : Json) : Option Timestamp := j.text?.bind Timestamp.parse?

namespace OwnerReference

/-- Reads a reference; texts that are missing are empty. -/
def ofJson? (j : Json) : Option OwnerReference := do
  return {
    apiVersion := (← j.member? "apiVersion" Json.text?).getD ""
    kind := (← j.member? "kind" Json.text?).getD ""
    name := (← j.member? "name" Json.text?).getD ""
    uid := (← j.member? "uid" Json.text?).getD ""
    blockOwnerDeletion := ← j.member? "blockOwnerDeletion" Json.bool?
    controller := ← j.member? "controller" Json.bool? }

/-- Writes a reference. -/
def toJson (r : OwnerReference) : Json :=
  .ofFields
    [("apiVersion", some (.str r.apiVersion)),
      ("blockOwnerDeletion", r.blockOwnerDeletion.map .bool),
      ("controller", r.controller.map .bool), ("kind", some (.str r.kind)),
      ("name", some (.str r.name)), ("uid", some (.str r.uid))]

end OwnerReference

namespace ManagedFields

/-- Reads a note; what it says of fields may be anything. -/
def ofJson? (j : Json) : Option ManagedFields := do
  return {
    apiVersion := ← j.member? "apiVersion" Json.text?
    fieldsType := ← j.member? "fieldsType" Json.text?
    fieldsV1 := ← j.member? "fieldsV1" Json.held?
    manager := ← j.member? "manager" Json.text?
    operation := ← j.member? "operation" Json.text?
    subresource := ← j.member? "subresource" Json.text?
    time := ← j.member? "time" timestamp? }

/-- Writes a note. -/
def toJson (f : ManagedFields) : Json :=
  .ofFields
    [("apiVersion", f.apiVersion.map .str), ("fieldsType", f.fieldsType.map .str),
      ("fieldsV1", f.fieldsV1), ("manager", f.manager.map .str),
      ("operation", f.operation.map .str), ("subresource", f.subresource.map .str),
      ("time", f.time.map (.str ·.print))]

end ManagedFields

namespace Meta

/-- Metadata without any entry. -/
def empty : Meta := {}

/-- The name, or else the stem from which one is to be generated. -/
def nameOrStem (m : Meta) : String := (m.name.or m.generateName).getD ""

/-- The namespace; empty if there is none. -/
def nsText (m : Meta) : String := m.ns.getD ""

/-- The finalizers; none listed is an empty list. -/
def finalizerList (m : Meta) : List String := m.finalizers.getD []

/-- The value of a label. -/
def label? (m : Meta) (name : String) : Option String := m.labels.bind (·.get? name)

/-- Whether deletion has been requested. -/
def isDeleting (m : Meta) : Bool := m.deletionTimestamp.isSome

/-- The key of the object. -/
def key (m : Meta) : Key := { ns := m.nsText, name := m.nameOrStem }

/-- Reads metadata. -/
def ofJson? (j : Json) : Option Meta := do
  return {
    name := ← j.member? "name" Json.text?
    ns := ← j.member? "namespace" Json.text?
    generateName := ← j.member? "generateName" Json.text?
    uid := ← j.member? "uid" Json.text?
    generation := ← j.member? "generation" Json.int64?
    labels := ← j.member? "labels" Json.textTable?
    annotations := ← j.member? "annotations" Json.textTable?
    finalizers := ← j.member? "finalizers" (Json.list? Json.text?)
    creationTimestamp := ← j.member? "creationTimestamp" timestamp?
    deletionTimestamp := ← j.member? "deletionTimestamp" timestamp?
    deletionGracePeriodSeconds := ← j.member? "deletionGracePeriodSeconds" Json.int64?
    resourceVersion := ← j.member? "resourceVersion" Json.text?
    selfLink := ← j.member? "selfLink" Json.text?
    managedFields := ← j.member? "managedFields" (Json.list? ManagedFields.ofJson?)
    ownerReferences := ← j.member? "ownerReferences" (Json.list? OwnerReference.ofJson?) }

/-- Writes metadata; what has no value is left out. -/
def toJson (m : Meta) : Json :=
  .ofFields
    [("annotations", m.annotations.map .ofTextTable),
      ("creationTimestamp", m.creationTimestamp.map (.str ·.print)),
      ("deletionGracePeriodSeconds", m.deletionGracePeriodSeconds.map .ofInt64),
      ("deletionTimestamp", m.deletionTimestamp.map (.str ·.print)),
      ("finalizers", m.finalizers.map .ofTexts),
      ("generateName", m.generateName.map .str),
      ("generation", m.generation.map .ofInt64),
      ("labels", m.labels.map .ofTextTable),
      ("managedFields", m.managedFields.map fun fs => .arr (fs.map (·.toJson))),
      ("name", m.name.map .str),
      ("namespace", m.ns.map .str),
      ("ownerReferences", m.ownerReferences.map fun rs => .arr (rs.map (·.toJson))),
      ("resourceVersion", m.resourceVersion.map .str),
      ("selfLink", m.selfLink.map .str),
      ("uid", m.uid.map .str)]

end Meta
end ProxySync.Kube
