import ProxySync.Kube.Shape
/-!
# Shapes of what all kinds of objects share

Metadata of objects and of lists, references between objects, selectors by label and conditions.
-/
namespace ProxySync.Kube.Shape

/-- A reference to an owner. -/
def ownerReference : Shape :=
  .loose (members .text ["apiVersion", "kind", "name", "uid"] ++
    members .boolean ["blockOwnerDeletion", "controller"])

/-- A note of who manages which fields. -/
def managedFieldsEntry : Shape :=
  .loose (members .text ["apiVersion", "fieldsType", "manager", "operation", "subresource"] ++
    [("fieldsV1", .any), ("time", .instant)])

/-- The metadata of an object. -/
def objectMeta : Shape :=
  .loose (members .text ["generateName", "name", "namespace", "resourceVersion", "selfLink",
      "uid"] ++
    members .int64 ["deletionGracePeriodSeconds", "generation"] ++
    members .instant ["creationTimestamp", "deletionTimestamp"] ++
    members (.table .text) ["annotations", "labels"] ++
    [("finalizers", .list .text), ("managedFields", .list managedFieldsEntry),
      ("ownerReferences", .list ownerReference)])

/-- The metadata of a list. -/
def listMeta : Shape :=
  .loose (members .text ["continue", "resourceVersion", "selfLink"] ++
    [("remainingItemCount", .int64)])

/-- The name of another object in the same namespace. -/
def localObjectReference : Shape := .loose [("name", .text)]

/-- A requirement on a label or on a field. -/
def selectorRequirement : Shape :=
  .loose (members .text ["key", "operator"] ++ [("values", .list .text)])

/-- A selector by labels. -/
def labelSelector : Shape :=
  .loose [("matchExpressions", .list selectorRequirement), ("matchLabels", .table .text)]

/-- A condition, which has to say since when it holds. -/
def condition : Shape :=
  .record (members .text ["message", "reason", "status", "type"] ++
    [("lastTransitionTime", .instant), ("observedGeneration", .int64)]) ["lastTransitionTime"]

end ProxySync.Kube.Shape
