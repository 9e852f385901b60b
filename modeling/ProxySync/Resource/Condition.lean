import ProxySync.Json.Record
/-!
# Conditions and the status of a `Backend`

A status is a list of conditions and the generation last acted on. A condition is put under its
type: the first of that type is changed in place, and a new type goes to the end. The transition
time moves only when the status of the condition does.
-/
namespace ProxySync.Resource

/-- One observation of a resource's state. -/
structure Condition where
  kind : String
  /-- `True`, `False` or `Unknown`. -/
  status : String
  reason : Option String
  message : Option String
  lastTransitionTime : Option String
deriving DecidableEq

/-- What has been observed of a `Backend`. -/
structure Status where
  conditions : List Condition
  observedGeneration : Option Int64
deriving DecidableEq

namespace Condition

/-- Writes a condition. -/
def toJson (c : Condition) : Json :=
  .ofFields
    [("type", some (.str c.kind)), ("status", some (.str c.status)), ("reason", c.reason.map .str),
      ("message", c.message.map .str), ("lastTransitionTime", c.lastTransitionTime.map .str)]

/-- Reads a condition. -/
def ofJson? (j : Json) : Option Condition := do
  let r ← j.record? ["type", "status", "reason", "message", "lastTransitionTime"]
  return {
    kind := ← r.required "type" Json.text?
    status := ← r.required "status" Json.text?
    reason := ← r.optionalReached "reason" Json.text?
    message := ← r.optionalReached "message" Json.text?
    lastTransitionTime := ← r.optionalReached "lastTransitionTime" Json.text? }

/-- What a pass says about one type of condition. -/
structure Report where
  kind : String
  status : String
  reason : String
  message : String
deriving DecidableEq

/-- The condition that a report makes where there was none. -/
def ofReport (now : String) (r : Report) : Condition :=
  { kind := r.kind, status := r.status, reason := some r.reason, message := some r.message
    lastTransitionTime := some now }

/-- The condition with the report written over it. The transition time stays if there is one and
the status is the same. -/
def revise (now : String) (r : Report) (c : Condition) : Condition :=
  { c with
    status := r.status, reason := some r.reason, message := some r.message
    lastTransitionTime :=
      some (if c.status = r.status then c.lastTransitionTime.getD now else now) }

/-- Whether two conditions agree on all but the transition time. -/
def agrees (a b : Condition) : Bool :=
  a.kind == b.kind && a.status == b.status && a.reason == b.reason && a.message == b.message

end Condition

namespace Conditions

/-- The first condition of a type. -/
def find? (cs : List Condition) (kind : String) : Option Condition := cs.find? (·.kind == kind)

/-- Puts a report under its type. -/
def put (now : String) (r : Condition.Report) : List Condition → List Condition
  | [] => [.ofReport now r]
  | c :: cs => if c.kind = r.kind then c.revise now r :: cs else c :: put now r cs

/-- Whether a condition is new or says something else than the one that stands. -/
def changed (existing : Option Condition) (c : Condition) : Bool :=
  match existing with
  | none => true
  | some current => !current.agrees c

/-- Whether two lists are equally long and every condition of the second agrees with the first of
its type in the first. -/
def same (current new : List Condition) : Bool :=
  current.length == new.length && new.all fun c => !changed (find? current c.kind) c

end Conditions

namespace Status

/-- The status before anything has been observed. -/
def empty : Status := { conditions := [], observedGeneration := none }

/-- Writes a status. -/
def toJson (s : Status) : Json :=
  .ofFields
    [("conditions", some (.arr (s.conditions.map (·.toJson)))),
      ("observedGeneration", s.observedGeneration.map .ofInt64)]

/-- Reads a status. -/
def ofJson? (j : Json) : Option Status := do
  let r ← j.record? ["conditions", "observedGeneration"]
  return {
    conditions := ← r.defaulted "conditions" [] (Json.list? Condition.ofJson?)
    observedGeneration := ← r.optionalReached "observedGeneration" Json.int64? }

end Status

/-- A status being revised: the one stored, and the one to store. -/
structure StatusDraft where
  stored : Option Status
  current : Status
deriving DecidableEq

namespace StatusDraft

/-- The draft that changes nothing yet. -/
def ofStored (stored : Option Status) : StatusDraft :=
  { stored, current := stored.getD .empty }

/-- Puts a report under its type. -/
def put (now : String) (r : Condition.Report) (d : StatusDraft) : StatusDraft :=
  { d with current := { d.current with conditions := Conditions.put now r d.current.conditions } }

/-- Notes the generation acted on. -/
def observe (generation : Option Int64) (d : StatusDraft) : StatusDraft :=
  { d with current := { d.current with observedGeneration := generation } }

/-- Whether the draft differs from what is stored by more than transition times. -/
def hasChanges (d : StatusDraft) : Bool :=
  match d.stored with
  | none => true
  | some s =>
    s.observedGeneration != d.current.observedGeneration ||
      !Conditions.same s.conditions d.current.conditions

/-- The status to write, if anything changed. -/
def pending (d : StatusDraft) : Option Status := if d.hasChanges then some d.current else none

end StatusDraft
end ProxySync.Resource
