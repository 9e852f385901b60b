import ProxySync.Pass.Store
import ProxySync.Resolution
import ProxySync.ServiceIndex
import ProxySync.Session.Backends
import ProxySync.Validation
/-!
# Reconcile passes

One pass makes the Data Plane agree with one `Backend`: it reads the resource, validates and
resolves it and applies the result in one transaction, attaches the finalizer, and writes down what
came of it as a condition and an event. For a resource that is being deleted it removes the backend
and then the finalizer. The index of Services follows what the pass found.
-/
namespace ProxySync

/-- What a pass did. -/
inductive PassOutcome where
  /-- The resource no longer exists. -/
  | absent
  /-- The Data Plane agrees with the resource. -/
  | synced (report : SyncReport)
  /-- The backend was removed and the finalizer detached. -/
  | finalized
deriving DecidableEq

namespace PassOutcome

/-- The label under which a pass is counted. -/
def label : PassOutcome → String
  | .absent => "absent"
  | .synced _ => "synced"
  | .finalized => "finalized"

/-- Seconds until the next pass; none waits for a change. -/
def requeueAfter : PassOutcome → Option Nat
  | .synced _ => some 300
  | .absent => none
  | .finalized => none

end PassOutcome

/-- The label of a pass that may have failed. -/
def passLabel : Except PassError PassOutcome → String
  | .ok o => o.label
  | .error _ => "error"

namespace Pass

/-- What a pass asks of others. -/
inductive Call where
  | store (c : Store.Call)
  | membership (c : Membership.Call)
  | plane (c : DataPlane.Call)

/-- The partners of a pass. -/
def interface : Interface where
  Call := Call
  Answer
    | .store c => Store.interface.Answer c
    | .membership c => Membership.interface.Answer c
    | .plane c => DataPlane.interface.Answer c

/-- The store as a partner. -/
def viaStore : Embedding Store.interface interface where
  call := .store
  answer _ a := a

/-- The look-ups as a partner. -/
def viaMembership : Embedding Membership.interface interface where
  call := .membership
  answer _ a := a

/-- The Data Plane as a partner. -/
def viaPlane : Embedding DataPlane.interface interface where
  call := .plane
  answer _ a := a

end Pass

/-- A step of a pass; the index of Services is kept whether or not it fails. -/
abbrev PassM := ExceptT PassError (StateT ServiceIndex (Dialogue Pass.interface))

namespace Pass
variable {α : Type}

/-- Runs a step on an index. -/
def start (x : PassM α) (index : ServiceIndex) :
    Dialogue interface (Except PassError α × ServiceIndex) := x.run.run index

/-- Asks the store. -/
def ask (c : Store.Call) : PassM (Store.interface.Answer c) :=
  ExceptT.lift (StateT.lift (Dialogue.embed viaStore (Dialogue.call (I := Store.interface) c)))

/-- Resolves in the course of a pass. -/
def resolving (x : ResolutionM α) : PassM α :=
  ExceptT.mk (StateT.lift (Dialogue.embed viaMembership x.run))

/-- Runs a session of its own in the course of a pass. -/
def inSession (x : SessionM α) : PassM α :=
  ExceptT.mk do
    let (result, _) ← StateT.lift (Dialogue.embed viaPlane (SessionM.start x .fresh))
    return result.mapError .client

/-- Reads a resource. -/
def getBackend (key : Key) : PassM (Option Resource.Backend) := do
  match ← ask (.get key) with
  | .ok b => return b
  | .error cause => throw (.kubernetes cause)

/-- Forgets which Services a backend refers to. -/
def forget (key : Key) : PassM Unit := modify (·.remove key)

/-- Publishes an event. -/
def publish (b : Resource.Backend) (kind : EventKind) (reason message : String) : PassM Unit := do
  let _ ← ask (.publish b { kind, reason, message })
  return ()

/-- The only type of condition that is reported. -/
def conditionKind : String := "ReconcilingComplete"

/-- What a pass that agreed says of the resource. -/
def agreement (b : Resource.Backend) : Resource.Condition.Report :=
  let name := b.spec.name
  { kind := conditionKind, status := "True", reason := "ReconcileCompleted"
    message := s!"Backend {name} synchronized" }

/-- What a pass that failed says of the resource. -/
def failure (reason message : String) : Resource.Condition.Report :=
  { kind := conditionKind, status := "False", reason, message }

/-- The status that a report makes of the stored one. -/
def draft (now : String) (b : Resource.Backend) (r : Resource.Condition.Report) :
    Resource.StatusDraft :=
  ((Resource.StatusDraft.ofStored b.status).observe b.metadata.generation).put now r

/-- Writes a status where it says something new. -/
def writeStatus (b : Resource.Backend) (d : Resource.StatusDraft) : PassM Unit := do
  match d.pending with
  | none => return ()
  | some status =>
    match ← ask (.patchStatus b status) with
    | .ok _ => return ()
    | .error cause => throw (.kubernetes cause)

/-- Validates, resolves and applies a resource. -/
def synchronize (c : DataPlane.Client) (key : Key) (b : Resource.Backend) : PassM SyncReport := do
  match b.spec.validate key.ns with
  | .error e =>
    forget key
    throw e
  | .ok desired =>
    modify (·.update key desired.serviceKeys)
    let resolved ← resolving desired.resolve
    inSession (c.apply resolved)

/-- Attaches the finalizer unless it is there. -/
def attachFinalizer (b : Resource.Backend) : PassM Unit := do
  if b.hasFinalizer then return ()
  else match ← ask (.addFinalizer b) with
    | .ok _ => return ()
    | .error cause => throw (.addFinalizer cause)

/-- Synchronizes a resource and attaches the finalizer. -/
def settle (c : DataPlane.Client) (key : Key) (b : Resource.Backend) : PassM SyncReport := do
  let report ← synchronize c key b
  attachFinalizer b
  return report

/-- A pass over a resource that is to stay. The status is written whether or not the pass failed;
of two failures that of the pass is the one returned. -/
def sync (now : String) (c : DataPlane.Client) (key : Key) (b : Resource.Backend) :
    PassM PassOutcome := do
  match ← observing (settle c key b) with
  | .ok report =>
    if report.hasChanges then publish b .normal "Synced" report.summary
    writeStatus b (draft now b (agreement b))
    return .synced report
  | .error e =>
    publish b .warning e.reason e.conditionMessage
    tryCatch (writeStatus b (draft now b (failure e.reason e.conditionMessage))) fun _ => pure ()
    throw e
where
  /-- The result of a step as a value. -/
  observing {α : Type} (x : PassM α) : PassM (Except PassError α) :=
    tryCatch (Except.ok <$> x) fun e => return .error e

/-- Notes that a finalization failed; whether that can be noted does not matter. -/
def recordFailure (now : String) (b : Resource.Backend) (e : PassError)
    (eventReason message : String) : PassM Unit := do
  publish b .warning eventReason message
  tryCatch (writeStatus b (draft now b (failure e.reason message))) fun _ => pure ()

/-- Removes the backend of a resource that is being deleted. -/
def removeRemote (now : String) (c : DataPlane.Client) (b : Resource.Backend) : PassM Unit :=
  tryCatch (inSession (c.teardown b.spec.name)) fun e => do
    recordFailure now b e "TeardownFailed" ("teardown failed: " ++ e.conditionMessage)
    throw e

/-- Detaches the finalizer. -/
def detachFinalizer (now : String) (b : Resource.Backend) : PassM Unit := do
  match ← ask (.removeFinalizer b) with
  | .ok _ => return ()
  | .error cause =>
    let e : PassError := .removeFinalizer cause
    recordFailure now b e e.reason e.conditionMessage
    throw e

/-- A pass over a resource that is being deleted. -/
def finalize (now : String) (c : DataPlane.Client) (key : Key) (b : Resource.Backend) :
    PassM PassOutcome := do
  if b.hasFinalizer then
    removeRemote now c b
    detachFinalizer now b
    forget key
    let name := b.spec.name
    publish b .normal "Finalized" s!"HAProxy backend {name} deleted"
    return .finalized
  else
    forget key
    return .finalized

end Pass

/-- One pass over the resource of a key. -/
def reconcile (now : String) (c : DataPlane.Client) (key : Key) : PassM PassOutcome := do
  match ← Pass.getBackend key with
  | none =>
    Pass.forget key
    return .absent
  | some b => if b.isDeleting then Pass.finalize now c key b else Pass.sync now c key b

end ProxySync
