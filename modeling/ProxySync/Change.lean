/-!
# What a synchronization changed

One step creates, updates or deletes an object or finds nothing to do. A report gathers the steps
of one backend: its definition, its check list and the names of the servers touched.
-/
namespace ProxySync

/-- The outcome of one step. -/
inductive Change where
  | created | updated | deleted | unchanged
deriving DecidableEq

namespace Change

/-- The word for it. -/
def text : Change → String
  | .created => "Created"
  | .updated => "Updated"
  | .deleted => "Deleted"
  | .unchanged => "Unchanged"

/-- The one of that word. -/
def ofText? (s : String) : Option Change :=
  [.created, .updated, .deleted, .unchanged].find? (·.text == s)

/-- Whether something was written. -/
def isWrite (c : Change) : Bool := c != .unchanged

end Change

/-- The names of the servers touched, in the order of the writes. -/
structure ServerReport where
  created : List String
  updated : List String
  deleted : List String
deriving DecidableEq

namespace ServerReport

/-- No server touched. -/
def empty : ServerReport := { created := [], updated := [], deleted := [] }

/-- Whether any server was written. -/
def hasChanges (r : ServerReport) : Bool :=
  !(r.created.isEmpty && r.updated.isEmpty && r.deleted.isEmpty)

/-- Notes what became of one server. -/
def note (name : String) (r : ServerReport) : Change → ServerReport
  | .created => { r with created := r.created ++ [name] }
  | .updated => { r with updated := r.updated ++ [name] }
  | .deleted => { r with deleted := r.deleted ++ [name] }
  | .unchanged => r

end ServerReport

/-- Everything that the synchronization of one backend changed. -/
structure SyncReport where
  backend : Change
  httpChecks : Change
  servers : ServerReport
deriving DecidableEq

namespace SyncReport

/-- Whether anything was written. -/
def hasChanges (r : SyncReport) : Bool :=
  r.backend.isWrite || r.httpChecks.isWrite || r.servers.hasChanges

/-- One line for people, used in events. -/
def summary (r : SyncReport) : String :=
  let created := r.servers.created.length
  let updated := r.servers.updated.length
  let deleted := r.servers.deleted.length
  let backend := r.backend.text
  let checks := r.httpChecks.text
  s!"backend {backend}, http checks {checks}, servers created {created}, " ++
    s!"updated {updated}, deleted {deleted}"

end SyncReport
end ProxySync
