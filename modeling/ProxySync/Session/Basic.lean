import ProxySync.Change
import ProxySync.DataPlane.Client
import ProxySync.DataPlane.Version
import ProxySync.Wire.Codec
/-!
# Sessions

A session is a sequence of exchanges with a Data Plane that share at most one open transaction. It
remembers the transaction and whether anything has been written in it. While a transaction is open
every configuration request carries its id; otherwise the current version is read first and the
request carries that.

Every failure is counted once, where it is raised, and every accepted write is counted and makes
the session dirty.
-/
namespace ProxySync

/-- What a session remembers. -/
structure Session where
  transaction : Option Wire.Transaction
  dirty : Bool
deriving DecidableEq

/-- A session that has done nothing yet. -/
def Session.fresh : Session := { transaction := none, dirty := false }

/-- A step of a session: it may fail, which leaves what has been remembered so far. -/
abbrev SessionM := ExceptT ClientError (StateT Session (Dialogue DataPlane.interface))

namespace SessionM
variable {α : Type}

/-- Runs a step in a session. -/
def start (x : SessionM α) (s : Session) :
    Dialogue DataPlane.interface (Except ClientError α × Session) := x.run.run s

/-- Notes a measurement. -/
def measure (m : Measurement) : SessionM Unit :=
  ExceptT.lift (StateT.lift (Dialogue.call (I := DataPlane.interface) (.measure m)))

/-- Makes one request. -/
def request (r : DataPlane.Request) : SessionM DataPlane.Reply :=
  ExceptT.lift (StateT.lift (Dialogue.call (I := DataPlane.interface) (.request r)))

/-- Counts a failure and stops. -/
def fail (e : ClientError) : SessionM α := do
  measure (.failure e.category)
  throw e

/-- Counts an accepted write and makes the session dirty. -/
def markDirty (resource operation : String) : SessionM Unit := do
  modify fun s => { s with dirty := true }
  measure (.write resource operation)

end SessionM

/-- A status with a body. -/
structure Response where
  status : Nat
  body : String
deriving DecidableEq

namespace Response

/-- Whether the request was accepted. -/
def isSuccess (r : Response) : Bool := DataPlane.isSuccess r.status

end Response

namespace DataPlane.Client
variable {α : Type}

/-- Makes one request; no answer is a failure. -/
def send (c : Client) (method : Method) (endpoint : Endpoint) (body : Option Json) :
    SessionM Response := do
  match ← SessionM.request { method, endpoint, body } with
  | .answered status body => return { status, body }
  | .lost cause => SessionM.fail (.transport (c.shownAddress endpoint) cause)

/-- The failure of a request that was refused. -/
def refused (operation : String) (r : Response) : SessionM α :=
  SessionM.fail (.apiResponse operation r.status r.body)

/-- Reads the body of an accepted request. -/
def decode (c : Client) (what : String) (read : Json → Option α) (r : Response) : SessionM α :=
  match (Json.parse? r.body).bind read with
  | some a => return a
  | none => SessionM.fail (.decode what (c.jsonDetail what r.body))

/-- The place of the version. -/
def versionEndpoint : Endpoint :=
  { area := .configuration, segments := ["version"], query := [] }

/-- Reads the current version of the configuration. -/
def version (c : Client) : SessionM Int64 := do
  let r ← c.send .get versionEndpoint none
  if r.isSuccess then
    match version? r.body with
    | some v => return v
    | none => SessionM.fail (.versionParse (Text.trim r.body))
  else refused "get configuration version" r

/-- The parameter that scopes the next configuration request. -/
def scope (c : Client) : SessionM (String × String) := do
  match (← get).transaction with
  | some t => return ("transaction_id", t.id)
  | none =>
    let v ← c.version
    return ("version", toString v.toInt)

/-- A configuration request, scoped. -/
def configure (c : Client) (method : Method) (segments : List String) (body : Option Json) :
    SessionM Response := do
  let parameter ← c.scope
  c.send method { area := .configuration, segments, query := [parameter] } body

/-- Reads one object; 404 means that there is none. -/
def find? (c : Client) (segments : List String) (operation what : String)
    (read : Json → Option α) : SessionM (Option α) := do
  let r ← c.configure .get segments none
  if r.status = 404 then return none
  else if r.isSuccess then return some (← c.decode what read r)
  else refused operation r

/-- Reads a list of objects. -/
def list (c : Client) (segments : List String) (operation what : String)
    (read : Json → Option α) : SessionM (List α) := do
  let r ← c.configure .get segments none
  if r.isSuccess then c.decode what (Json.list? read) r
  else refused operation r

/-- Writes an object, which makes the session dirty. -/
def write (c : Client) (method : Method) (segments : List String) (body : Json)
    (operation resource change : String) : SessionM Unit := do
  let r ← c.configure method segments (some body)
  if r.isSuccess then SessionM.markDirty resource change
  else refused operation r

/-- Deletes an object. That it is gone already is no failure. -/
def delete (c : Client) (segments : List String) (operation resource : String) :
    SessionM Change := do
  let r ← c.configure .delete segments none
  if r.status = 404 then return .unchanged
  else if r.status = 200 ∨ r.status = 202 ∨ r.status = 204 then
    SessionM.markDirty resource "delete"
    return .deleted
  else if r.isSuccess then return .unchanged
  else refused operation r

end DataPlane.Client
end ProxySync
