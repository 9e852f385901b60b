import ProxySync.Session.Basic
/-!
# Transactions of a session

Opening, committing and discarding. A session commits when it is closed dirty and discards
otherwise, so that a pass which changed nothing leaves the running proxy alone.
-/
namespace ProxySync

/-- How a transaction ended. -/
inductive Closing where
  | committed (t : Wire.Transaction)
  | discarded
deriving DecidableEq

namespace DataPlane.Client
variable {α : Type}

/-- Opens a transaction on the current version. -/
def openTransaction (c : Client) : SessionM Wire.Transaction := do
  match (← get).transaction with
  | some t => SessionM.fail (.transactionAlreadyOpen t.id)
  | none =>
    let v ← c.version
    let r ← c.send .post
      { area := .transactions, segments := [], query := [("version", toString v.toInt)] } none
    if r.status = 409 then SessionM.fail .transactionConflict
    else if r.isSuccess then
      let t ← c.decode "transaction" Wire.Transaction.ofJson? r
      set { transaction := some t, dirty := false : Session }
      return t
    else refused "open transaction" r

/-- The transaction that a commit reports; where the body tells none, the one committed. -/
def committed (t : Wire.Transaction) (body : String) : Wire.Transaction :=
  ((Json.parse? body).bind Wire.Transaction.ofJson?).getD { t with status := "success" }

/-- Commits the open transaction. After 404 there is nothing left to discard. -/
def commit (c : Client) : SessionM Wire.Transaction := do
  match (← get).transaction with
  | none => SessionM.fail .noOpenTransaction
  | some t =>
    let reload := if c.forceReload then "true" else "false"
    let r ← c.send .put
      { area := .transactions, segments := [t.id], query := [("force_reload", reload)] } none
    if r.status = 400 then SessionM.fail (.commitRejected t.id 400 "bad request")
    else if r.status = 404 then
      modify fun s => { s with transaction := none }
      SessionM.fail (.commitRejected t.id 404 "transaction not found")
    else if r.status = 406 then
      SessionM.fail (.commitRejected t.id 406 "configuration cannot be handled")
    else if r.isSuccess then
      set Session.fresh
      SessionM.measure (.write "transaction" "commit")
      return committed t r.body
    else refused "commit transaction" r

/-- Deletes the open transaction. The session forgets it whatever comes of that. -/
def discard (c : Client) : SessionM Unit := do
  match (← get).transaction with
  | none => SessionM.fail .noOpenTransaction
  | some t =>
    set Session.fresh
    let r ← c.send .delete { area := .transactions, segments := [t.id], query := [] } none
    if r.status = 404 then SessionM.fail (.transactionNotFound t.id)
    else if r.isSuccess then SessionM.measure (.write "transaction" "discard")
    else refused "discard transaction" r

/-- Commits if anything was written and discards otherwise. -/
def close (c : Client) : SessionM Closing := do
  let s ← get
  if s.transaction.isNone then SessionM.fail .noOpenTransaction
  else if s.dirty then return .committed (← c.commit)
  else
    c.discard
    return .discarded

/-- Discards what is open, if anything is; a failure of that is let pass. -/
def abort (c : Client) : SessionM Unit := do
  if (← get).transaction.isSome then tryCatch c.discard fun _ => pure ()

/-- A step after whose failure the transaction is discarded. The failure stays that of the step. -/
def orAbort (c : Client) (x : SessionM α) : SessionM α :=
  tryCatch x fun e => do
    c.abort
    throw e

end DataPlane.Client
end ProxySync
