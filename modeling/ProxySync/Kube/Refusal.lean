import ProxySync.Json.Reader
import ProxySync.Json.Record
import ProxySync.Kube.Shape.Meta
/-!
# Refusals

What the Kubernetes API says when it refuses a request: a status with a reason, a code, a message
and details. A text that is no such status gives no reason.
-/
namespace ProxySync.Kube

/-- A refusal. -/
structure Refusal where
  code : Nat
  reason : String
  message : String

namespace Refusal

/-- Whether a status says how it went; it need not. -/
inductive Summary where
  | success | failure
deriving DecidableEq

/-- A summary by its word. -/
def Summary.ofText? : String → Option Summary
  | "Success" => some .success
  | "Failure" => some .failure
  | _ => none

/-- Reads a record of texts that may be missing, but not null. -/
def texts? (names : List String) (j : Json) : Option Unit := do
  let r ← j.record? names
  let _ ← names.mapM fun name => r.defaulted name "" Json.text?
  return ()

/-- Reads the details of a refusal. Nothing is done with them. -/
def details? (j : Json) : Option Unit := do
  let names := ["name", "group", "kind", "uid"]
  let r ← j.record? (names ++ ["causes", "retryAfterSeconds"])
  let _ ← names.mapM fun name => r.defaulted name "" Json.text?
  let _ ← r.defaulted "causes" [] (Json.list? (texts? ["reason", "message", "field"]))
  let _ ← r.defaulted "retryAfterSeconds" 0 (Json.natUpTo? 0xffffffff)
  return ()

/-- Reads a refusal. -/
def ofJson? (j : Json) : Option Refusal := do
  let r ← j.record? ["status", "code", "message", "reason", "details", "metadata"]
  let _ ← r.optional "status" (Json.word? Summary.ofText?)
  let _ ← r.optional "details" details?
  let _ ← r.optional "metadata" Shape.listMeta.read?
  return {
    code := ← r.defaulted "code" 0 (Json.natUpTo? 65535)
    reason := ← r.defaulted "reason" "" Json.text?
    message := ← r.defaulted "message" "" Json.text? }

/-- Whether a body says that the object does not exist. Only the reason counts. -/
def isNotFound (body : String) : Bool :=
  ((Json.parse? body).bind ofJson?).any (·.reason == "NotFound")

end Refusal
end ProxySync.Kube
