import ProxySync.Failure
import ProxySync.Proofs.Text.Quoted
/-!
# Failures that are alike

The message of the condition is to be the same when a failure comes back, so that the status is not
written anew. What differs from one time to the next are the ids of transactions and the bodies of
answers. The message leaves them out, with two exceptions: it quotes a body that is not a
configuration version, and of a body that is not the object that was asked for it shows what the
reader of JSON says.

## Main definitions

* `ClientError.Alike`, `PassError.Alike`: failures that differ in nothing but ids and bodies.
* `ClientError.shownBody?`, `PassError.shownBody?`: what the message shows of a body.

## Main statements

* `PassError.Alike.conditionMessage_iff`: the messages of two such failures are the same just if
  they show the same of the bodies.
-/
namespace ProxySync

namespace ClientError

/-- Failures of one kind that agree on everything except the ids of transactions and the bodies of
answers. The address of a request that was lost may name the transaction, and what is said of a body
that cannot be read as what was asked for depends on the body. -/
inductive Alike : ClientError → ClientError → Prop
  | notManaged (resource name : String) :
    Alike (.notManaged resource name) (.notManaged resource name)
  | apiResponse (operation : String) (status : Nat) (body body' : String) :
    Alike (.apiResponse operation status body) (.apiResponse operation status body')
  | transactionConflict : Alike .transactionConflict .transactionConflict
  | commitRejected (id id' : String) (status : Nat) (why : String) :
    Alike (.commitRejected id status why) (.commitRejected id' status why)
  | transactionNotFound (id id' : String) :
    Alike (.transactionNotFound id) (.transactionNotFound id')
  | transactionAlreadyOpen (id id' : String) :
    Alike (.transactionAlreadyOpen id) (.transactionAlreadyOpen id')
  | noOpenTransaction : Alike .noOpenTransaction .noOpenTransaction
  | versionParse (body body' : String) : Alike (.versionParse body) (.versionParse body')
  | transport (url url' cause : String) : Alike (.transport url cause) (.transport url' cause)
  | decode (what cause cause' : String) : Alike (.decode what cause) (.decode what cause')
  | invalidUrl (url cause : String) : Alike (.invalidUrl url cause) (.invalidUrl url cause)

/-- What is shown of a body: the body itself where a configuration version was expected, and what
the reader of JSON says of it where an object was. -/
def shownBody? : ClientError → Option String
  | .versionParse body => some body
  | .decode _ cause => some cause
  | _ => none

variable {e e' : ClientError}

theorem Alike.reason_eq (h : e.Alike e') : e.reason = e'.reason := by
  cases h <;> rfl

/-- Failures that are alike have the same message, unless they show something else of the
bodies. -/
theorem Alike.conditionMessage_iff (h : e.Alike e') :
    e.conditionMessage = e'.conditionMessage ↔ e.shownBody? = e'.shownBody? := by
  cases h with
  | versionParse body body' =>
    refine ⟨fun hsame => ?_, fun hbody => by rw [Option.some.inj hbody]⟩
    exact congrArg some (Text.quoted_injective (String.append_right_inj _ |>.1 hsame))
  | decode what cause cause' =>
    refine ⟨fun hsame => ?_, fun hbody => by rw [Option.some.inj hbody]⟩
    exact congrArg some (String.append_right_inj _ |>.1 hsame)
  | notManaged | apiResponse | transactionConflict | commitRejected | transactionNotFound
  | transactionAlreadyOpen | noOpenTransaction | transport | invalidUrl =>
    exact iff_of_true rfl rfl

end ClientError

namespace PassError

/-- Failures of a pass that differ in nothing but ids and bodies. -/
inductive Alike : PassError → PassError → Prop
  | client {d d' : ClientError} (h : d.Alike d') : Alike (.client d) (.client d')
  | same (e : PassError) : Alike e e

/-- What is shown of the body of an answer. -/
def shownBody? : PassError → Option String
  | .client d => d.shownBody?
  | _ => none

/-- Whether the exchange with the Data Plane failed. -/
def isClient : PassError → Bool
  | .client _ => true
  | _ => false

/-- Kubernetes failed, in a call other than for the finalizer. -/
def IsKubernetes (e : PassError) : Prop := ∃ cause, e = .kubernetes cause

variable {e e' : PassError}

theorem Alike.reason_eq (h : e.Alike e') : e.reason = e'.reason := by
  cases h with
  | client h => exact h.reason_eq
  | same => rfl

theorem Alike.isClient_eq (h : e.Alike e') : e.isClient = e'.isClient := by
  cases h <;> rfl

theorem Alike.isKubernetes_iff (h : e.Alike e') : e.IsKubernetes ↔ e'.IsKubernetes := by
  cases h with
  | client => exact iff_of_false nofun nofun
  | same => rfl

/-- Failures that are alike have the same message, unless they show something else of the
bodies. -/
theorem Alike.conditionMessage_iff (h : e.Alike e') :
    e.conditionMessage = e'.conditionMessage ↔ e.shownBody? = e'.shownBody? := by
  cases h with
  | client h => exact h.conditionMessage_iff
  | same => exact iff_of_true rfl rfl

end PassError
end ProxySync
