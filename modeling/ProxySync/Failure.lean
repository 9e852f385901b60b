import ProxySync.Text.Quoted
/-!
# Failures

Two types of causes: `ClientError`, raised by the exchange with the Data Plane, and `PassError`,
which ends a reconcile pass. Each has one function per text that it shows: the message, the
category under which it is counted, the reason and the message of the condition written to the
resource. Transaction ids and the bodies of refusals stay out of the condition message where the
message has a form without them.
-/
namespace ProxySync

namespace Reason

/-- The reason and the message for a status with which the Data Plane refused a request. -/
def ofStatus (status : Nat) : String × String :=
  match status with
  | 400 => ("DataPlaneBadRequest", "Invalid request to Data Plane API (400)")
  | 401 => ("DataPlaneAuthFailed", "Data Plane API authentication required (401)")
  | 403 => ("DataPlaneAuthFailed", "Data Plane API authorization failed (403)")
  | 404 => ("DataPlaneNotFound", "Object or transaction not found in HAProxy (404)")
  | 406 => ("DataPlaneNotAcceptable", "HAProxy cannot apply the configuration (406)")
  | 409 => ("TransactionConflict", "Too many open transactions on the Data Plane API (409)")
  | 500 => ("DataPlaneInternalError", "Data Plane API internal error (500)")
  | 502 => ("GatewayError", "Bad gateway reaching the Data Plane API (502)")
  | 503 => ("GatewayError", "Data Plane API unavailable (503)")
  | 504 => ("GatewayError", "Gateway timeout reaching the Data Plane API (504)")
  | n => ("DataPlaneUnreachable", s!"Unexpected HTTP error from the Data Plane API ({n})")

/-- The reason and the message where no status was received. -/
def unreachable : String × String :=
  ("DataPlaneUnreachable", "Cannot connect to the Data Plane API (network error or timeout)")

end Reason

/-- A failure of the exchange with the Data Plane. -/
inductive ClientError where
  /-- An object of that name exists and belongs to somebody else. -/
  | notManaged (resource name : String)
  /-- The request was refused. -/
  | apiResponse (operation : String) (status : Nat) (body : String)
  /-- No transaction was granted. -/
  | transactionConflict
  /-- The commit was rejected with 400, 404 or 406. -/
  | commitRejected (id : String) (status : Nat) (why : String)
  /-- The transaction to discard is not known. -/
  | transactionNotFound (id : String)
  /-- The session already holds a transaction. -/
  | transactionAlreadyOpen (id : String)
  /-- The session holds no transaction. -/
  | noOpenTransaction
  /-- The body is not a configuration version. -/
  | versionParse (body : String)
  /-- The request was not sent or not answered. -/
  | transport (url cause : String)
  /-- The body of an accepted request is not what was asked for. -/
  | decode (what cause : String)
  /-- The address of the Data Plane is not a URL. -/
  | invalidUrl (url cause : String)
deriving DecidableEq

namespace ClientError

/-- The name of the kind of failure. -/
def kind : ClientError → String
  | .notManaged .. => "NotManaged"
  | .apiResponse .. => "ApiResponse"
  | .transactionConflict => "TransactionConflict"
  | .commitRejected .. => "CommitRejected"
  | .transactionNotFound .. => "TransactionNotFound"
  | .transactionAlreadyOpen .. => "TransactionAlreadyOpen"
  | .noOpenTransaction => "NoOpenTransaction"
  | .versionParse .. => "VersionParse"
  | .transport .. => "Transport"
  | .decode .. => "Decode"
  | .invalidUrl .. => "InvalidUrl"

/-- What went wrong, in full. -/
def message : ClientError → String
  | .notManaged resource name =>
    s!"{resource} \"{name}\" exists but is not managed by this operator"
  | .apiResponse operation status body =>
    s!"failed to {operation}, status: {status}, body: {body}"
  | .transactionConflict => "too many open transactions on the Data Plane API"
  | .commitRejected id status why =>
    s!"commit of transaction {id} rejected with status {status}: {why}"
  | .transactionNotFound id => s!"transaction {id} not found"
  | .transactionAlreadyOpen id => s!"transaction {id} is already open"
  | .noOpenTransaction => "no transaction is open"
  | .versionParse body =>
    "failed to parse configuration version from body " ++ Text.quoted body
  | .transport url cause => s!"request to {url} failed: {cause}"
  | .decode what cause => s!"failed to decode {what} response: {cause}"
  | .invalidUrl url cause => s!"invalid Data Plane API URL {url}: {cause}"

/-- The category under which it is counted. -/
def category : ClientError → String
  | .notManaged .. => "not_managed"
  | .apiResponse .. => "api_response"
  | .transactionConflict => "transaction_conflict"
  | .commitRejected .. => "commit_rejected"
  | .transactionNotFound .. => "transaction_not_found"
  | .transactionAlreadyOpen .. => "transaction_state"
  | .noOpenTransaction => "transaction_state"
  | .versionParse .. => "version_parse"
  | .transport .. => "transport"
  | .decode .. => "decode"
  | .invalidUrl .. => "invalid_url"

/-- The reason of the condition. -/
def reason : ClientError → String
  | .notManaged .. => "NotManaged"
  | .transactionConflict => "TransactionConflict"
  | .apiResponse _ status _ => (Reason.ofStatus status).1
  | .commitRejected _ status _ => (Reason.ofStatus status).1
  | .transport .. => Reason.unreachable.1
  | _ => "HAProxyClientError"

/-- The message of the condition. -/
def conditionMessage : ClientError → String
  | .apiResponse operation status _ => s!"failed to {operation}: " ++ (Reason.ofStatus status).2
  | .commitRejected _ status why => s!"commit rejected with status {status}: {why}"
  | .transactionNotFound _ => "transaction not found on the Data Plane API"
  | .transactionAlreadyOpen _ => "a transaction is already open on this session"
  | .transport .. => Reason.unreachable.2
  | e => e.message

end ClientError

/-- A failure that ends a reconcile pass. -/
inductive PassError where
  /-- The specification is malformed. -/
  | validation (message : String)
  /-- A referenced Service does not exist. -/
  | serviceNotFound (ns name : String)
  /-- A referenced Service has no EndpointSlices. -/
  | endpointsNotFound (ns name : String)
  /-- No endpoint of a referenced Service can be used. -/
  | noUsableEndpoints (ns name : String)
  /-- A look-up for a referenced Service failed. -/
  | membershipLookup (what cause : String)
  /-- The exchange with the Data Plane failed. -/
  | client (e : ClientError)
  /-- Attaching the finalizer failed. -/
  | addFinalizer (cause : String)
  /-- Detaching the finalizer failed. -/
  | removeFinalizer (cause : String)
  /-- Another call to Kubernetes failed. -/
  | kubernetes (cause : String)
deriving DecidableEq

namespace PassError

/-- The name of the kind of failure. -/
def kind : PassError → String
  | .validation .. => "Validation"
  | .serviceNotFound .. => "ServiceNotFound"
  | .endpointsNotFound .. => "EndpointsNotFound"
  | .noUsableEndpoints .. => "NoUsableEndpoints"
  | .membershipLookup .. => "MembershipLookup"
  | .client e => e.kind
  | .addFinalizer .. => "AddFinalizer"
  | .removeFinalizer .. => "RemoveFinalizer"
  | .kubernetes .. => "Kubernetes"

/-- What went wrong, in full. -/
def message : PassError → String
  | .validation message => s!"invalid Backend spec: {message}"
  | .serviceNotFound ns name => s!"referenced Service {ns}/{name} not found"
  | .endpointsNotFound ns name => s!"no EndpointSlices found for Service {ns}/{name}"
  | .noUsableEndpoints ns name => s!"Service {ns}/{name} has no usable endpoints"
  | .membershipLookup what cause => s!"failed to look up {what}: {cause}"
  | .client e => e.message
  | .addFinalizer cause => s!"failed to add finalizer: {cause}"
  | .removeFinalizer cause => s!"failed to remove finalizer: {cause}"
  | .kubernetes cause => s!"Kubernetes API call failed: {cause}"

/-- The category of the failure. -/
def category : PassError → String
  | .validation .. => "validation"
  | .serviceNotFound .. => "membership"
  | .endpointsNotFound .. => "membership"
  | .noUsableEndpoints .. => "membership"
  | .membershipLookup .. => "membership"
  | .client e => e.category
  | .addFinalizer .. => "kubernetes"
  | .removeFinalizer .. => "kubernetes"
  | .kubernetes .. => "kubernetes"

/-- The reason of the condition. -/
def reason : PassError → String
  | .validation .. => "ValidationError"
  | .serviceNotFound .. => "ServiceNotFound"
  | .endpointsNotFound .. => "EndpointsNotFound"
  | .noUsableEndpoints .. => "NoUsableEndpoints"
  | .membershipLookup .. => "EndpointsListError"
  | .client e => e.reason
  | .addFinalizer .. => "AddFinalizerFailed"
  | .removeFinalizer .. => "RemoveFinalizerFailed"
  | .kubernetes .. => "KubernetesApiError"

/-- The message of the condition. -/
def conditionMessage : PassError → String
  | .client e => e.conditionMessage
  | e => e.message

/-- Whether only a change of the resource or of the remote side can help. -/
def needsIntervention : PassError → Bool
  | .validation _ => true
  | .client (.notManaged ..) => true
  | _ => false

/-- Whether the Data Plane granted no transaction. -/
def isConflict : PassError → Bool
  | .client .transactionConflict => true
  | _ => false

/-- Seconds until the pass is tried again; none waits for a change of the resource. -/
def requeueAfter (e : PassError) : Option Nat :=
  if e.needsIntervention then none else if e.isConflict then some 5 else some 30

end PassError
end ProxySync
