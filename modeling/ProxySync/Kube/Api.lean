import ProxySync.Json.Printer
import ProxySync.Json.Reader
import ProxySync.Finalizers
import ProxySync.Kube.Refusal
import ProxySync.Pass.Store
import ProxySync.Resolution
/-!
# The Kubernetes API

How the store of `Backend` resources and the look-ups are served by the Kubernetes API. Objects are
addressed by group and version, namespace and name; what is changed is sent as a JSON merge patch.
Names go into the path as they are.

* `Kube.store`: each call of the store as requests to the API.
* `Kube.membership`: each look-up as a request to the API.
-/
namespace ProxySync.Kube

/-- The kinds of objects in use. -/
inductive ObjectKind where
  | backend | service | endpointSlice | pod | event
deriving DecidableEq

namespace ObjectKind

/-- The word for it. -/
def text : ObjectKind → String
  | .backend => "Backend"
  | .service => "Service"
  | .endpointSlice => "EndpointSlice"
  | .pod => "Pod"
  | .event => "Event"

/-- The group and version of the objects. -/
def apiVersion : ObjectKind → String
  | .backend => Resource.Backend.apiVersion
  | .endpointSlice => "discovery.k8s.io/v1"
  | _ => "v1"

/-- The name of the collection. -/
def plural : ObjectKind → String
  | .backend => "backends"
  | .service => "services"
  | .endpointSlice => "endpointslices"
  | .pod => "pods"
  | .event => "events"

/-- The path below which the objects are found. -/
def root (k : ObjectKind) : String :=
  match k with
  | .backend => "/apis/" ++ k.apiVersion
  | .endpointSlice => "/apis/" ++ k.apiVersion
  | _ => "/api/v1"

/-- The path of a collection, in one namespace or in all. -/
def collection (k : ObjectKind) (ns : Option String) : String :=
  match ns with
  | some ns => k.root ++ "/namespaces/" ++ ns ++ "/" ++ k.plural
  | none => k.root ++ "/" ++ k.plural

/-- The path of an object. -/
def path (k : ObjectKind) (key : Key) : String := k.collection (some key.ns) ++ "/" ++ key.name

end ObjectKind

/-- The verbs in use. -/
inductive Verb where
  | get | post | patch
deriving DecidableEq

/-- The written form of a verb. -/
def Verb.text : Verb → String
  | .get => "GET"
  | .post => "POST"
  | .patch => "PATCH"

/-- A request to the API. -/
structure ApiRequest where
  verb : Verb
  path : String
  watch : Bool := false
  labelSelector : Option String := none
  body : Option Json := none

/-- The answer of the API. -/
inductive ApiReply where
  | answered (status : Nat) (body : String)
  | lost
deriving DecidableEq

/-- The API. -/
def interface : Interface where
  Call := ApiRequest
  Answer _ := ApiReply

/-- The query of a request, not encoded; empty if there is none. -/
def ApiRequest.query (r : ApiRequest) : String :=
  "&".intercalate
    ((if r.watch then ["watch=true"] else []) ++
      (r.labelSelector.map ("labelSelector=" ++ ·)).toList)

/-- The request as it is written down. -/
def ApiRequest.text (r : ApiRequest) : String :=
  r.verb.text ++ " " ++ r.path ++ (if r.query = "" then "" else "?" ++ r.query)

/-- What a failed call to Kubernetes says; the detail is not part of this program's text. -/
def failure : String := "<kube-error>"

/-- A character that no path may hold. -/
def isInvalidInPath (c : Char) : Bool := c.toNat < 0x21 || c ∈ ['<', '>', '\x60']

/-- The part of a path before a query or fragment that a name brings along. -/
def cutPath (path : String) : String :=
  String.ofList (path.toList.takeWhile fun c => c ≠ '?' && c ≠ '#')

/-- Makes a request, unless its path cannot be written. -/
def send (r : ApiRequest) : Dialogue interface (Option ApiReply) :=
  if (cutPath r.path).toList.any isInvalidInPath then return none
  else some <$> Dialogue.call (I := interface) { r with path := cutPath r.path }

/-- Whether a status code means that the API refuses the request. -/
def isRefused (status : Nat) : Bool := 400 ≤ status && status < 600

/-- Reads the body of an accepted request. -/
def decode {α : Type} (read : Json → Option α) : Option ApiReply → Except String α
  | some (.answered status body) =>
    if isRefused status then .error failure
    else
      match (Json.parse? body).bind read with
      | some a => .ok a
      | none => .error failure
  | _ => .error failure

/-- Reads an object that need not exist. -/
def getObject {α : Type} (kind : ObjectKind) (read : Json → Option α) (key : Key) :
    Dialogue interface (Except String (Option α)) := do
  if key.name = "" then return .error failure
  else
    let reply ← send { verb := .get, path := kind.path key }
    match reply with
    | some (.answered status body) =>
      if isRefused status && Refusal.isNotFound body then return .ok none
      else return (decode read reply).map some
    | _ => return .error failure

/-- Reads the items of a list. It needs its items, of which null means none; its metadata has to be
of its shape, and what it has beside them has to be well-formed. -/
def itemsOf? {α : Type} (read : Json → Option α) (j : Json) : Option (List α) := do
  match j with
  | .obj fields =>
    let r ← j.record? ["items", "metadata"]
    let _ ← r.defaulted "metadata" .null Shape.listMeta.read?
    if Json.haveWellFormed (fields.filter fun f => f.1 ≠ "items") then
      return (← r.required "items" (Json.unlessNull (Json.list? read))).getD []
    else none
  | _ => none

/-- Changes a `Backend` by a merge patch. -/
def patchBackend (b : Resource.Backend) (below : String) (patch : Json) :
    Dialogue interface (Except String Unit) := do
  if b.metadata.nameOrStem = "" then return .error failure
  else
    let reply ← send
      { verb := .patch, path := ObjectKind.backend.path b.metadata.key ++ below
        body := some patch }
    return (decode Resource.Backend.ofJson? reply).map fun _ => ()

/-- The patch that replaces the list of finalizers. -/
def finalizersPatch (finalizers : List String) : Json :=
  .obj [("metadata", .obj [("finalizers", .ofTexts finalizers)])]

/-- Adds a finalizer unless the resource as read has it. -/
def ensureFinalizer (b : Resource.Backend) (finalizer : String) :
    Dialogue interface (Except String Unit) :=
  match Finalizers.adding? b.metadata.finalizerList finalizer with
  | none => return .ok ()
  | some list => patchBackend b "" (finalizersPatch list)

/-- Removes a finalizer if the resource as read has it. -/
def removeFinalizer (b : Resource.Backend) (finalizer : String) :
    Dialogue interface (Except String Unit) :=
  match Finalizers.removing? b.metadata.finalizerList finalizer with
  | none => return .ok ()
  | some list => patchBackend b "" (finalizersPatch list)

/-- Publishes an event. -/
def publish (now : String) (b : Resource.Backend) (r : Remark) : Dialogue interface Unit := do
  let _ ← send
    { verb := .post, path := ObjectKind.event.collection (some b.metadata.nsText)
      body := some (eventJson now b r) }
  return ()

/-- Each call of the store as requests to the API. -/
def store (now : String) : (c : Store.Call) → Dialogue interface (Store.interface.Answer c)
  | .get key => getObject .backend Resource.Backend.ofJson? key
  | .addFinalizer b => ensureFinalizer b Resource.Backend.finalizer
  | .removeFinalizer b => removeFinalizer b Resource.Backend.finalizer
  | .patchStatus b status => patchBackend b "/status" (.obj [("status", status.toJson)])
  | .publish b remark => publish now b remark

/-- Each look-up as a request to the API. -/
def membership : (c : Membership.Call) → Dialogue interface (Membership.interface.Answer c)
  | .service key => getObject .service Service.ofJson? key
  | .slices service => do
    let reply ← send
      { verb := .get, path := ObjectKind.endpointSlice.collection (some service.ns)
        labelSelector := some (EndpointSlice.serviceLabel ++ "=" ++ service.name) }
    return decode (itemsOf? EndpointSlice.ofJson?) reply
  | .pod key => getObject .pod Pod.ofJson? key

end ProxySync.Kube
