import ProxySync.Simulation.Log
import ProxySync.Simulation.Script
/-!
# A Kubernetes API server in memory

Objects as JSON under their paths. The server answers by its script, else it reads objects and
collections, applies merge patches and accepts events. A patch takes effect at once; an object that
is being deleted goes with its last finalizer.
-/
namespace ProxySync.Simulation

/-- An API server. -/
structure ApiServer where
  objects : Table String Json
  routes : List Route

namespace ApiServer

/-- The kinds of objects that are kept. -/
def keptKinds : List Kube.ObjectKind := [.backend, .service, .endpointSlice, .pod]

/-- The kind of an object. -/
def kindOf? (j : Json) : Option Kube.ObjectKind := do
  let word ← (← j.field? "kind").text?
  keptKinds.find? (·.text == word)

/-- A text in the metadata of an object; empty if it is missing. -/
def metaText (j : Json) (name : String) : String :=
  (((j.field? "metadata").bind (·.field? name)).bind Json.text?).getD ""

/-- The key of an object. -/
def keyOf (j : Json) : Key := { ns := metaText j "namespace", name := metaText j "name" }

/-- The object with its group and version filled in. -/
def filled (kind : Kube.ObjectKind) (j : Json) : Json :=
  match j with
  | .obj fields =>
    if (j.field? "apiVersion").isSome then j
    else .obj (("apiVersion", .str kind.apiVersion) :: fields)
  | j => j

/-- Keeps an object. -/
def put? (j : Json) (s : ApiServer) : Option ApiServer := do
  let kind ← kindOf? j
  return { s with objects := s.objects.insert (kind.path (keyOf j)) (filled kind j).sorted }

/-- Drops an object. -/
def delete? (j : Json) (s : ApiServer) : Option ApiServer := do
  let kind ← kindOf? j
  return { s with objects := s.objects.erase (kind.path (keyOf j)) }

/-- The fields of an object. -/
def fieldsOf : Json → List (String × Json)
  | .obj fields => fields
  | _ => []

mutual

/-- Merges a patch into a value: objects field by field, where null drops a field; anything else is
replaced. -/
def merge (target : Json) : Json → Json
  | .obj patch => .obj (mergeFields (fieldsOf target) patch)
  | j => j

/-- Merges the fields of a patch, in order. -/
def mergeFields (target : List (String × Json)) : List (String × Json) → List (String × Json)
  | [] => target
  | (k, .null) :: rest => mergeFields (target.filter (·.1 ≠ k)) rest
  | (k, j) :: rest =>
    let old := ((target.find? (·.1 == k)).map (·.2)).getD .null
    mergeFields (Json.putField k (merge old j) target) rest

end

/-- Whether an object has nothing that keeps it from going away. -/
def isGone (j : Json) : Bool :=
  let data := (j.field? "metadata").getD .null
  let deleting := match data.field? "deletionTimestamp" with
    | some .null => false
    | some _ => true
    | none => false
  let held := match data.field? "finalizers" with
    | some (.arr items) => !items.isEmpty
    | _ => false
  deleting && !held

/-- What the server says of what it does not have. -/
def notFound : Json :=
  .obj [("apiVersion", .str "v1"), ("kind", .str "Status"), ("status", .str "Failure"),
    ("message", .str "not found"), ("reason", .str "NotFound"), ("code", .int 404)]

/-- Whether an object carries the label that a selector asks for. -/
def selected (selector : Option String) (j : Json) : Bool :=
  match selector with
  | none => true
  | some s =>
    let cs := s.toList
    let key := String.ofList (cs.takeWhile (· ≠ '='))
    let value := String.ofList ((cs.dropWhile (· ≠ '=')).drop 1)
    (((j.field? "metadata").bind (·.field? "labels")).bind (·.field? key)).bind Json.text? ==
      some value

/-- The objects of a kind, in one namespace or in all, in the order of their paths. -/
def listed (s : ApiServer) (kind : Kube.ObjectKind) (ns : Option String)
    (selector : Option String) : List Json :=
  s.objects.values.filter fun j =>
    kindOf? j == some kind && ns.all (metaText j "namespace" == ·) && selected selector j

/-- The collection at a path. -/
def collection? (path : String) : Option (Kube.ObjectKind × Option String) :=
  keptKinds.findSome? fun kind =>
    if path = kind.collection none then some (kind, none)
    else
      let front := (kind.root ++ "/namespaces/").toList
      let back := ("/" ++ kind.plural).toList
      let cs := path.toList
      let middle := (cs.drop front.length).take (cs.length - front.length - back.length)
      if front ++ middle ++ back = cs && !middle.contains '/' then
        some (kind, some (String.ofList middle))
      else none

/-- A list as it is answered. -/
def listJson (kind : Kube.ObjectKind) (items : List Json) : Json :=
  .obj [("apiVersion", .str kind.apiVersion), ("kind", .str (kind.text ++ "List")),
    ("metadata", .obj []), ("items", .arr items)]

/-- The path of the object that a patch is for. -/
def patchedPath (path : String) : String :=
  let tail := "/status".toList
  let cs := path.toList
  let front := cs.take (cs.length - tail.length)
  if front ++ tail = cs then String.ofList front else path

/-- Applies a patch. -/
def patch (s : ApiServer) (path : String) (body : Json) : Nat × Json × ApiServer :=
  match s.objects.get? path with
  | none => (404, notFound, s)
  | some j =>
    let merged := merge j body
    let objects :=
      if isGone merged then s.objects.erase path else s.objects.insert path merged.sorted
    (200, merged, { s with objects })

/-- Answers a request that no route fits. -/
def perform (s : ApiServer) (r : Kube.ApiRequest) : Nat × Json × ApiServer :=
  match r.verb with
  | .get =>
    match s.objects.get? r.path with
    | some j => (200, j, s)
    | none =>
      match collection? r.path with
      | some (kind, ns) => (200, listJson kind (s.listed kind ns r.labelSelector), s)
      | none => (404, notFound, s)
  | .patch =>
    if (s.objects.get? r.path).isSome then s.patch r.path (r.body.getD .null)
    else s.patch (patchedPath r.path) (r.body.getD .null)
  | .post => (201, r.body.getD .null, s)

/-- Answers a request. -/
def respond (s : ApiServer) (r : Kube.ApiRequest) : Kube.ApiReply × ApiServer :=
  match matchRoute? r.verb.text r.path r.query s.routes with
  | some (route, routes) =>
    (if route.broken then .lost else .answered route.status route.bodyText, { s with routes })
  | none =>
    let (status, body, s) := s.perform r
    (.answered status body.print, s)

/-- Answers a request and logs it. -/
def answer : Environment Kube.interface (ApiServer × Log) := fun r (s, log) =>
  let (reply, s) := s.respond r
  (reply, (s, .kube r :: log))

end ApiServer
end ProxySync.Simulation
