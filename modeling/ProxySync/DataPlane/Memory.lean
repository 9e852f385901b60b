import ProxySync.DataPlane.Client
import ProxySync.Text.Numeral
/-!
# A Data Plane in memory

The Data Plane as far as this program relies on it. Opening a transaction stages a copy of the
committed configuration, requests with its id work on the copy, a commit makes the copy the
committed configuration and adds one to the version, and a discard forgets it. Without a
transaction a write has to name the current version. Objects are kept as the JSON that was sent.
-/
namespace ProxySync.DataPlane

/-- A configuration. -/
structure Configuration where
  backends : Table String Json
  /-- The servers of a backend; a backend without a list has none to talk about. -/
  servers : Table String (List Json)
  httpChecks : Table String Json

/-- The configuration of nothing. -/
def Configuration.empty : Configuration :=
  { backends := .empty, servers := .empty, httpChecks := .empty }

/-- A Data Plane. -/
structure Memory where
  version : Int
  maxTransactions : Nat
  /-- Whether the version is answered as a record. -/
  versionAsRecord : Bool
  /-- How many transactions have been opened so far. -/
  opened : Nat
  staged : Table String Configuration
  committed : Configuration

/-- A status with the JSON of a body, if there is one. -/
structure Answer where
  status : Nat
  body : Option Json

namespace Answer

/-- An answer without a body. -/
def bare (status : Nat) : Answer := { status, body := none }

/-- An answer with a body. -/
def json (status : Nat) (body : Json) : Answer := { status, body := some body }

/-- A refusal with a message. -/
def refusal (status : Nat) (message : String) : Answer :=
  .json status (.obj [("code", .int status), ("message", .str message)])

/-- What was asked for does not exist. -/
def notFound : Answer := .refusal 404 "not found"

/-- The text of the body; objects have their fields sorted. -/
def bodyText (a : Answer) : String := (a.body.map (·.sorted.print)).getD ""

end Answer

namespace Memory

/-- A transaction as it is answered. -/
def transactionJson (id : String) (version : Int) (status : String) : Json :=
  .obj [("id", .str id), ("_version", .int version), ("status", .str status)]

/-- The first value of a query parameter. -/
def parameter? (query : String) (name : String) : Option String :=
  ((Form.decodeAll query.toList).find? (·.1 == name)).map (·.2)

/-- Whether the query names the current version. -/
def namesVersion (m : Memory) (query : String) : Bool :=
  ((parameter? query "version").bind Numeral.int64?).map (·.toInt) == some m.version

/-- A version that is not the current one. -/
def mismatch : Answer := .refusal 409 "version mismatch"

/-- Requests on transactions. -/
def onTransactions (m : Memory) (method : Method) (path : List String) (query : String) :
    Answer × Memory :=
  match method, path with
  | .post, [] =>
    if m.maxTransactions ≤ m.staged.size then (.refusal 409 "too many open transactions", m)
    else if !m.namesVersion query then (mismatch, m)
    else
      let id := "tx-" ++ toString (m.opened + 1)
      (.json 201 (transactionJson id m.version "in_progress"),
        { m with opened := m.opened + 1, staged := m.staged.insert id m.committed })
  | .put, [id] =>
    match m.staged.get? id with
    | none => (.notFound, m)
    | some c =>
      (.json 202 (transactionJson id (m.version + 1) "success"),
        { m with version := m.version + 1, staged := m.staged.erase id, committed := c })
  | .delete, [id] =>
    match m.staged.get? id with
    | none => (.notFound, m)
    | some _ => (.bare 204, { m with staged := m.staged.erase id })
  | _, _ => (.bare 405, m)

/-- The name of an object; empty if it has none. -/
def nameOf (j : Json) : String := ((j.field? "name").bind Json.text?).getD ""

/-- Whether an object is called that. -/
def isNamed (name : String) (j : Json) : Bool := (j.field? "name").bind Json.text? == some name

/-- Puts an object in place of the first that is called that, if there is one. -/
def replaceFirst? (name : String) (body : Json) : List Json → Option (List Json)
  | [] => none
  | j :: js =>
    if isNamed name j then some (body :: js) else (replaceFirst? name body js).map (j :: ·)

/-- Requests on the backend sections themselves. -/
def onBackends (c : Configuration) (method : Method) (name : Option String) (body : Json) :
    Answer × Configuration :=
  match method, name with
  | .get, none => (.json 200 (.arr c.backends.values), c)
  | .post, none =>
    if c.backends.contains (nameOf body) then (.bare 409, c)
    else
      (.json 201 body,
        { c with
          backends := c.backends.insert (nameOf body) body
          servers := c.servers.insert (nameOf body) [] })
  | .get, some b =>
    match c.backends.get? b with
    | none => (.notFound, c)
    | some j => (.json 200 j, c)
  | .put, some b =>
    if c.backends.contains b then (.json 200 body, { c with backends := c.backends.insert b body })
    else (.notFound, c)
  | .delete, some b =>
    if c.backends.contains b then
      (.bare 204,
        { backends := c.backends.erase b, servers := c.servers.erase b
          httpChecks := c.httpChecks.erase b })
    else (.notFound, c)
  | _, _ => (.bare 405, c)

/-- Requests on the check list of a backend. -/
def onChecks (c : Configuration) (method : Method) (b : String) (body : Json) :
    Answer × Configuration :=
  match method with
  | .get =>
    if c.backends.contains b then (.json 200 ((c.httpChecks.get? b).getD (.arr [])), c)
    else (.notFound, c)
  | .put =>
    if c.backends.contains b then
      (.json 202 body, { c with httpChecks := c.httpChecks.insert b body })
    else (.notFound, c)
  | _ => (.bare 405, c)

/-- Requests on the servers of a backend. -/
def onServers (c : Configuration) (method : Method) (b : String) (name : Option String)
    (body : Json) : Answer × Configuration :=
  let put (js : List Json) : Configuration := { c with servers := c.servers.insert b js }
  match method, name, c.servers.get? b with
  | .get, none, some js => (.json 200 (.arr js), c)
  | .post, none, some js => (.json 201 body, put (js ++ [body]))
  | .get, some s, some js =>
    match js.find? (isNamed s) with
    | none => (.notFound, c)
    | some j => (.json 200 j, c)
  | .put, some s, some js =>
    match replaceFirst? s body js with
    | none => (.notFound, c)
    | some js => (.json 200 body, put js)
  | .delete, some s, some js =>
    if js.any (isNamed s) then (.bare 204, put (js.filter (! isNamed s ·))) else (.notFound, c)
  | .get, none, none => (.notFound, c)
  | .post, none, none => (.notFound, c)
  | .get, some _, none => (.notFound, c)
  | .put, some _, none => (.notFound, c)
  | .delete, some _, none => (.notFound, c)
  | _, _, _ => (.bare 405, c)

/-- Requests on one configuration. -/
def onConfiguration (c : Configuration) (method : Method) (path : List String) (body : Json) :
    Answer × Configuration :=
  match path with
  | ["backends"] => onBackends c method none body
  | ["backends", b] => onBackends c method (some b) body
  | ["backends", b, "http_checks"] => onChecks c method b body
  | ["backends", b, "servers"] => onServers c method b none body
  | ["backends", b, "servers", s] => onServers c method b (some s) body
  | _ => (.bare 405, c)

/-- The version as it is answered. -/
def versionJson (m : Memory) : Json :=
  if m.versionAsRecord then .obj [("_version", .int m.version)] else .int m.version

/-- Requests on the configuration area: on the copy of a transaction, or on what is committed. -/
def onArea (m : Memory) (method : Method) (path : List String) (query : String) (body : Json) :
    Answer × Memory :=
  if method = .get ∧ path = ["version"] then (.json 200 m.versionJson, m)
  else match parameter? query "transaction_id" with
    | some id =>
      match m.staged.get? id with
      | none => (.notFound, m)
      | some c =>
        let (a, c) := onConfiguration c method path body
        (a, { m with staged := m.staged.insert id c })
    | none =>
      if method ≠ .get ∧ !m.namesVersion query then (mismatch, m)
      else
        let (a, c) := onConfiguration m.committed method path body
        (a, { m with committed := c })

/-- The names below an area, decoded; empty segments do not count. -/
def below? (area : Area) (path : Net.UrlPath) : Option (List String) :=
  match path with
  | .flat _ => none
  | .segments ss =>
    if area.path.isPrefixOf ss then
      some (((ss.drop area.path.length).filter (· ≠ "")).map fun s => Percent.decode s.toList)
    else none

/-- Answers a request, if it is for one of the areas. -/
def respond? (m : Memory) (r : WireRequest) : Option (Answer × Memory) :=
  match below? .transactions r.url.path, below? .configuration r.url.path with
  | some path, _ => some (m.onTransactions r.method path r.query)
  | none, some path => some (m.onArea r.method path r.query (r.body.getD .null))
  | none, none => none

end Memory
end ProxySync.DataPlane
