import ProxySync.Json.Record
import ProxySync.Resource.Words
/-!
# The specification of a `Backend`

What a `Backend` resource asks for: one backend section with its health checks and member servers.
A server entry is meant to be static, with a name and an address, or to stand for the ready
endpoints of a Service; that it is one of the two is checked later, not by the types.
-/
namespace ProxySync.Resource

/-- Reference to a Service whose ready endpoints become servers. -/
structure ServiceRef where
  /-- Namespace of the Service; that of the `Backend` if unset. -/
  ns : Option String
  name : String
  /-- Port number or port name, for an entry without a port of its own. -/
  port : Option String
deriving DecidableEq

/-- Source of dynamically resolved servers. -/
structure ValueFrom where
  serviceRef : Option ServiceRef
deriving DecidableEq

/-- One entry of the server list. -/
structure ServerSpec where
  name : Option String
  address : Option String
  port : Option Int64
  id : Option Int64
  check : Option CheckMode
  valueFrom : Option ValueFrom
deriving DecidableEq

/-- A header sent by an http-check step. -/
structure HeaderSpec where
  name : String
  fmt : String
deriving DecidableEq

/-- One http-check step. Steps run in the order in which they are listed. -/
structure CheckSpec where
  kind : StepKind
  method : Option HttpVerb
  uri : Option String
  headers : List HeaderSpec
deriving DecidableEq

/-- The specification of a `Backend`. -/
structure Spec where
  /-- Name of the backend section. -/
  name : String
  mode : Option ProxyMode
  balance : Option Algorithm
  advCheck : Option AdvancedCheck
  servers : List ServerSpec
  httpChecks : List CheckSpec
deriving DecidableEq

namespace ServiceRef

/-- Writes a reference. -/
def toJson (s : ServiceRef) : Json :=
  .ofFields
    [("namespace", s.ns.map .str), ("name", some (.str s.name)), ("port", s.port.map .str)]

/-- Reads a reference. -/
def ofJson? (j : Json) : Option ServiceRef := do
  let r ← j.record? ["namespace", "name", "port"]
  return {
    ns := ← r.optional "namespace" Json.text?
    name := ← r.required "name" Json.text?
    port := ← r.optional "port" Json.text? }

end ServiceRef

namespace ValueFrom

/-- Writes a source. -/
def toJson (v : ValueFrom) : Json :=
  .ofFields [("serviceRef", v.serviceRef.map (·.toJson))]

/-- Reads a source. -/
def ofJson? (j : Json) : Option ValueFrom := do
  let r ← j.record? ["serviceRef"]
  return { serviceRef := ← r.optional "serviceRef" ServiceRef.ofJson? }

end ValueFrom

namespace ServerSpec

/-- Writes a server entry. -/
def toJson (s : ServerSpec) : Json :=
  .ofFields
    [("name", s.name.map .str), ("address", s.address.map .str), ("port", s.port.map .ofInt64),
      ("id", s.id.map .ofInt64), ("check", s.check.map (.str ·.text)),
      ("valueFrom", s.valueFrom.map (·.toJson))]

/-- Reads a server entry. -/
def ofJson? (j : Json) : Option ServerSpec := do
  let r ← j.record? ["name", "address", "port", "id", "check", "valueFrom"]
  return {
    name := ← r.optional "name" Json.text?
    address := ← r.optional "address" Json.text?
    port := ← r.optional "port" Json.int64?
    id := ← r.optional "id" Json.int64?
    check := ← r.optional "check" (Json.word? CheckMode.ofText?)
    valueFrom := ← r.optional "valueFrom" ValueFrom.ofJson? }

end ServerSpec

namespace HeaderSpec

/-- Writes a header. -/
def toJson (h : HeaderSpec) : Json := .obj [("name", .str h.name), ("fmt", .str h.fmt)]

/-- Reads a header. -/
def ofJson? (j : Json) : Option HeaderSpec := do
  let r ← j.record? ["name", "fmt"]
  return { name := ← r.required "name" Json.text?, fmt := ← r.required "fmt" Json.text? }

end HeaderSpec

namespace CheckSpec

/-- Writes a step; an empty list of headers is left out. -/
def toJson (c : CheckSpec) : Json :=
  .ofFields
    [("type", some (.str c.kind.text)), ("method", c.method.map (.str ·.text)),
      ("uri", c.uri.map .str),
      ("headers", if c.headers.isEmpty then none else some (.arr (c.headers.map (·.toJson))))]

/-- Reads a step. -/
def ofJson? (j : Json) : Option CheckSpec := do
  let r ← j.record? ["type", "method", "uri", "headers"]
  return {
    kind := ← r.required "type" (Json.word? StepKind.ofText?)
    method := ← r.optional "method" (Json.word? HttpVerb.ofText?)
    uri := ← r.optional "uri" Json.text?
    headers := ← r.defaulted "headers" [] (Json.list? HeaderSpec.ofJson?) }

end CheckSpec

namespace Spec

/-- Writes balance settings, whose algorithm is never unset. -/
def balanceToJson (a : Algorithm) : Json := .obj [("algorithm", .str a.text)]

/-- Reads balance settings. -/
def balanceOfJson? (j : Json) : Option Algorithm := do
  let r ← j.record? ["algorithm"]
  r.required "algorithm" (Json.word? Algorithm.ofText?)

/-- Writes a specification; its lists are written even where they are empty. -/
def toJson (s : Spec) : Json :=
  .ofFields
    [("name", some (.str s.name)), ("mode", s.mode.map (.str ·.text)),
      ("balance", s.balance.map balanceToJson), ("advCheck", s.advCheck.map (.str ·.text)),
      ("servers", some (.arr (s.servers.map (·.toJson)))),
      ("httpCheckList", some (.arr (s.httpChecks.map (·.toJson))))]

/-- Reads a specification. -/
def ofJson? (j : Json) : Option Spec := do
  let r ← j.record? ["name", "mode", "balance", "advCheck", "servers", "httpCheckList"]
  return {
    name := ← r.required "name" Json.text?
    mode := ← r.optional "mode" (Json.word? ProxyMode.ofText?)
    balance := ← r.optional "balance" balanceOfJson?
    advCheck := ← r.optional "advCheck" (Json.word? AdvancedCheck.ofText?)
    servers := ← r.defaulted "servers" [] (Json.list? ServerSpec.ofJson?)
    httpChecks := ← r.defaulted "httpCheckList" [] (Json.list? CheckSpec.ofJson?) }

end Spec
end ProxySync.Resource
