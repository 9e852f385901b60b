import ProxySync.Json.Record
import ProxySync.Wire.Objects
/-!
# Data Plane objects in JSON

How each object is written and read. Unset optional fields are left out, as is an empty list of
check headers; a header is written with both its fields even where they are unset.
-/
namespace ProxySync.Wire

namespace Balance

/-- Writes balance settings. -/
def toJson (b : Balance) : Json := .ofFields [("algorithm", b.algorithm.map .str)]

/-- Reads balance settings. -/
def ofJson? (j : Json) : Option Balance := do
  let r ← j.record? ["algorithm"]
  return { algorithm := ← r.optional "algorithm" Json.text? }

end Balance

namespace Backend

/-- Writes a backend section. -/
def toJson (b : Backend) : Json :=
  .ofFields
    [("name", some (.str b.name)), ("mode", b.mode.map .str), ("balance", b.balance.map (·.toJson)),
      ("adv_check", b.advCheck.map .str), ("description", b.description.map .str)]

/-- Reads a backend section. -/
def ofJson? (j : Json) : Option Backend := do
  let r ← j.record? ["name", "mode", "balance", "adv_check", "description"]
  return {
    name := ← r.required "name" Json.text?
    mode := ← r.optional "mode" Json.text?
    balance := ← r.optional "balance" Balance.ofJson?
    advCheck := ← r.optional "adv_check" Json.text?
    description := ← r.optional "description" Json.text? }

end Backend

namespace CheckHeader

/-- Writes a header. -/
def toJson (h : CheckHeader) : Json :=
  .obj [("name", (h.name.map Json.str).getD .null), ("fmt", (h.fmt.map Json.str).getD .null)]

/-- Reads a header. -/
def ofJson? (j : Json) : Option CheckHeader := do
  let r ← j.record? ["name", "fmt"]
  return { name := ← r.optional "name" Json.text?, fmt := ← r.optional "fmt" Json.text? }

end CheckHeader

namespace HttpCheck

/-- Writes a step. -/
def toJson (c : HttpCheck) : Json :=
  .ofFields
    [("type", some (.str c.kind)), ("method", c.method.map .str), ("uri", c.uri.map .str),
      ("headers", if c.headers.isEmpty then none else some (.arr (c.headers.map (·.toJson))))]

/-- Reads a step. -/
def ofJson? (j : Json) : Option HttpCheck := do
  let r ← j.record? ["type", "method", "uri", "headers"]
  return {
    kind := ← r.required "type" Json.text?
    method := ← r.optional "method" Json.text?
    uri := ← r.optional "uri" Json.text?
    headers := ← r.defaulted "headers" [] (Json.list? CheckHeader.ofJson?) }

end HttpCheck

namespace Server

/-- Writes a server. -/
def toJson (s : Server) : Json :=
  .ofFields
    [("name", some (.str s.name)), ("address", some (.str s.address)),
      ("port", s.port.map .ofInt64), ("id", s.id.map .ofInt64), ("check", s.check.map .str)]

/-- Reads a server; a missing address is empty. -/
def ofJson? (j : Json) : Option Server := do
  let r ← j.record? ["name", "address", "port", "id", "check"]
  return {
    name := ← r.required "name" Json.text?
    address := ← r.defaulted "address" "" Json.text?
    port := ← r.optional "port" Json.int64?
    id := ← r.optional "id" Json.int64?
    check := ← r.optional "check" Json.text? }

end Server

namespace Frontend

/-- Writes a frontend section. -/
def toJson (f : Frontend) : Json :=
  .ofFields
    [("name", some (.str f.name)), ("mode", f.mode.map .str),
      ("default_backend", f.defaultBackend.map .str), ("description", f.description.map .str)]

/-- Reads a frontend section. -/
def ofJson? (j : Json) : Option Frontend := do
  let r ← j.record? ["name", "mode", "default_backend", "description"]
  return {
    name := ← r.required "name" Json.text?
    mode := ← r.optional "mode" Json.text?
    defaultBackend := ← r.optional "default_backend" Json.text?
    description := ← r.optional "description" Json.text? }

end Frontend

namespace Bind

/-- Writes a listening address. -/
def toJson (b : Bind) : Json :=
  .ofFields
    [("name", b.name.map .str), ("address", b.address.map .str), ("port", b.port.map .ofInt64)]

/-- Reads a listening address. -/
def ofJson? (j : Json) : Option Bind := do
  let r ← j.record? ["name", "address", "port"]
  return {
    name := ← r.optional "name" Json.text?
    address := ← r.optional "address" Json.text?
    port := ← r.optional "port" Json.int64? }

end Bind

namespace SwitchingRule

/-- Writes a rule. -/
def toJson (s : SwitchingRule) : Json :=
  .ofFields
    [("name", some (.str s.name)), ("cond", s.cond.map .str), ("cond_test", s.condTest.map .str)]

/-- Reads a rule. -/
def ofJson? (j : Json) : Option SwitchingRule := do
  let r ← j.record? ["name", "cond", "cond_test"]
  return {
    name := ← r.required "name" Json.text?
    cond := ← r.optional "cond" Json.text?
    condTest := ← r.optional "cond_test" Json.text? }

end SwitchingRule

namespace Transaction

/-- Writes a transaction. -/
def toJson (t : Transaction) : Json :=
  .obj [("id", .str t.id), ("_version", .ofInt64 t.version), ("status", .str t.status)]

/-- Reads a transaction; a missing version is zero and a missing status empty. -/
def ofJson? (j : Json) : Option Transaction := do
  let r ← j.record? ["id", "_version", "status"]
  return {
    id := ← r.required "id" Json.text?
    version := ← r.defaulted "_version" 0 Json.int64?
    status := ← r.defaulted "status" "" Json.text? }

end Transaction
end ProxySync.Wire
