import ProxySync.Json.Reader
import ProxySync.Json.Record
import ProxySync.Text.Blank
import ProxySync.Text.Numeral
/-!
# Configuration versions

The Data Plane answers with its version as a bare integer or as a record with the field
`_version`.
-/
namespace ProxySync.DataPlane

/-- The record form of a version. -/
def versionOfJson? (j : Json) : Option Int64 := do
  let r ← j.record? ["_version"]
  r.required "_version" Json.int64?

/-- Reads a version; white space around it does not count. -/
def version? (body : String) : Option Int64 :=
  let text := Text.trim body
  (Numeral.int64? text).or ((Json.parse? text).bind versionOfJson?)

end ProxySync.DataPlane
