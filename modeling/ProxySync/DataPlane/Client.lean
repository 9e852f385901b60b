import ProxySync.DataPlane.Exchange
import ProxySync.Failure
import ProxySync.Json.Printer
import ProxySync.Net.Url
import ProxySync.Text.Base64
/-!
# The client of a Data Plane

Where the Data Plane is and how to talk to it. A configured address without `http://` or
`https://` is taken for one of `http`, and slashes at its end are dropped. `Client.address` is the
URL of a place in the API, `Client.wire` a request as it goes over the wire.
-/
namespace ProxySync.DataPlane

/-- A client. -/
structure Client where
  base : Net.Url
  user : String
  password : String
  timeoutMillis : Nat
  forceReload : Bool
  /-- What the reader of JSON says of a body that is not what was asked for: by what was asked for,
  and by the body. -/
  jsonDetail : String → String → String

/-- A request on the wire. -/
structure WireRequest where
  method : Method
  url : Net.Url
  headers : List (String × String)
  body : Option Json

namespace WireRequest

/-- The path as written. -/
def path (r : WireRequest) : String := Net.Url.pathText r.url.path

/-- The query as written; empty if there is none. -/
def query (r : WireRequest) : String := r.url.query.getD ""

end WireRequest

namespace Client

/-- The base URL of a configured address. -/
def baseText (address : String) : String :=
  let cs := address.toList
  let trimmed := Net.Url.trimSlashes address
  if "http://".toList.isPrefixOf cs || "https://".toList.isPrefixOf cs then trimmed
  else "http://" ++ trimmed

/-- What is shown where no reader of JSON is at hand that says more. -/
def maskedDetail (_what _body : String) : String := "<json-error>"

/-- The client of a configured address. -/
def ofAddress (address user password : String) (timeoutMillis : Nat) (forceReload : Bool) :
    Except ClientError Client :=
  match Net.Url.parse (baseText address) with
  | .ok base =>
    .ok { base, user, password, timeoutMillis, forceReload, jsonDetail := maskedDetail }
  | .error e => .error (.invalidUrl (baseText address) e.message)

/-- The URL of a place in the API. -/
def address (c : Client) (e : Endpoint) : Net.Url :=
  ((c.base.appendPath e.area.path).withSegments e.segments).withPairs e.query

/-- The header by which user and password are shown. -/
def authorization (c : Client) : String :=
  "Basic " ++ Base64.encode (c.user ++ ":" ++ c.password)

/-- The header for a user that the configured address itself names. It is sent besides that of the
configured user. -/
def addressAuthorization? (c : Client) : Option String := do
  let user ← Percent.decode? c.base.username.toList
  let password := if c.base.password = "" then none else Percent.decode? c.base.password.toList
  if user = "" ∧ password = none then none
  else some ("Basic " ++ Base64.encode (user ++ ":" ++ password.getD ""))

/-- A request on the wire. -/
def wire (c : Client) (r : Request) : WireRequest :=
  { method := r.method
    url := c.address r.endpoint
    headers :=
      [("accept", "application/json")] ++
        c.addressAuthorization?.toList.map (("authorization", ·)) ++
        [("authorization", c.authorization)] ++
        (if r.body.isSome then [("content-type", "application/json")] else [])
    body := r.body }

/-- The URL that an error shows for a request: without the query, so that transaction ids and
versions stay out. -/
def shownAddress (c : Client) (e : Endpoint) : String := (c.address e).withoutQuery.text

/-- A duration in the largest unit that makes it at least one, with the decimals it needs. -/
def durationText (millis : Nat) : String :=
  if millis = 0 then "0ns"
  else if millis < 1000 then toString millis ++ "ms"
  else
    let whole := toString (millis / 1000)
    let rest := Nat.toDigits 10 (millis % 1000)
    let places := List.replicate (3 - rest.length) '0' ++ rest
    let shown := (places.reverse.dropWhile (· = '0')).reverse
    if shown.isEmpty then whole ++ "s" else whole ++ "." ++ String.ofList shown ++ "s"

/-- What a client shows of itself; the password is not part of it. -/
def describe (c : Client) : String :=
  "HaproxyClient \x7b base_url: " ++ Text.quoted c.base.text ++ ", username: " ++
    Text.quoted c.user ++ ", timeout: " ++ durationText c.timeoutMillis ++ ", .. \x7d"

end Client
end ProxySync.DataPlane
