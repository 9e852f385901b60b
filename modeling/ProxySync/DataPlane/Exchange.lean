import ProxySync.Dialogue
import ProxySync.Json.Basic
import ProxySync.Metrics
/-!
# The exchange with a Data Plane

A request names a method, a place below one of the two areas of the API, query parameters and
perhaps a body. It is answered with a status and a body, or the exchange is lost on the way: then
nobody knows whether it was acted on. Between requests the program notes measurements.
-/
namespace ProxySync.DataPlane

/-- The methods in use. -/
inductive Method where
  | get | post | put | delete
deriving DecidableEq

/-- The written form of a method. -/
def Method.text : Method → String
  | .get => "GET"
  | .post => "POST"
  | .put => "PUT"
  | .delete => "DELETE"

/-- The areas of the API. -/
inductive Area where
  | configuration | transactions
deriving DecidableEq

/-- The path of an area. -/
def Area.path : Area → List String
  | .configuration => ["v3", "services", "haproxy", "configuration"]
  | .transactions => ["v3", "services", "haproxy", "transactions"]

/-- A place in the API: names below an area, and query parameters. -/
structure Endpoint where
  area : Area
  segments : List String
  query : List (String × String)
deriving DecidableEq

/-- A request. -/
structure Request where
  method : Method
  endpoint : Endpoint
  body : Option Json

/-- The answer to a request. -/
inductive Reply where
  | answered (status : Nat) (body : String)
  | lost (cause : String)
deriving DecidableEq

/-- Whether a status means that the request was accepted. -/
def isSuccess (status : Nat) : Bool := 200 ≤ status && status < 300

/-- What a session does outside itself. -/
inductive Call where
  | request (r : Request)
  | measure (m : Measurement)

/-- The exchange with a Data Plane. -/
def interface : Interface where
  Call := Call
  Answer
    | .request _ => Reply
    | .measure _ => Unit

end ProxySync.DataPlane
