import ProxySync.Failure
import ProxySync.Resource.Spec
import ProxySync.Table
import ProxySync.Text.Numeral
import ProxySync.Wire.Objects
/-!
# Desired and resolved backends

A desired backend is a specification that has been found well-formed: every server entry is either
static or stands for the endpoints of a Service. Resolving the latter gives a resolved backend,
which has static servers only and converts into the objects of the Data Plane.
-/
namespace ProxySync

/-- A server with a concrete address. -/
structure StaticServer where
  name : String
  address : String
  port : Option UInt16
  id : Option Int64
  check : Option CheckMode
deriving DecidableEq

/-- Port of a Service. -/
inductive ServicePort where
  | number (n : UInt16)
  | name (s : String)
deriving DecidableEq

namespace ServicePort

/-- A 16-bit numeral is a port number, any other text a port name. -/
def parse (s : String) : ServicePort :=
  match Numeral.uint16? s with
  | some n => .number n
  | none => .name s

/-- The written form of a port. -/
def text : ServicePort → String
  | .number n => toString n.toNat
  | .name s => s

end ServicePort

/-- Servers to be resolved from the ready endpoints of a Service. -/
structure DynamicServer where
  /-- Namespace of the Service. -/
  ns : String
  service : String
  servicePort : Option ServicePort
  /-- Port of the entry itself, which goes before that of the Service. -/
  port : Option UInt16
  check : Option CheckMode
deriving DecidableEq

/-- The key of the Service. -/
def DynamicServer.serviceKey (d : DynamicServer) : Key := { ns := d.ns, name := d.service }

/-- One entry of a desired server list. -/
inductive ServerEntry where
  | fixed (s : StaticServer)
  | dynamic (d : DynamicServer)
deriving DecidableEq

/-- A well-formed specification. -/
structure Desired where
  name : String
  mode : Option ProxyMode
  algorithm : Option Algorithm
  advCheck : Option AdvancedCheck
  servers : List ServerEntry
  httpChecks : List Resource.CheckSpec
deriving DecidableEq

/-- A desired backend with every server resolved. -/
structure Resolved where
  name : String
  mode : Option ProxyMode
  algorithm : Option Algorithm
  advCheck : Option AdvancedCheck
  servers : List StaticServer
  httpChecks : List Resource.CheckSpec
deriving DecidableEq

namespace ServerEntry

/-- The Service that an entry refers to. -/
def serviceKey? : ServerEntry → Option Key
  | .dynamic d => some d.serviceKey
  | .fixed _ => none

end ServerEntry

namespace Desired

/-- The Services referred to, sorted and without repetition. -/
def serviceKeys (d : Desired) : Table Key Unit :=
  (d.servers.filterMap (·.serviceKey?)).foldl (fun t k => t.insert k ()) .empty

/-- The backend with its servers resolved to the given ones. -/
def resolvedTo (d : Desired) (servers : List StaticServer) : Resolved :=
  { name := d.name, mode := d.mode, algorithm := d.algorithm, advCheck := d.advCheck, servers
    httpChecks := d.httpChecks }

end Desired

namespace StaticServer

/-- The server as the Data Plane takes it. -/
def toWire (s : StaticServer) : Wire.Server :=
  { name := s.name, address := s.address
    port := s.port.map fun p => Int64.ofInt p.toNat
    id := s.id
    check := s.check.map (·.text) }

end StaticServer

/-- A check step as the Data Plane takes it. -/
def Resource.CheckSpec.toWire (c : Resource.CheckSpec) : Wire.HttpCheck :=
  { kind := c.kind.text, method := c.method.map (·.text), uri := c.uri
    headers := c.headers.map fun h => { name := some h.name, fmt := some h.fmt } }

namespace Resolved

/-- The backend section; its description is left to the session that writes it. -/
def wireBackend (r : Resolved) : Wire.Backend :=
  { name := r.name
    mode := r.mode.map (·.text)
    balance := r.algorithm.map fun a => { algorithm := some a.text }
    advCheck := r.advCheck.map (·.text)
    description := none }

/-- The servers. -/
def wireServers (r : Resolved) : List Wire.Server := r.servers.map (·.toWire)

/-- The check list. -/
def wireChecks (r : Resolved) : List Wire.HttpCheck := r.httpChecks.map (·.toWire)

end Resolved
end ProxySync
