import ProxySync.Desired
import ProxySync.Dialogue
import ProxySync.Kube.Membership
/-!
# Resolving Services into servers

A dynamic server entry becomes one server per usable endpoint of its Service, in the order of the
slices and of the endpoints in them. Services, slices and Pods are looked up as the resolution goes;
a Pod that cannot be found keeps its endpoint. Of servers with one name the first is kept.
-/
namespace ProxySync

namespace Membership

/-- What can be looked up. -/
inductive Call where
  | service (key : Key)
  | slices (service : Key)
  | pod (key : Key)
deriving DecidableEq

/-- Look-ups, each of which may fail with a text. -/
def interface : Interface where
  Call := Call
  Answer
    | .service _ => Except String (Option Kube.Service)
    | .slices _ => Except String (List Kube.EndpointSlice)
    | .pod _ => Except String (Option Kube.Pod)

end Membership

/-- A step of a resolution. -/
abbrev ResolutionM := ExceptT PassError (Dialogue Membership.interface)

namespace Resolution

/-- Looks up a Service. -/
def getService (key : Key) : ResolutionM (Except String (Option Kube.Service)) :=
  ExceptT.lift (Dialogue.call (I := Membership.interface) (.service key))

/-- Looks up the slices of a Service. -/
def listSlices (service : Key) : ResolutionM (Except String (List Kube.EndpointSlice)) :=
  ExceptT.lift (Dialogue.call (I := Membership.interface) (.slices service))

/-- Looks up a Pod. -/
def getPod (key : Key) : ResolutionM (Except String (Option Kube.Pod)) :=
  ExceptT.lift (Dialogue.call (I := Membership.interface) (.pod key))

/-- The name of a server: that of the target, else of the node, else the address. The target comes
first because several Pods of a Service may share a node. -/
def serverName (e : Kube.Endpoint) (address : String) : String :=
  ((e.targetRef.bind (·.name)).or e.nodeName).getD address

/-- The port of a slice with the given name, if it is a port number. -/
def namedPort? (s : Kube.EndpointSlice) (name : String) : Option UInt16 := do
  let p ← (s.ports.getD []).find? (·.name == some name)
  let n ← p.port
  if 0 ≤ n ∧ n ≤ 65535 then some (UInt16.ofNat n.toNat) else none

/-- The port of the servers that an entry takes from a slice: its own, else that of the Service. -/
def port? (d : DynamicServer) (s : Kube.EndpointSlice) : Option UInt16 :=
  d.port.or <| d.servicePort.bind fun
    | .number n => some n
    | .name name => namedPort? s name

/-- The Pod that an endpoint targets; its namespace is that of the Service unless it says
otherwise. -/
def targetPod? (ns : String) (e : Kube.Endpoint) : Option Key := do
  let t ← e.targetRef
  if t.kind = some "Pod" then return { ns := t.ns.getD ns, name := ← t.name } else none

/-- Whether an endpoint says that it is going away. -/
def isTerminating (e : Kube.Endpoint) : Bool := ((e.conditions.bind (·.terminating)).getD false)

/-- Whether an endpoint can be used. -/
def isLive (ns : String) (e : Kube.Endpoint) : ResolutionM Bool :=
  if isTerminating e then return false
  else match targetPod? ns e with
    | none => return true
    | some key => do
      match ← getPod key with
      | .ok (some pod) => return pod.isLive
      | .ok none => return true
      | .error _ => return true

/-- The server that an endpoint makes, if it has an address and can be used. -/
def endpointServer? (d : DynamicServer) (port : Option UInt16) (e : Kube.Endpoint) :
    ResolutionM (Option StaticServer) :=
  match e.addresses.head? with
  | none => return none
  | some address => do
    if ← isLive d.ns e then
      return some { name := serverName e address, address, port, id := none, check := d.check }
    else return none

/-- The servers of endpoints. -/
def endpointServers (d : DynamicServer) (port : Option UInt16) :
    List Kube.Endpoint → ResolutionM (List StaticServer)
  | [] => return []
  | e :: es => do
    let s ← endpointServer? d port e
    return s.toList ++ (← endpointServers d port es)

/-- The servers of slices. -/
def sliceServers (d : DynamicServer) : List Kube.EndpointSlice → ResolutionM (List StaticServer)
  | [] => return []
  | s :: ss => do
    let front ← endpointServers d (port? d s) s.endpoints
    return front ++ (← sliceServers d ss)

/-- The servers of a dynamic entry. -/
def dynamicServers (d : DynamicServer) : ResolutionM (List StaticServer) := do
  let shown := d.serviceKey.text
  match ← getService d.serviceKey with
  | .error cause => throw (.membershipLookup s!"Service {shown}" cause)
  | .ok none => throw (.serviceNotFound d.ns d.service)
  | .ok (some _) =>
    match ← listSlices d.serviceKey with
    | .error cause => throw (.membershipLookup s!"EndpointSlices of Service {shown}" cause)
    | .ok slices =>
      if slices.isEmpty then throw (.endpointsNotFound d.ns d.service)
      else
        let servers ← sliceServers d slices
        if servers.isEmpty then throw (.noUsableEndpoints d.ns d.service) else return servers

/-- The servers of one entry. -/
def entryServers : ServerEntry → ResolutionM (List StaticServer)
  | .fixed s => return [s]
  | .dynamic d => dynamicServers d

/-- The servers of all entries, in order. -/
def allServers : List ServerEntry → ResolutionM (List StaticServer)
  | [] => return []
  | e :: es => do
    let front ← entryServers e
    return front ++ (← allServers es)

/-- The servers whose name has not come up before. -/
def firstOfName (seen : List String) : List StaticServer → List StaticServer
  | [] => []
  | s :: ss =>
    if s.name ∈ seen then firstOfName seen ss else s :: firstOfName (s.name :: seen) ss

end Resolution

/-- Resolves every dynamic entry of a desired backend. -/
def Desired.resolve (d : Desired) : ResolutionM Resolved := do
  let servers ← Resolution.allServers d.servers
  return d.resolvedTo (Resolution.firstOfName [] servers)

end ProxySync
