import ProxySync.Kube.Shape.Meta
/-!
# The shape of a Service

What a Service asks for and what has been observed of it.
-/
namespace ProxySync.Kube.Shape

/-- A port of a Service. -/
def servicePort : Shape :=
  .loose (members .text ["appProtocol", "name", "protocol"] ++
    members .int32 ["nodePort", "port"] ++ [("targetPort", .intOrText)])

/-- How clients stick to a member. -/
def sessionAffinityConfig : Shape :=
  .loose [("clientIP", .loose [("timeoutSeconds", .int32)])]

/-- What a Service asks for. -/
def serviceSpec : Shape :=
  .loose (members .text ["clusterIP", "externalName", "externalTrafficPolicy",
      "internalTrafficPolicy", "ipFamilyPolicy", "loadBalancerClass", "loadBalancerIP",
      "sessionAffinity", "trafficDistribution", "type"] ++
    members .boolean ["allocateLoadBalancerNodePorts", "publishNotReadyAddresses"] ++
    members (.list .text) ["clusterIPs", "externalIPs", "ipFamilies",
      "loadBalancerSourceRanges"] ++
    [("healthCheckNodePort", .int32), ("ports", .list servicePort), ("selector", .table .text),
      ("sessionAffinityConfig", sessionAffinityConfig)])

/-- A port of a load balancer. -/
def portStatus : Shape := .loose (members .text ["error", "protocol"] ++ [("port", .int32)])

/-- An address of a load balancer. -/
def loadBalancerIngress : Shape :=
  .loose (members .text ["hostname", "ip", "ipMode"] ++ [("ports", .list portStatus)])

/-- What has been observed of a Service. -/
def serviceStatus : Shape :=
  .loose [("conditions", .list condition),
    ("loadBalancer", .loose [("ingress", .list loadBalancerIngress)])]

end ProxySync.Kube.Shape
