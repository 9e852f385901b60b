import ProxySync.Kube.Shape.Container
/-!
# The shape of a Pod

What a Pod asks for, where it may run, and what has been observed of it.
-/
namespace ProxySync.Kube.Shape

/-- A choice of nodes. -/
def nodeSelectorTerm : Shape :=
  .loose (members (.list selectorRequirement) ["matchExpressions", "matchFields"])

/-- Nodes that a Pod prefers, and nodes that it needs. -/
def nodeAffinity : Shape :=
  .loose [
    ("preferredDuringSchedulingIgnoredDuringExecution",
      .list (.loose [("preference", nodeSelectorTerm), ("weight", .int32)])),
    ("requiredDuringSchedulingIgnoredDuringExecution",
      .loose [("nodeSelectorTerms", .list nodeSelectorTerm)])]

/-- A choice of other Pods. -/
def podAffinityTerm : Shape :=
  .loose (members labelSelector ["labelSelector", "namespaceSelector"] ++
    members (.list .text) ["matchLabelKeys", "mismatchLabelKeys", "namespaces"] ++
    [("topologyKey", .text)])

/-- Other Pods that a Pod prefers, and those that it needs, near by or far away. -/
def podAffinity : Shape :=
  .loose [
    ("preferredDuringSchedulingIgnoredDuringExecution",
      .list (.loose [("podAffinityTerm", podAffinityTerm), ("weight", .int32)])),
    ("requiredDuringSchedulingIgnoredDuringExecution", .list podAffinityTerm)]

/-- Where a Pod may run. -/
def affinity : Shape :=
  .loose (("nodeAffinity", nodeAffinity) ::
    members podAffinity ["podAffinity", "podAntiAffinity"])

/-- A taint of nodes that a Pod bears. -/
def toleration : Shape :=
  .loose (members .text ["effect", "key", "operator", "value"] ++ [("tolerationSeconds", .int64)])

/-- How Pods are spread. -/
def spreadConstraint : Shape :=
  .loose (members .text ["nodeAffinityPolicy", "nodeTaintsPolicy", "topologyKey",
      "whenUnsatisfiable"] ++
    members .int32 ["maxSkew", "minDomains"] ++
    [("labelSelector", labelSelector), ("matchLabelKeys", .list .text)])

/-- How a Pod resolves names. -/
def dnsConfig : Shape :=
  .loose (members (.list .text) ["nameservers", "searches"] ++
    [("options", .list (.loose (members .text ["name", "value"])))])

/-- Restrictions of all containers of a Pod. -/
def podSecurityContext : Shape :=
  .loose (restrictions ++ members .text ["fsGroupChangePolicy", "supplementalGroupsPolicy"] ++
    [("fsGroup", .int64), ("supplementalGroups", .list .int64),
      ("sysctls", .list (.loose (members .text ["name", "value"])))])

/-- What a Pod asks for. -/
def podSpec : Shape :=
  .loose (members .text ["dnsPolicy", "hostname", "nodeName", "preemptionPolicy",
      "priorityClassName", "restartPolicy", "runtimeClassName", "schedulerName", "serviceAccount",
      "serviceAccountName", "subdomain"] ++
    members .boolean ["automountServiceAccountToken", "enableServiceLinks", "hostIPC",
      "hostNetwork", "hostPID", "hostUsers", "setHostnameAsFQDN", "shareProcessNamespace"] ++
    members .int64 ["activeDeadlineSeconds", "terminationGracePeriodSeconds"] ++
    members (.list container) ["containers", "initContainers"] ++
    [("affinity", affinity), ("dnsConfig", dnsConfig),
      ("ephemeralContainers", .list ephemeralContainer),
      ("hostAliases", .list (.loose [("hostnames", .list .text), ("ip", .text)])),
      ("imagePullSecrets", .list localObjectReference), ("nodeSelector", .table .text),
      ("os", .loose [("name", .text)]), ("overhead", .table .quantity), ("priority", .int32),
      ("readinessGates", .list (.loose [("conditionType", .text)])),
      ("resourceClaims", .list (.loose (members .text ["name", "resourceClaimName",
        "resourceClaimTemplateName"]))),
      ("schedulingGates", .list (.loose [("name", .text)])),
      ("securityContext", podSecurityContext), ("tolerations", .list toleration),
      ("topologySpreadConstraints", .list spreadConstraint), ("volumes", .list volume)])

/-- A condition of a Pod. -/
def podCondition : Shape :=
  .loose (members .text ["message", "reason", "status", "type"] ++
    members .instant ["lastProbeTime", "lastTransitionTime"])

/-- What has been observed of a Pod. -/
def podStatus : Shape :=
  .loose (members .text ["hostIP", "message", "nominatedNodeName", "phase", "podIP", "qosClass",
      "reason", "resize"] ++
    members (.list (.loose [("ip", .text)])) ["hostIPs", "podIPs"] ++
    members (.list containerStatus) ["containerStatuses", "ephemeralContainerStatuses",
      "initContainerStatuses"] ++
    [("conditions", .list podCondition),
      ("resourceClaimStatuses", .list (.loose (members .text ["name", "resourceClaimName"]))),
      ("startTime", .instant)])

end ProxySync.Kube.Shape
