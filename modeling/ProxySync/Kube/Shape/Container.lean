import ProxySync.Kube.Shape.Volume
/-!
# The shapes of the containers of a Pod

How containers are started, watched, limited and stopped, and what has been observed of them.
-/
namespace ProxySync.Kube.Shape

/-- A key of an object that may be missing. -/
def keySelector : Shape := .loose (members .text ["key", "name"] ++ [("optional", .boolean)])

/-- All keys of an object that may be missing. -/
def keysSource : Shape := .loose [("name", .text), ("optional", .boolean)]

/-- A variable. -/
def envVar : Shape :=
  .loose (members .text ["name", "value"] ++
    [("valueFrom", .loose [("configMapKeyRef", keySelector), ("fieldRef", objectFieldSelector),
      ("resourceFieldRef", resourceFieldSelector), ("secretKeyRef", keySelector)])])

/-- Variables from the keys of an object. -/
def envFromSource : Shape :=
  .loose [("configMapRef", keysSource), ("prefix", .text), ("secretRef", keysSource)]

/-- A command to run. -/
def execAction : Shape := .loose [("command", .list .text)]

/-- A request to make. -/
def httpGetAction : Shape :=
  .loose (members .text ["host", "path", "scheme"] ++
    [("httpHeaders", .list (.loose (members .text ["name", "value"]))), ("port", .intOrText)])

/-- A connection to make. -/
def tcpSocketAction : Shape := .loose [("host", .text), ("port", .intOrText)]

/-- What is done when a container starts or stops. -/
def lifecycleHandler : Shape :=
  .loose [("exec", execAction), ("httpGet", httpGetAction), ("sleep", .loose [("seconds", .int64)]),
    ("tcpSocket", tcpSocketAction)]

/-- A check of a container. -/
def probe : Shape :=
  .loose (members .int32 ["failureThreshold", "initialDelaySeconds", "periodSeconds",
      "successThreshold", "timeoutSeconds"] ++
    [("exec", execAction), ("grpc", .loose [("port", .int32), ("service", .text)]),
      ("httpGet", httpGetAction), ("tcpSocket", tcpSocketAction),
      ("terminationGracePeriodSeconds", .int64)])

/-- A port of a container. -/
def containerPort : Shape :=
  .loose (members .text ["hostIP", "name", "protocol"] ++
    members .int32 ["containerPort", "hostPort"])

/-- Resources of a container. -/
def resourceRequirements : Shape :=
  .loose (("claims", .list (.loose (members .text ["name", "request"]))) :: amounts)

/-- A profile that restricts a process. -/
def profile : Shape := .loose (members .text ["localhostProfile", "type"])

/-- The labels of a process. -/
def processLabels : Shape := .loose (members .text ["level", "role", "type", "user"])

/-- Restrictions of a process on Windows. -/
def windowsOptions : Shape :=
  .loose (members .text ["gmsaCredentialSpec", "gmsaCredentialSpecName", "runAsUserName"] ++
    [("hostProcess", .boolean)])

/-- The restrictions that a container shares with its Pod. -/
def restrictions : List (String × Shape) :=
  members .int64 ["runAsGroup", "runAsUser"] ++
    [("appArmorProfile", profile), ("runAsNonRoot", .boolean), ("seLinuxOptions", processLabels),
      ("seccompProfile", profile), ("windowsOptions", windowsOptions)]

/-- Restrictions of a container. -/
def securityContext : Shape :=
  .loose (restrictions ++
    members .boolean ["allowPrivilegeEscalation", "privileged", "readOnlyRootFilesystem"] ++
    [("capabilities", .loose (members (.list .text) ["add", "drop"])), ("procMount", .text)])

/-- A volume inside a container. -/
def volumeMount : Shape :=
  .loose (members .text ["mountPath", "mountPropagation", "name", "recursiveReadOnly", "subPath",
    "subPathExpr"] ++ [("readOnly", .boolean)])

/-- The members of containers of every kind. -/
def containerMembers : List (String × Shape) :=
  members .text ["image", "imagePullPolicy", "name", "restartPolicy", "terminationMessagePath",
      "terminationMessagePolicy", "workingDir"] ++
    members .boolean ["stdin", "stdinOnce", "tty"] ++
    members (.list .text) ["args", "command"] ++
    members probe ["livenessProbe", "readinessProbe", "startupProbe"] ++
    [("env", .list envVar), ("envFrom", .list envFromSource),
      ("lifecycle", .loose (members lifecycleHandler ["postStart", "preStop"])),
      ("ports", .list containerPort),
      ("resizePolicy", .list (.loose (members .text ["resourceName", "restartPolicy"]))),
      ("resources", resourceRequirements), ("securityContext", securityContext),
      ("volumeDevices", .list (.loose (members .text ["devicePath", "name"]))),
      ("volumeMounts", .list volumeMount)]

/-- A container. -/
def container : Shape := .loose containerMembers

/-- A container that is added to a running Pod. -/
def ephemeralContainer : Shape := .loose (("targetContainerName", .text) :: containerMembers)

/-- What a container is doing. -/
def containerState : Shape :=
  .loose [("running", .loose [("startedAt", .instant)]),
    ("terminated", .loose (members .text ["containerID", "message", "reason"] ++
      members .int32 ["exitCode", "signal"] ++ members .instant ["finishedAt", "startedAt"])),
    ("waiting", .loose (members .text ["message", "reason"]))]

/-- The health of the devices of a container. -/
def resourceStatus : Shape :=
  .loose [("name", .text),
    ("resources", .list (.loose (members .text ["health", "resourceID"])))]

/-- As whom a container runs. -/
def containerUser : Shape :=
  .loose [("linux", .loose (members .int64 ["gid", "uid"] ++
    [("supplementalGroups", .list .int64)]))]

/-- What has been observed of a container. -/
def containerStatus : Shape :=
  .loose (members .text ["containerID", "image", "imageID", "name"] ++
    members .boolean ["ready", "started"] ++
    members containerState ["lastState", "state"] ++
    [("allocatedResources", .table .quantity),
      ("allocatedResourcesStatus", .list resourceStatus), ("resources", resourceRequirements),
      ("restartCount", .int32), ("user", containerUser),
      ("volumeMounts", .list (.loose (members .text ["mountPath", "name", "recursiveReadOnly"] ++
        [("readOnly", .boolean)])))])

end ProxySync.Kube.Shape
