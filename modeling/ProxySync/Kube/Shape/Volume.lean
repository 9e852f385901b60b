import ProxySync.Kube.Shape.Meta
/-!
# The shapes of the volumes of a Pod

Every kind of storage that a Pod can mount.
-/
namespace ProxySync.Kube.Shape

/-- A key and the file that it becomes. -/
def keyToPath : Shape := .loose (members .text ["key", "path"] ++ [("mode", .int32)])

/-- A field of the Pod itself. -/
def objectFieldSelector : Shape := .loose (members .text ["apiVersion", "fieldPath"])

/-- An amount of a resource of a container. -/
def resourceFieldSelector : Shape :=
  .loose (members .text ["containerName", "resource"] ++ [("divisor", .quantity)])

/-- A file with a field of the Pod. -/
def downwardFile : Shape :=
  .loose [("fieldRef", objectFieldSelector), ("mode", .int32), ("path", .text),
    ("resourceFieldRef", resourceFieldSelector)]

/-- Keys of an object that may be missing. -/
def keysOfObject : Shape :=
  .loose [("items", .list keyToPath), ("name", .text), ("optional", .boolean)]

/-- Amounts of resources that are asked for, and their limits. -/
def amounts : List (String × Shape) := members (.table .quantity) ["limits", "requests"]

/-- What a claim for storage asks for. -/
def claimSpec : Shape :=
  .loose (members .text ["storageClassName", "volumeAttributesClassName", "volumeMode",
      "volumeName"] ++
    [("accessModes", .list .text),
      ("dataSource", .loose (members .text ["apiGroup", "kind", "name"])),
      ("dataSourceRef", .loose (members .text ["apiGroup", "kind", "name", "namespace"])),
      ("resources", .loose amounts), ("selector", labelSelector)])

/-- A claim for storage that is made together with the Pod. -/
def claimTemplate : Shape := .loose [("metadata", objectMeta), ("spec", claimSpec)]

/-- A part of a volume that is put together of several sources. -/
def projection : Shape :=
  .loose [
    ("clusterTrustBundle", .loose (members .text ["name", "path", "signerName"] ++
      [("labelSelector", labelSelector), ("optional", .boolean)])),
    ("configMap", keysOfObject),
    ("downwardAPI", .loose [("items", .list downwardFile)]),
    ("secret", keysOfObject),
    ("serviceAccountToken", .loose (members .text ["audience", "path"] ++
      [("expirationSeconds", .int64)]))]

/-- A source that is described by texts and perhaps a mark that it is only read. -/
def storage (texts : List String) : Shape :=
  .loose (members .text texts ++ [("readOnly", .boolean)])

/-- A source that needs credentials as well. -/
def guardedStorage (texts : List String) (others : List (String × Shape)) : Shape :=
  .loose (members .text texts ++
    [("readOnly", .boolean), ("secretRef", localObjectReference)] ++ others)

/-- The sources that belong to the cluster or to the node. -/
def clusterSources : List (String × Shape) :=
  [("configMap", .loose [("defaultMode", .int32), ("items", .list keyToPath), ("name", .text),
      ("optional", .boolean)]),
    ("downwardAPI", .loose [("defaultMode", .int32), ("items", .list downwardFile)]),
    ("emptyDir", .loose [("medium", .text), ("sizeLimit", .quantity)]),
    ("ephemeral", .loose [("volumeClaimTemplate", claimTemplate)]),
    ("gitRepo", .loose (members .text ["directory", "repository", "revision"])),
    ("hostPath", .loose (members .text ["path", "type"])),
    ("image", .loose (members .text ["pullPolicy", "reference"])),
    ("persistentVolumeClaim", storage ["claimName"]),
    ("projected", .loose [("defaultMode", .int32), ("sources", .list projection)]),
    ("secret", .loose [("defaultMode", .int32), ("items", .list keyToPath),
      ("optional", .boolean), ("secretName", .text)])]

/-- The sources of the clouds. -/
def cloudSources : List (String × Shape) :=
  [("awsElasticBlockStore", .loose (members .text ["fsType", "volumeID"] ++
      [("partition", .int32), ("readOnly", .boolean)])),
    ("azureDisk", storage ["cachingMode", "diskName", "diskURI", "fsType", "kind"]),
    ("azureFile", storage ["secretName", "shareName"]),
    ("gcePersistentDisk", .loose (members .text ["fsType", "pdName"] ++
      [("partition", .int32), ("readOnly", .boolean)])),
    ("photonPersistentDisk", .loose (members .text ["fsType", "pdID"])),
    ("vsphereVolume", .loose (members .text ["fsType", "storagePolicyID", "storagePolicyName",
      "volumePath"]))]

/-- The sources on a network. -/
def networkSources : List (String × Shape) :=
  [("cephfs", guardedStorage ["path", "secretFile", "user"] [("monitors", .list .text)]),
    ("cinder", guardedStorage ["fsType", "volumeID"] []),
    ("csi", .loose (members .text ["driver", "fsType"] ++
      [("nodePublishSecretRef", localObjectReference), ("readOnly", .boolean),
        ("volumeAttributes", .table .text)])),
    ("fc", .loose [("fsType", .text), ("lun", .int32), ("readOnly", .boolean),
      ("targetWWNs", .list .text), ("wwids", .list .text)]),
    ("flexVolume", guardedStorage ["driver", "fsType"] [("options", .table .text)]),
    ("flocker", .loose (members .text ["datasetName", "datasetUUID"])),
    ("glusterfs", storage ["endpoints", "path"]),
    ("iscsi", guardedStorage ["fsType", "initiatorName", "iqn", "iscsiInterface", "targetPortal"]
      [("chapAuthDiscovery", .boolean), ("chapAuthSession", .boolean), ("lun", .int32),
        ("portals", .list .text)]),
    ("nfs", storage ["path", "server"]),
    ("portworxVolume", storage ["fsType", "volumeID"]),
    ("quobyte", storage ["group", "registry", "tenant", "user", "volume"]),
    ("rbd", guardedStorage ["fsType", "image", "keyring", "pool", "user"]
      [("monitors", .list .text)]),
    ("scaleIO", guardedStorage ["fsType", "gateway", "protectionDomain", "storageMode",
      "storagePool", "system", "volumeName"] [("sslEnabled", .boolean)]),
    ("storageos", guardedStorage ["fsType", "volumeName", "volumeNamespace"] [])]

/-- A volume. -/
def volume : Shape :=
  .loose (("name", .text) :: clusterSources ++ cloudSources ++ networkSources)

end ProxySync.Kube.Shape
