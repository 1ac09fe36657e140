import OverlayConfig.Shape
set_option autoImplicit false

namespace OverlayConfig.Kubernetes

def optional (shape : Shape) (names : List String) : List (String × Presence × Shape) :=
  names.map fun name => (name, .nullable, shape)

def texts (names : List String) : List (String × Presence × Shape) :=
  names.map fun name => (name, .textual, .text)

/-- A record of an object: only fields that it knows are looked at. -/
def entity (words : String) (fields : List (String × Presence × Shape)) : Shape :=
  .record words false fields fun _ => .ok ()

def ownerReference : Shape :=
  entity "OwnerReference"
    (texts ["apiVersion", "kind", "name", "uid"]
      ++ optional .flag ["blockOwnerDeletion", "controller"])

def managedFieldsEntry : Shape :=
  entity "ManagedFieldsEntry"
    (optional .text ["apiVersion", "fieldsType", "manager", "operation", "subresource"]
      ++ optional .deeper ["fieldsV1"] ++ optional .timestamp ["time"])

def objectMeta : Shape :=
  entity "ObjectMeta"
    (optional .text ["generateName", "name", "namespace", "resourceVersion", "selfLink", "uid"]
      ++ optional (.table .text) ["annotations", "labels"]
      ++ optional .timestamp ["creationTimestamp", "deletionTimestamp"]
      ++ optional Shape.int64 ["deletionGracePeriodSeconds", "generation"]
      ++ optional (.list .text) ["finalizers"]
      ++ optional (.list managedFieldsEntry) ["managedFields"]
      ++ optional (.list ownerReference) ["ownerReferences"])

def quantities : Shape := .table .quantity

def labelSelector : Shape :=
  entity "LabelSelector"
    (optional (.list (entity "LabelSelectorRequirement"
        (optional .text ["key", "operator"] ++ optional (.list .text) ["values"])))
        ["matchExpressions"]
      ++ optional (.table .text) ["matchLabels"])

def localObjectReference : Shape := entity "LocalObjectReference" (optional .text ["name"])

def objectFieldSelector : Shape :=
  entity "ObjectFieldSelector" (optional .text ["apiVersion", "fieldPath"])

def resourceFieldSelector : Shape :=
  entity "ResourceFieldSelector"
    (optional .text ["containerName", "resource"] ++ optional .quantity ["divisor"])

def keyToPath : Shape :=
  entity "KeyToPath" (optional .text ["key", "path"] ++ optional Shape.int32 ["mode"])

def downwardFile : Shape :=
  entity "DownwardAPIVolumeFile"
    (optional objectFieldSelector ["fieldRef"] ++ optional Shape.int32 ["mode"]
      ++ optional .text ["path"] ++ optional resourceFieldSelector ["resourceFieldRef"])

def namedItems (words nameField : String) (withMode : Bool) : Shape :=
  entity words
    ((if withMode then optional Shape.int32 ["defaultMode"] else [])
      ++ optional (.list keyToPath) ["items"] ++ optional .text [nameField]
      ++ optional .flag ["optional"])

def volumeProjection : Shape :=
  entity "VolumeProjection"
    (optional (entity "ClusterTrustBundleProjection"
        (optional labelSelector ["labelSelector"] ++ optional .text ["name", "path", "signerName"]
          ++ optional .flag ["optional"])) ["clusterTrustBundle"]
      ++ optional (namedItems "ConfigMapProjection" "name" false) ["configMap"]
      ++ optional (entity "DownwardAPIProjection" (optional (.list downwardFile) ["items"]))
        ["downwardAPI"]
      ++ optional (namedItems "SecretProjection" "name" false) ["secret"]
      ++ optional (entity "ServiceAccountTokenProjection"
        (optional .text ["audience", "path"] ++ optional Shape.int64 ["expirationSeconds"]))
        ["serviceAccountToken"])

def persistentVolumeClaimSpec : Shape :=
  entity "PersistentVolumeClaimSpec"
    (optional (.list .text) ["accessModes"]
      ++ optional (entity "TypedLocalObjectReference" (optional .text ["apiGroup", "kind", "name"]))
        ["dataSource"]
      ++ optional (entity "TypedObjectReference"
        (optional .text ["apiGroup", "kind", "name", "namespace"])) ["dataSourceRef"]
      ++ optional (entity "VolumeResourceRequirements" (optional quantities ["limits", "requests"]))
        ["resources"]
      ++ optional labelSelector ["selector"]
      ++ optional .text
        ["storageClassName", "volumeAttributesClassName", "volumeMode", "volumeName"])

def source (words : String) (names : List String) (fields : List (String × Presence × Shape)) :
    Shape :=
  entity words (optional .text names ++ optional .flag ["readOnly"] ++ fields)

def secretRef : List (String × Presence × Shape) := optional localObjectReference ["secretRef"]

def outerSources : List (String × Presence × Shape) :=
  optional (source "AWSElasticBlockStoreVolumeSource" ["fsType", "volumeID"]
      (optional Shape.int32 ["partition"])) ["awsElasticBlockStore"]
    ++ optional (source "AzureDiskVolumeSource"
      ["cachingMode", "diskName", "diskURI", "fsType", "kind"] []) ["azureDisk"]
    ++ optional (source "AzureFileVolumeSource" ["secretName", "shareName"] []) ["azureFile"]
    ++ optional (source "CephFSVolumeSource" ["path", "secretFile", "user"]
      (optional (.list .text) ["monitors"] ++ secretRef)) ["cephfs"]
    ++ optional (source "CinderVolumeSource" ["fsType", "volumeID"] secretRef) ["cinder"]
    ++ optional (source "FCVolumeSource" ["fsType"]
      (optional Shape.int32 ["lun"] ++ optional (.list .text) ["targetWWNs", "wwids"])) ["fc"]
    ++ optional (source "FlexVolumeSource" ["driver", "fsType"]
      (optional (.table .text) ["options"] ++ secretRef)) ["flexVolume"]
    ++ optional (entity "FlockerVolumeSource" (optional .text ["datasetName", "datasetUUID"]))
      ["flocker"]
    ++ optional (source "GCEPersistentDiskVolumeSource" ["fsType", "pdName"]
      (optional Shape.int32 ["partition"])) ["gcePersistentDisk"]
    ++ optional (entity "GitRepoVolumeSource"
      (optional .text ["directory", "repository", "revision"])) ["gitRepo"]
    ++ optional (source "GlusterfsVolumeSource" ["endpoints", "path"] []) ["glusterfs"]
    ++ optional (source "ISCSIVolumeSource"
      ["fsType", "initiatorName", "iqn", "iscsiInterface", "targetPortal"]
      (optional .flag ["chapAuthDiscovery", "chapAuthSession"] ++ optional Shape.int32 ["lun"]
        ++ optional (.list .text) ["portals"] ++ secretRef)) ["iscsi"]
    ++ optional (source "NFSVolumeSource" ["path", "server"] []) ["nfs"]
    ++ optional (entity "PhotonPersistentDiskVolumeSource" (optional .text ["fsType", "pdID"]))
      ["photonPersistentDisk"]
    ++ optional (source "PortworxVolumeSource" ["fsType", "volumeID"] []) ["portworxVolume"]
    ++ optional (source "QuobyteVolumeSource" ["group", "registry", "tenant", "user", "volume"] [])
      ["quobyte"]
    ++ optional (source "RBDVolumeSource" ["fsType", "image", "keyring", "pool", "user"]
      (optional (.list .text) ["monitors"] ++ secretRef)) ["rbd"]
    ++ optional (source "ScaleIOVolumeSource"
      ["fsType", "gateway", "protectionDomain", "storageMode", "storagePool", "system",
        "volumeName"]
      (optional .flag ["sslEnabled"] ++ secretRef)) ["scaleIO"]
    ++ optional (source "StorageOSVolumeSource"
      ["fsType", "volumeName", "volumeNamespace"] secretRef) ["storageos"]
    ++ optional (entity "VsphereVirtualDiskVolumeSource"
      (optional .text ["fsType", "storagePolicyID", "storagePolicyName", "volumePath"]))
      ["vsphereVolume"]

def volume : Shape :=
  entity "Volume"
    (outerSources
      ++ optional (namedItems "ConfigMapVolumeSource" "name" true) ["configMap"]
      ++ optional (source "CSIVolumeSource" ["driver", "fsType"]
        (optional localObjectReference ["nodePublishSecretRef"]
          ++ optional (.table .text) ["volumeAttributes"])) ["csi"]
      ++ optional (entity "DownwardAPIVolumeSource"
        (optional Shape.int32 ["defaultMode"] ++ optional (.list downwardFile) ["items"]))
        ["downwardAPI"]
      ++ optional (entity "EmptyDirVolumeSource"
        (optional .text ["medium"] ++ optional .quantity ["sizeLimit"])) ["emptyDir"]
      ++ optional (entity "EphemeralVolumeSource"
        (optional (entity "PersistentVolumeClaimTemplate"
          (optional objectMeta ["metadata"] ++ optional persistentVolumeClaimSpec ["spec"]))
          ["volumeClaimTemplate"])) ["ephemeral"]
      ++ optional (entity "HostPathVolumeSource" (optional .text ["path", "type"])) ["hostPath"]
      ++ optional .text ["name"]
      ++ optional (source "PersistentVolumeClaimVolumeSource" ["claimName"] [])
        ["persistentVolumeClaim"]
      ++ optional (entity "ProjectedVolumeSource"
        (optional Shape.int32 ["defaultMode"] ++ optional (.list volumeProjection) ["sources"]))
        ["projected"]
      ++ optional (namedItems "SecretVolumeSource" "secretName" true) ["secret"])

def keySelector (words : String) : Shape :=
  entity words (optional .text ["key", "name"] ++ optional .flag ["optional"])

def envVar : Shape :=
  entity "EnvVar"
    (optional .text ["name", "value"]
      ++ optional (entity "EnvVarSource"
        (optional (keySelector "ConfigMapKeySelector") ["configMapKeyRef"]
          ++ optional objectFieldSelector ["fieldRef"]
          ++ optional resourceFieldSelector ["resourceFieldRef"]
          ++ optional (keySelector "SecretKeySelector") ["secretKeyRef"])) ["valueFrom"])

def envSource (words : String) : Shape :=
  entity words (optional .text ["name"] ++ optional .flag ["optional"])

def envFromSource : Shape :=
  entity "EnvFromSource"
    (optional (envSource "ConfigMapEnvSource") ["configMapRef"] ++ optional .text ["prefix"]
      ++ optional (envSource "SecretEnvSource") ["secretRef"])

def execAction : Shape := entity "ExecAction" (optional (.list .text) ["command"])

def httpGetAction : Shape :=
  entity "HTTPGetAction"
    (optional .text ["host", "path", "scheme"] ++ optional .textOrInteger ["port"]
      ++ optional (.list (entity "HTTPHeader" (optional .text ["name", "value"]))) ["httpHeaders"])

def tcpSocketAction : Shape :=
  entity "TCPSocketAction" (optional .text ["host"] ++ optional .textOrInteger ["port"])

def lifecycleHandler : Shape :=
  entity "LifecycleHandler"
    (optional execAction ["exec"] ++ optional httpGetAction ["httpGet"]
      ++ optional (entity "SleepAction" (optional Shape.int64 ["seconds"])) ["sleep"]
      ++ optional tcpSocketAction ["tcpSocket"])

def probe : Shape :=
  entity "Probe"
    (optional execAction ["exec"]
      ++ optional Shape.int32
        ["failureThreshold", "initialDelaySeconds", "periodSeconds", "successThreshold",
          "timeoutSeconds"]
      ++ optional (entity "GRPCAction"
        (optional Shape.int32 ["port"] ++ optional .text ["service"])) ["grpc"]
      ++ optional httpGetAction ["httpGet"] ++ optional tcpSocketAction ["tcpSocket"]
      ++ optional Shape.int64 ["terminationGracePeriodSeconds"])

def containerPort : Shape :=
  entity "ContainerPort"
    (optional Shape.int32 ["containerPort", "hostPort"]
      ++ optional .text ["hostIP", "name", "protocol"])

def resourceRequirements : Shape :=
  entity "ResourceRequirements"
    (optional (.list (entity "ResourceClaim" (optional .text ["name"]))) ["claims"]
      ++ optional quantities ["limits", "requests"])

def confinement (words : String) : Shape :=
  entity words (optional .text ["localhostProfile", "type"])

def sharedSecurity : List (String × Presence × Shape) :=
  optional (confinement "AppArmorProfile") ["appArmorProfile"]
    ++ optional Shape.int64 ["runAsGroup", "runAsUser"] ++ optional .flag ["runAsNonRoot"]
    ++ optional (entity "SELinuxOptions" (optional .text ["level", "role", "type", "user"]))
      ["seLinuxOptions"]
    ++ optional (confinement "SeccompProfile") ["seccompProfile"]
    ++ optional (entity "WindowsSecurityContextOptions"
      (optional .text ["gmsaCredentialSpec", "gmsaCredentialSpecName", "runAsUserName"]
        ++ optional .flag ["hostProcess"])) ["windowsOptions"]

def securityContext : Shape :=
  entity "SecurityContext"
    (sharedSecurity
      ++ optional .flag ["allowPrivilegeEscalation", "privileged", "readOnlyRootFilesystem"]
      ++ optional (entity "Capabilities" (optional (.list .text) ["add", "drop"])) ["capabilities"]
      ++ optional .text ["procMount"])

def volumeMount : Shape :=
  entity "VolumeMount"
    (optional .text
        ["mountPath", "mountPropagation", "name", "recursiveReadOnly", "subPath", "subPathExpr"]
      ++ optional .flag ["readOnly"])

def containerFields : List (String × Presence × Shape) :=
  optional (.list .text) ["args", "command"] ++ optional (.list envVar) ["env"]
    ++ optional (.list envFromSource) ["envFrom"]
    ++ optional .text
      ["image", "imagePullPolicy", "name", "restartPolicy", "terminationMessagePath",
        "terminationMessagePolicy", "workingDir"]
    ++ optional (entity "Lifecycle" (optional lifecycleHandler ["postStart", "preStop"]))
      ["lifecycle"]
    ++ optional probe ["livenessProbe", "readinessProbe", "startupProbe"]
    ++ optional (.list containerPort) ["ports"]
    ++ optional (.list (entity "ContainerResizePolicy"
      (optional .text ["resourceName", "restartPolicy"]))) ["resizePolicy"]
    ++ optional resourceRequirements ["resources"] ++ optional securityContext ["securityContext"]
    ++ optional .flag ["stdin", "stdinOnce", "tty"]
    ++ optional (.list (entity "VolumeDevice" (optional .text ["devicePath", "name"])))
      ["volumeDevices"]
    ++ optional (.list volumeMount) ["volumeMounts"]

def container : Shape := entity "Container" containerFields

def ephemeralContainer : Shape :=
  entity "EphemeralContainer" (containerFields ++ optional .text ["targetContainerName"])

end OverlayConfig.Kubernetes
