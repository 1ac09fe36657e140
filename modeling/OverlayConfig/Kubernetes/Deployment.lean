import OverlayConfig.Kubernetes.Objects
set_option autoImplicit false

namespace OverlayConfig.Kubernetes

def nodeSelectorTerm : Shape :=
  entity "NodeSelectorTerm"
    (optional (.list (entity "NodeSelectorRequirement"
      (optional .text ["key", "operator"] ++ optional (.list .text) ["values"])))
      ["matchExpressions", "matchFields"])

def placementRules (words : String) (preferred required : Shape) : Shape :=
  entity words
    (optional (.list preferred) ["preferredDuringSchedulingIgnoredDuringExecution"]
      ++ optional required ["requiredDuringSchedulingIgnoredDuringExecution"])

def nodeAffinity : Shape :=
  placementRules "NodeAffinity"
    (entity "PreferredSchedulingTerm"
      (optional nodeSelectorTerm ["preference"] ++ optional Shape.int32 ["weight"]))
    (entity "NodeSelector" (optional (.list nodeSelectorTerm) ["nodeSelectorTerms"]))

def podAffinityTerm : Shape :=
  entity "PodAffinityTerm"
    (optional labelSelector ["labelSelector", "namespaceSelector"]
      ++ optional (.list .text) ["matchLabelKeys", "mismatchLabelKeys", "namespaces"]
      ++ optional .text ["topologyKey"])

def podRules (words : String) : Shape :=
  placementRules words
    (entity "WeightedPodAffinityTerm"
      (optional podAffinityTerm ["podAffinityTerm"] ++ optional Shape.int32 ["weight"]))
    (.list podAffinityTerm)

def affinity : Shape :=
  entity "Affinity"
    (optional nodeAffinity ["nodeAffinity"] ++ optional (podRules "PodAffinity") ["podAffinity"]
      ++ optional (podRules "PodAntiAffinity") ["podAntiAffinity"])

def podSecurityContext : Shape :=
  entity "PodSecurityContext"
    (sharedSecurity ++ optional Shape.int64 ["fsGroup"] ++ optional .text ["fsGroupChangePolicy"]
      ++ optional (.list Shape.int64) ["supplementalGroups"]
      ++ optional (.list (entity "Sysctl" (optional .text ["name", "value"]))) ["sysctls"])

def dnsConfig : Shape :=
  entity "PodDNSConfig"
    (optional (.list .text) ["nameservers", "searches"]
      ++ optional (.list (entity "PodDNSConfigOption" (optional .text ["name", "value"])))
        ["options"])

def resourceClaim : Shape :=
  entity "PodResourceClaim"
    (optional .text ["name"]
      ++ optional (entity "ClaimSource"
        (optional .text ["resourceClaimName", "resourceClaimTemplateName"])) ["source"])

def toleration : Shape :=
  entity "Toleration"
    (optional .text ["effect", "key", "operator", "value"]
      ++ optional Shape.int64 ["tolerationSeconds"])

def topologySpreadConstraint : Shape :=
  entity "TopologySpreadConstraint"
    (optional labelSelector ["labelSelector"] ++ optional (.list .text) ["matchLabelKeys"]
      ++ optional Shape.int32 ["maxSkew", "minDomains"]
      ++ optional .text
        ["nodeAffinityPolicy", "nodeTaintsPolicy", "topologyKey", "whenUnsatisfiable"])

def podSpec : Shape :=
  entity "PodSpec"
    (optional Shape.int64 ["activeDeadlineSeconds", "terminationGracePeriodSeconds"]
      ++ optional affinity ["affinity"]
      ++ optional .flag
        ["automountServiceAccountToken", "enableServiceLinks", "hostIPC", "hostNetwork", "hostPID",
          "hostUsers", "setHostnameAsFQDN", "shareProcessNamespace"]
      ++ optional (.list container) ["containers", "initContainers"]
      ++ optional dnsConfig ["dnsConfig"]
      ++ optional .text
        ["dnsPolicy", "hostname", "nodeName", "preemptionPolicy", "priorityClassName",
          "restartPolicy", "runtimeClassName", "schedulerName", "serviceAccount",
          "serviceAccountName", "subdomain"]
      ++ optional (.list ephemeralContainer) ["ephemeralContainers"]
      ++ optional (.list (entity "HostAlias"
        (optional (.list .text) ["hostnames"] ++ optional .text ["ip"]))) ["hostAliases"]
      ++ optional (.list localObjectReference) ["imagePullSecrets"]
      ++ optional (.table .text) ["nodeSelector"]
      ++ optional (entity "PodOS" (optional .text ["name"])) ["os"]
      ++ optional quantities ["overhead"] ++ optional Shape.int32 ["priority"]
      ++ optional (.list (entity "PodReadinessGate" (optional .text ["conditionType"])))
        ["readinessGates"]
      ++ optional (.list resourceClaim) ["resourceClaims"]
      ++ optional (.list (entity "PodSchedulingGate" (optional .text ["name"]))) ["schedulingGates"]
      ++ optional podSecurityContext ["securityContext"]
      ++ optional (.list toleration) ["tolerations"]
      ++ optional (.list topologySpreadConstraint) ["topologySpreadConstraints"]
      ++ optional (.list volume) ["volumes"])

def podTemplate : Shape :=
  entity "PodTemplateSpec" (optional objectMeta ["metadata"] ++ optional podSpec ["spec"])

def deploymentStrategy : Shape :=
  entity "DeploymentStrategy"
    (optional (entity "RollingUpdateDeployment"
        (optional .textOrInteger ["maxSurge", "maxUnavailable"])) ["rollingUpdate"]
      ++ optional .text ["type"])

def deploymentSpec : Shape :=
  entity "DeploymentSpec"
    (optional Shape.int32
        ["minReadySeconds", "progressDeadlineSeconds", "replicas", "revisionHistoryLimit"]
      ++ optional .flag ["paused"] ++ optional labelSelector ["selector"]
      ++ optional deploymentStrategy ["strategy"] ++ optional podTemplate ["template"])

def deploymentStatus : Shape :=
  entity "DeploymentStatus"
    (optional Shape.int32
        ["availableReplicas", "collisionCount", "readyReplicas", "replicas", "unavailableReplicas",
          "updatedReplicas"]
      ++ optional (.list (entity "DeploymentCondition"
        (optional .timestamp ["lastTransitionTime", "lastUpdateTime"]
          ++ optional .text ["message", "reason", "status", "type"]))) ["conditions"]
      ++ optional Shape.int64 ["observedGeneration"])

def deployment : Shape :=
  entity "Deployment"
    ([("apiVersion", .omittable, .constant "apps/v1"), ("kind", .omittable, .constant "Deployment")]
      ++ optional objectMeta ["metadata"] ++ optional deploymentSpec ["spec"]
      ++ optional deploymentStatus ["status"])

structure PodSpec where
  nodeSelector : Option (Fields String)
  deriving DecidableEq

structure PodTemplate where
  spec : Option PodSpec
  deriving DecidableEq

structure DeploymentSpec where
  template : PodTemplate
  deriving DecidableEq

structure Deployment where
  spec : Option DeploymentSpec
  deriving DecidableEq

def PodSpec.ofJson (v : Json) : Except DecodeError PodSpec :=
  (podSpec.readPart "nodeSelector" (Json.decodeMapping Json.decodeString) v).map PodSpec.mk

def PodTemplate.ofJson (v : Json) : Except DecodeError PodTemplate :=
  (podTemplate.readPart "spec" PodSpec.ofJson v).map PodTemplate.mk

/-- A template that is missing is one without anything in it. -/
def DeploymentSpec.ofJson (v : Json) : Except DecodeError DeploymentSpec :=
  (deploymentSpec.readPart "template" PodTemplate.ofJson v).map fun template =>
    ⟨template.getD ⟨none⟩⟩

def Deployment.ofJson (v : Json) : Except DecodeError Deployment :=
  (deployment.readPart "spec" DeploymentSpec.ofJson v).map Deployment.mk

def Deployment.nodeSelector (deployment : Deployment) : Option (Fields String) :=
  (deployment.spec.bind fun spec => spec.template.spec).bind fun pod => pod.nodeSelector

def Deployment.selects (label : String) (deployment : Deployment) : Bool :=
  deployment.nodeSelector.any fun selector => selector.contains label

end OverlayConfig.Kubernetes
