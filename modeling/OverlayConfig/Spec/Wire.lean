import OverlayConfig.Json.Decode
import OverlayConfig.Spec.Basic
import OverlayConfig.Kubernetes.Objects
import OverlayConfig.Yaml.Read
import OverlayConfig.Yaml.Writer
set_option autoImplicit false

namespace OverlayConfig

open Json

def optionField (key : String) : Option Json → List (String × Json)
  | none => []
  | some v => [(key, v)]

def textField (key text : String) : List (String × Json) :=
  if text = "" then [] else [(key, .string text)]

namespace ClusterNetwork

def ofJson : Json → Except DecodeError ClusterNetwork
  | .object fields => do
    let cidr ← decodeField fields "cidr" decodeString
    let length ← decodeField fields "hostSubnetLength" decodeUInt32
    let cidr ← required "cidr" cidr
    let length ← required "hostSubnetLength" length
    .ok ⟨cidr, length⟩
  | .array items => do
    let cidr ← decodeItem items 0 decodeString
    let cidr ← requiredItem "ClusterNetwork" 2 0 cidr
    let length ← decodeItem items 1 decodeUInt32
    let length ← requiredItem "ClusterNetwork" 2 1 length
    noMoreItems 2 items
    .ok ⟨cidr, length⟩
  | v => .error (.invalidType v.found "struct ClusterNetwork")

def toJson (network : ClusterNetwork) : Json :=
  .object [("cidr", .string network.cidr),
    ("hostSubnetLength", .nat network.hostSubnetLength.toNat)]

end ClusterNetwork

namespace Mode

def ofJson (v : Json) : Except DecodeError Mode := (decodeString v).map ofText

def toJson (mode : Mode) : Json := .string mode.text

end Mode

namespace SdnConfig

def ofJson : Json → Except DecodeError SdnConfig
  | .object fields => do
    let mode ← decodeField fields "mode" Mode.ofJson
    let mtu ← decodeField fields "mtu" (decodeOption decodeUInt32)
    let external ← decodeField fields "useExternalOpenvswitch" (decodeOption decodeBool)
    let port ← decodeField fields "vxlanPort" (decodeOption decodeUInt32)
    .ok ⟨mode.getD .networkPolicy, port.getD none, mtu.getD none, external.getD none⟩
  | .array items => do
    let mode ← decodeItem items 0 Mode.ofJson
    let port ← decodeItem items 1 (decodeOption decodeUInt32)
    let mtu ← decodeItem items 2 (decodeOption decodeUInt32)
    let external ← decodeItem items 3 (decodeOption decodeBool)
    noMoreItems 4 items
    .ok ⟨mode.getD .networkPolicy, port.getD none, mtu.getD none, external.getD none⟩
  | v => .error (.invalidType v.found "struct OpenShiftSdnConfig")

def toJson (config : SdnConfig) : Json :=
  .object (("mode", config.mode.toJson)
    :: optionField "vxlanPort" (config.vxlanPort.map fun n => .nat n.toNat)
    ++ optionField "mtu" (config.mtu.map fun n => .nat n.toNat)
    ++ optionField "useExternalOpenvswitch" (config.externalOpenvswitch.map .bool))

end SdnConfig

namespace DefaultNetwork

/-- The default network with a given type and block. The block belongs to one type. -/
def ofParts (type : String) (config : Option SdnConfig) : Except DecodeError DefaultNetwork :=
  if type = "OpenShiftSDN" then .ok (.openShiftSdn config)
  else
    match config with
    | some _ => .error (.mismatchedNetworkType type)
    | none => .error (.unsupportedNetworkType type)

def ofJson : Json → Except DecodeError DefaultNetwork
  | .object fields => do
    let config ← decodeField fields "openshiftSDNConfig" (decodeOption SdnConfig.ofJson)
    let type ← decodeField fields "type" decodeString
    let type ← required "type" type
    ofParts type (config.getD none)
  | .array items => do
    let type ← decodeItem items 0 decodeString
    let type ← requiredItem "DefaultNetworkDefinition" 2 0 type
    let config ← decodeItem items 1 (decodeOption SdnConfig.ofJson)
    noMoreItems 2 items
    ofParts type (config.getD none)
  | v => .error (.invalidType v.found "struct DefaultNetworkDefinition")

def toJson (network : DefaultNetwork) : Json :=
  .object (("type", .string network.typeName)
    :: optionField "openshiftSDNConfig" (network.sdn?.map SdnConfig.toJson))

end DefaultNetwork

namespace ProxyConfig

def argumentsOfJson : Json → Except DecodeError (Fields (List String)) :=
  decodeMapping (decodeList decodeString)

def argumentsToJson (arguments : Fields (List String)) : Json :=
  .object (arguments.map fun p => (p.1, .array (p.2.map .string)))

def ofJson : Json → Except DecodeError ProxyConfig
  | .object fields => do
    let address ← decodeField fields "bindAddress" decodeString
    let period ← decodeField fields "iptablesSyncPeriod" decodeString
    let arguments ← decodeField fields "proxyArguments" argumentsOfJson
    .ok ⟨address.getD "", period.getD "", arguments.getD []⟩
  | .array items => do
    let address ← decodeItem items 0 decodeString
    let period ← decodeItem items 1 decodeString
    let arguments ← decodeItem items 2 argumentsOfJson
    noMoreItems 3 items
    .ok ⟨address.getD "", period.getD "", arguments.getD []⟩
  | v => .error (.invalidType v.found "struct ProxyConfig")

def toJson (proxy : ProxyConfig) : Json :=
  .object (textField "bindAddress" proxy.bindAddress
    ++ textField "iptablesSyncPeriod" proxy.iptablesSyncPeriod
    ++ if proxy.proxyArguments.isEmpty then []
      else [("proxyArguments", argumentsToJson proxy.proxyArguments)])

end ProxyConfig

namespace NetworkSpec

def ofJson : Json → Except DecodeError NetworkSpec
  | .object fields => do
    let clusters ← decodeField fields "clusterNetworks" (decodeList ClusterNetwork.ofJson)
    let network ← decodeField fields "defaultNetwork" DefaultNetwork.ofJson
    let deploy ← decodeField fields "deployKubeProxy" (decodeOption decodeBool)
    let proxy ← decodeField fields "kubeProxyConfig" (decodeOption ProxyConfig.ofJson)
    let service ← decodeField fields "serviceNetwork" decodeString
    let service ← required "serviceNetwork" service
    let network ← required "defaultNetwork" network
    .ok ⟨service, clusters.getD [], network, deploy.getD none, proxy.getD none⟩
  | .array items => do
    let service ← decodeItem items 0 decodeString
    let service ← requiredItem "NetworkConfigSpec" 5 0 service
    let clusters ← decodeItem items 1 (decodeList ClusterNetwork.ofJson)
    let network ← decodeItem items 2 DefaultNetwork.ofJson
    let network ← requiredItem "NetworkConfigSpec" 5 2 network
    let deploy ← decodeItem items 3 (decodeOption decodeBool)
    let proxy ← decodeItem items 4 (decodeOption ProxyConfig.ofJson)
    noMoreItems 5 items
    .ok ⟨service, clusters.getD [], network, deploy.getD none, proxy.getD none⟩
  | v => .error (.invalidType v.found "struct NetworkConfigSpec")

def toJson (spec : NetworkSpec) : Json :=
  .object ([("serviceNetwork", .string spec.serviceNetwork),
      ("clusterNetworks", .array (spec.clusterNetworks.map ClusterNetwork.toJson)),
      ("defaultNetwork", spec.defaultNetwork.toJson)]
    ++ optionField "deployKubeProxy" (spec.deployKubeProxy.map .bool)
    ++ optionField "kubeProxyConfig" (spec.kubeProxyConfig.map ProxyConfig.toJson))

end NetworkSpec

namespace NetworkSpec

def part (words : String) (fields : List (String × Presence × Shape)) : Shape :=
  .record ("struct " ++ words) true fields fun _ => .ok ()

def clusterNetworkShape : Shape :=
  part "ClusterNetwork"
    [("cidr", .required, .text), ("hostSubnetLength", .required, Shape.uint32)]

def sdnShape : Shape :=
  part "OpenShiftSdnConfig"
    [("mode", .omittable, .text), ("vxlanPort", .nullable, Shape.uint32),
      ("mtu", .nullable, Shape.uint32), ("useExternalOpenvswitch", .nullable, .flag)]

def defaultNetworkShape : Shape :=
  .record "struct DefaultNetworkDefinition" true
    [("type", .required, .text), ("openshiftSDNConfig", .nullable, sdnShape)]
    fun v => (DefaultNetwork.ofJson v).map fun _ => ()

def proxyShape : Shape :=
  part "ProxyConfig"
    [("bindAddress", .omittable, .text), ("iptablesSyncPeriod", .omittable, .text),
      ("proxyArguments", .omittable, .table (.list .text))]

def shape : Shape :=
  part "NetworkConfigSpec"
    [("serviceNetwork", .required, .text),
      ("clusterNetworks", .omittable, .list clusterNetworkShape),
      ("defaultNetwork", .required, defaultNetworkShape), ("deployKubeProxy", .nullable, .flag),
      ("kubeProxyConfig", .nullable, proxyShape)]

end NetworkSpec

structure NetworkObject where
  metadata : Json
  spec : NetworkSpec
  deriving DecidableEq

namespace NetworkObject

def shape : Shape :=
  NetworkSpec.part "NetworkConfig"
    [("metadata", .required, Kubernetes.objectMeta), ("spec", .required, NetworkSpec.shape)]

def ofJson (v : Json) : Except DecodeError NetworkObject := do
  let fields := (v.fields?).getD []
  let metadata ← Json.required "metadata" (fields.get? "metadata")
  let spec ← Json.required "spec" (fields.get? "spec")
  let spec ← NetworkSpec.ofJson spec
  .ok ⟨metadata, spec⟩

def parse (cs : List Char) : Except Yaml.DocumentError NetworkObject := do
  let v ← Yaml.readDocument shape cs
  match ofJson v with
  | .ok found => .ok found
  | .error cause => .error (.readError (.mismatch cause none))

def toJson (object : NetworkObject) : Json :=
  .object [("apiVersion", .string "networkoperator.openshift.io/v1"),
    ("kind", .string "NetworkConfig"), ("metadata", object.metadata),
    ("spec", object.spec.toJson)]

def text (object : NetworkObject) : List Char := Yaml.write object.toJson

end NetworkObject

end OverlayConfig
