import OverlayConfig.Spec.Wire
set_option autoImplicit false

namespace OverlayConfig

inductive IncompleteSpec where
  | sdnUnset
  | unknownMode (text : String)
  | mtuUnset
  | vxlanPortUnset
  deriving DecidableEq, Repr

def IncompleteSpec.reason : IncompleteSpec → String
  | .sdnUnset => "openshiftSDNConfig is unset"
  | .unknownMode text => "unknown mode \"" ++ text ++ "\""
  | .mtuUnset => "openshiftSDNConfig.mtu is unset"
  | .vxlanPortUnset => "openshiftSDNConfig.vxlanPort is unset"

def IncompleteSpec.message (cause : IncompleteSpec) : String :=
  "config is not defaulted and validated: " ++ cause.reason

def NetworkSpec.requireSdn (spec : NetworkSpec) : Except IncompleteSpec SdnConfig :=
  match spec.sdn? with
  | some config => .ok config
  | none => .error .sdnUnset

def SdnConfig.requirePlugin (config : SdnConfig) : Except IncompleteSpec String :=
  match config.mode.pluginName? with
  | some name => .ok name
  | none => .error (.unknownMode config.mode.text)

structure NodeConfig where
  bindAddress : String
  iptablesSyncPeriod : String
  proxyArguments : Fields (List String)
  networkPluginName : String
  mtu : UInt32
  deriving DecidableEq, Repr

namespace NodeConfig

def ofSpec (spec : NetworkSpec) : Except IncompleteSpec NodeConfig := do
  let config ← spec.requireSdn
  let proxy := spec.kubeProxyConfig.getD .empty
  let plugin ← config.requirePlugin
  let mtu ← match config.mtu with
    | some mtu => .ok mtu
    | none => .error .mtuUnset
  .ok ⟨proxy.bindAddress, proxy.iptablesSyncPeriod, proxy.proxyArguments, plugin, mtu⟩

def toJson (config : NodeConfig) : Json :=
  .object [("apiVersion", .string "v1"), ("kind", .string "NodeConfig"),
    ("servingInfo", .object [("bindAddress", .string (config.bindAddress ++ ":10251"))]),
    ("iptablesSyncPeriod", .string config.iptablesSyncPeriod),
    ("proxyArguments", ProxyConfig.argumentsToJson config.proxyArguments),
    ("networkConfig", .object [("networkPluginName", .string config.networkPluginName),
      ("mtu", .nat config.mtu.toNat)]),
    ("enableUnidling", .bool true)]

def text (config : NodeConfig) : List Char := config.toJson.text

end NodeConfig

structure ControllerConfig where
  networkPluginName : String
  clusterNetworks : List ClusterNetwork
  serviceNetwork : String
  vxlanPort : UInt32
  deriving DecidableEq, Repr

namespace ControllerConfig

def ofSpec (spec : NetworkSpec) : Except IncompleteSpec ControllerConfig := do
  let config ← spec.requireSdn
  let plugin ← config.requirePlugin
  let port ← match config.vxlanPort with
    | some port => .ok port
    | none => .error .vxlanPortUnset
  .ok ⟨plugin, spec.clusterNetworks, spec.serviceNetwork, port⟩

def toJson (config : ControllerConfig) : Json :=
  .object [("apiVersion", .string "v1"), ("kind", .string "MasterConfig"),
    ("networkConfig", .object [("networkPluginName", .string config.networkPluginName),
      ("clusterNetworks", .array (config.clusterNetworks.map ClusterNetwork.toJson)),
      ("serviceNetworkCIDR", .string config.serviceNetwork),
      ("vxlanPort", .nat config.vxlanPort.toNat)])]

def text (config : ControllerConfig) : List Char := config.toJson.text

end ControllerConfig

end OverlayConfig
