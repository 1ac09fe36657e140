import OverlayConfig.Fields
import OverlayConfig.Cidr
import OverlayConfig.Json.Value
/-!
The desired state of a cluster network: the service network, the pod networks, the default network
with the settings of its backend, and the settings of the proxy. Defaults take the place of what is
unset. The MTU of the overlay is the one that was applied before, and else the MTU of the host less
the room for the encapsulation.
-/
set_option autoImplicit false

namespace OverlayConfig

/-- How pods of different projects are kept apart. A text that names no mode is kept, so that
validation can report it. -/
inductive Mode where
  | networkPolicy
  | multitenant
  | subnet
  | unknown (text : String)
  deriving DecidableEq, Repr, Inhabited

namespace Mode

def ofText (text : String) : Mode :=
  if text = "NetworkPolicy" then .networkPolicy
  else if text = "Multitenant" then .multitenant
  else if text = "Subnet" then .subnet
  else .unknown text

def text : Mode → String
  | .networkPolicy => "NetworkPolicy"
  | .multitenant => "Multitenant"
  | .subnet => "Subnet"
  | .unknown text => text

def isKnown : Mode → Bool
  | .unknown _ => false
  | _ => true

def pluginName? : Mode → Option String
  | .subnet => some "redhat/openshift-ovs-subnet"
  | .multitenant => some "redhat/openshift-ovs-multitenant"
  | .networkPolicy => some "redhat/openshift-ovs-networkpolicy"
  | .unknown _ => none

end Mode

structure SdnConfig where
  mode : Mode
  vxlanPort : Option UInt32
  mtu : Option UInt32
  externalOpenvswitch : Option Bool
  deriving DecidableEq, Repr, Inhabited

inductive DefaultNetwork where
  | openShiftSdn (config : Option SdnConfig)
  deriving DecidableEq, Repr, Inhabited

namespace DefaultNetwork

def typeName : DefaultNetwork → String
  | .openShiftSdn _ => "OpenShiftSDN"

def sdn? : DefaultNetwork → Option SdnConfig
  | .openShiftSdn config => config

end DefaultNetwork

structure ClusterNetwork where
  cidr : String
  hostSubnetLength : UInt32
  deriving DecidableEq, Repr, Inhabited

/-- The settings of the proxy; empty texts and the empty mapping are unset. -/
structure ProxyConfig where
  bindAddress : String
  iptablesSyncPeriod : String
  proxyArguments : Fields (List String)
  deriving DecidableEq, Repr, Inhabited

def ProxyConfig.empty : ProxyConfig := ⟨"", "", []⟩

structure NetworkSpec where
  serviceNetwork : String
  clusterNetworks : List ClusterNetwork
  defaultNetwork : DefaultNetwork
  deployKubeProxy : Option Bool
  kubeProxyConfig : Option ProxyConfig
  deriving DecidableEq, Repr, Inhabited

def NetworkSpec.sdn? (spec : NetworkSpec) : Option SdnConfig := spec.defaultNetwork.sdn?

def vxlanOverhead : Nat := 50

def defaultVxlanPort : UInt32 := 4789

def overlayMtu (hostMtu : UInt32) : UInt32 := UInt32.ofNat (hostMtu.toNat - vxlanOverhead)

def SdnConfig.initial : SdnConfig := ⟨.networkPolicy, none, none, none⟩

def NetworkSpec.appliedMtu? (previous : Option NetworkSpec) : Option UInt32 := do
  let spec ← previous
  let config ← spec.sdn?
  config.mtu

def Mode.orDefault : Mode → Mode
  | .unknown text => if text = "" then .networkPolicy else .unknown text
  | mode => mode

def SdnConfig.withDefaults (config : SdnConfig) (mtu : UInt32) : SdnConfig where
  mode := config.mode.orDefault
  vxlanPort := some (config.vxlanPort.getD defaultVxlanPort)
  mtu := some (config.mtu.getD mtu)
  externalOpenvswitch := config.externalOpenvswitch

def defaultProxyArguments : Fields (List String) := [("metrics-bind-address", ["0.0.0.0:9101"])]

def ProxyConfig.withDefaults (proxy : ProxyConfig) : ProxyConfig where
  bindAddress := if proxy.bindAddress = "" then "0.0.0.0" else proxy.bindAddress
  iptablesSyncPeriod := proxy.iptablesSyncPeriod
  proxyArguments :=
    if proxy.proxyArguments.isEmpty then defaultProxyArguments else proxy.proxyArguments

def NetworkSpec.withDefaults (spec : NetworkSpec) (previous : Option NetworkSpec)
    (hostMtu : UInt32) : NetworkSpec where
  serviceNetwork := spec.serviceNetwork
  clusterNetworks := spec.clusterNetworks
  defaultNetwork :=
    let mtu := (appliedMtu? previous).getD (overlayMtu hostMtu)
    .openShiftSdn (some ((spec.sdn?.getD .initial).withDefaults mtu))
  deployKubeProxy := some (spec.deployKubeProxy.getD false)
  kubeProxyConfig := some (spec.kubeProxyConfig.getD .empty).withDefaults

inductive ConfigError where
  | invalidServiceNetwork (text : String)
  | invalidClusterNetwork (cidr : String)
  | emptyClusterNetworks
  | invalidMtu (mtu : UInt32)
  | invalidMode (text : String)
  | invalidVxlanPort (port : UInt32)
  deriving DecidableEq, Repr

def uint32String (n : UInt32) : String := String.ofList (Nat.toDigits 10 n.toNat)

def ConfigError.message : ConfigError → String
  | .invalidServiceNetwork text => "invalid ServiceNetwork \"" ++ text ++ "\""
  | .invalidClusterNetwork cidr => "invalid ClusterNetwork CIDR \"" ++ cidr ++ "\""
  | .emptyClusterNetworks => "ClusterNetworks cannot be empty"
  | .invalidMtu mtu => "invalid MTU " ++ uint32String mtu
  | .invalidMode text => "invalid openshift-sdn mode \"" ++ text ++ "\""
  | .invalidVxlanPort port => "invalid VXLANPort " ++ uint32String port

def maxMtu : UInt32 := 65536

def maxPort : UInt32 := 65535

def NetworkSpec.addressErrors (spec : NetworkSpec) : List ConfigError :=
  (if Cidr.isValid spec.serviceNetwork then [] else [.invalidServiceNetwork spec.serviceNetwork])
    ++ (spec.clusterNetworks.filter fun n => !Cidr.isValid n.cidr).map
      (.invalidClusterNetwork ·.cidr)

def SdnConfig.mtuErrors (config : SdnConfig) : List ConfigError :=
  match config.mtu with
  | some mtu => if maxMtu < mtu then [.invalidMtu mtu] else []
  | none => []

def SdnConfig.modeErrors (config : SdnConfig) : List ConfigError :=
  match config.mode with
  | .unknown text => [.invalidMode text]
  | _ => []

def SdnConfig.portErrors (config : SdnConfig) : List ConfigError :=
  match config.vxlanPort with
  | some port => if maxPort < port then [.invalidVxlanPort port] else []
  | none => []

def SdnConfig.errors (config : SdnConfig) : List ConfigError :=
  config.mtuErrors ++ config.modeErrors ++ config.portErrors

def NetworkSpec.sdnErrors (spec : NetworkSpec) : List ConfigError :=
  (if spec.clusterNetworks.isEmpty then [.emptyClusterNetworks] else [])
    ++ match spec.sdn? with
      | some config => config.errors
      | none => []

def NetworkSpec.errors (spec : NetworkSpec) : List ConfigError :=
  spec.addressErrors ++ spec.sdnErrors

inductive UnsafeChange where
  | sdnConfig
  deriving DecidableEq, Repr

def UnsafeChange.message : UnsafeChange → String
  | .sdnConfig => "cannot change openshift-sdn configuration"

def NetworkSpec.unsafeChanges (previous next : NetworkSpec) : List UnsafeChange :=
  if previous.sdn? = next.sdn? then [] else [.sdnConfig]

end OverlayConfig
