import OverlayConfig.Documents
import OverlayConfig.Proofs.Json.RoundTrip
set_option autoImplicit false

namespace OverlayConfig

namespace Json

theorem isExact_uint32 (n : UInt32) : (Json.nat n.toNat).isExact = true := by
  have hbound : n.toNat < 4294967296 := n.toNat_lt
  simp only [nat, isExact, isExactInt, Bool.and_eq_true, decide_eq_true_eq]
  omega

theorem decodeUInt32_nat (n : UInt32) : decodeUInt32 (.nat n.toNat) = .ok n := by
  have hbound : n.toNat < 4294967296 := n.toNat_lt
  have hrange : 0 ≤ (n.toNat : Int) ∧ (n.toNat : Int) < 4294967296 := by omega
  simp [nat, decodeUInt32, hrange]

theorem decodeItems_map {α : Type} {f : Json → Except DecodeError α} {g : α → Json} {xs : List α}
    (h : ∀ x ∈ xs, f (g x) = .ok x) : decodeItems f (xs.map g) = .ok xs := by
  induction xs with
  | nil => rfl
  | cons x rest ih =>
    obtain ⟨hx, hrest⟩ := List.forall_mem_cons.mp h
    simp [decodeItems, hx, ih hrest, bind, Except.bind]

theorem decodeValues_map {α : Type} {f : Json → Except DecodeError α} {g : α → Json}
    {fields : Fields α} (h : ∀ p ∈ fields, f (g p.2) = .ok p.2) :
    decodeValues f (fields.map fun p => (p.1, g p.2)) = .ok fields := by
  induction fields with
  | nil => rfl
  | cons p rest ih =>
    obtain ⟨hp, hrest⟩ := List.forall_mem_cons.mp h
    simp [decodeValues, hp, ih hrest, bind, Except.bind]

end Json

namespace ClusterNetwork

theorem isExact_toJson (network : ClusterNetwork) : network.toJson.isExact = true := by
  simpa [toJson, Json.isExact, Json.haveExact] using Json.isExact_uint32 network.hostSubnetLength

theorem ordered_toJson (network : ClusterNetwork) : network.toJson.ordered = network.toJson := by
  have hsorted : Fields.Sorted [("cidr", Json.string network.cidr),
      ("hostSubnetLength", .nat network.hostSubnetLength.toNat)] := by
    have hlt : "cidr" < "hostSubnetLength" := by decide
    exact List.pairwise_pair.mpr hlt
  simp only [toJson, Json.nat, Json.ordered, Json.orderedFields] at hsorted ⊢
  rw [Fields.ofList_of_sorted hsorted]

theorem ofJson_toJson (network : ClusterNetwork) : ofJson network.toJson = .ok network := by
  have hlength : Json.decodeField [("cidr", .string network.cidr),
      ("hostSubnetLength", .nat network.hostSubnetLength.toNat)] "hostSubnetLength"
        Json.decodeUInt32 = .ok (some network.hostSubnetLength) := by
    have hget : Fields.get? "hostSubnetLength" [("cidr", Json.string network.cidr),
        ("hostSubnetLength", .nat network.hostSubnetLength.toNat)] =
          some (.nat network.hostSubnetLength.toNat) := by simp [Fields.get?]
    rw [Json.decodeField, hget]
    simp only [Json.decodeUInt32_nat]
    rfl
  rw [toJson, ofJson]
  simp only [hlength]
  simp [Json.decodeField, Fields.get?, Json.decodeString, Json.required, bind, Except.bind,
    Except.map]

end ClusterNetwork

namespace ProxyConfig

variable (arguments : Fields (List String))

theorem isExact_argumentsToJson : (argumentsToJson arguments).isExact = true := by
  refine Json.haveExact_iff.mpr fun p hp => ?_
  obtain ⟨q, -, rfl⟩ := List.mem_map.mp hp
  refine Json.areExact_iff.mpr fun v hv => ?_
  obtain ⟨text, -, rfl⟩ := List.mem_map.mp hv
  rfl

theorem argumentsOfJson_argumentsToJson :
    argumentsOfJson (argumentsToJson arguments) = .ok arguments := by
  have hvalues (texts : List String) :
      Json.decodeList Json.decodeString (.array (texts.map .string)) = .ok texts :=
    Json.decodeItems_map fun _ _ => rfl
  exact Json.decodeValues_map (g := fun texts => .array (texts.map .string))
    fun p _ => hvalues p.2

theorem ordered_argumentsToJson :
    (argumentsToJson arguments).ordered = argumentsToJson (Fields.ofList arguments) := by
  have hsame : Json.orderedFields (arguments.map fun p => (p.1, .array (p.2.map .string))) =
      arguments.map fun p => (p.1, .array (p.2.map .string)) := by
    rw [Json.orderedFields_eq_map, List.map_map]
    refine List.map_congr_left fun p _ => ?_
    simp [Json.ordered, Json.orderedItems_eq_map, Function.comp_def]
  have hmap := Fields.ofList_map (fun texts : List String => Json.array (texts.map .string)) arguments
  rw [argumentsToJson, Json.ordered, hsame, hmap]
  rfl

end ProxyConfig

structure NodeConfig.IsReadAs (config : NodeConfig) (v : Json) : Prop where
  bindAddress : v.get? ["servingInfo", "bindAddress"] =
    some (.string (config.bindAddress ++ ":10251"))
  iptablesSyncPeriod : v.get? ["iptablesSyncPeriod"] = some (.string config.iptablesSyncPeriod)
  /-- The mapping of all arguments, each with all its values; a mapping that is in order already
  is read as it is. -/
  proxyArguments : ∃ arguments, v.get? ["proxyArguments"] = some arguments ∧
    ProxyConfig.argumentsOfJson arguments = .ok (Fields.ofList config.proxyArguments) ∧
      (config.proxyArguments.Sorted →
        ProxyConfig.argumentsOfJson arguments = .ok config.proxyArguments)
  networkPluginName : v.get? ["networkConfig", "networkPluginName"] =
    some (.string config.networkPluginName)
  mtu : ∃ mtu, v.get? ["networkConfig", "mtu"] = some mtu ∧ Json.decodeUInt32 mtu = .ok config.mtu

structure ControllerConfig.IsReadAs (config : ControllerConfig) (v : Json) : Prop where
  networkPluginName : v.get? ["networkConfig", "networkPluginName"] =
    some (.string config.networkPluginName)
  clusterNetworks : ∃ networks, v.get? ["networkConfig", "clusterNetworks"] = some networks ∧
    Json.decodeList ClusterNetwork.ofJson networks = .ok config.clusterNetworks
  serviceNetwork : v.get? ["networkConfig", "serviceNetworkCIDR"] =
    some (.string config.serviceNetwork)
  vxlanPort : ∃ port, v.get? ["networkConfig", "vxlanPort"] = some port ∧
    Json.decodeUInt32 port = .ok config.vxlanPort

theorem NodeConfig.read?_text (config : NodeConfig) :
    ∃ v, Json.read? config.text = some v ∧ config.IsReadAs v := by
  have harguments := ProxyConfig.isExact_argumentsToJson config.proxyArguments
  have hmtu := Json.isExact_uint32 config.mtu
  have hexact : config.toJson.isExact = true := by
    simp [toJson, Json.isExact, Json.haveExact, harguments, hmtu]
  have hkeys : (["apiVersion", "kind", "servingInfo", "iptablesSyncPeriod", "proxyArguments",
      "networkConfig", "enableUnidling"] : List String).Nodup := by decide
  have hnetwork : (["networkPluginName", "mtu"] : List String).Nodup := by decide
  refine ⟨config.toJson.ordered, Json.read?_text hexact, ?_, ?_, ?_, ?_, ?_⟩
  · refine Json.get?_ordered_object hkeys (.tail _ (.tail _ (.head _))) ?_
    exact Json.get?_ordered_object (by simp) (.head _) rfl
  · exact Json.get?_ordered_object hkeys (.tail _ (.tail _ (.tail _ (.head _)))) rfl
  · have hread := ProxyConfig.argumentsOfJson_argumentsToJson (Fields.ofList config.proxyArguments)
    refine ⟨ProxyConfig.argumentsToJson (Fields.ofList config.proxyArguments), ?_, hread,
      fun hsorted => ?_⟩
    · refine Json.get?_ordered_object hkeys (.tail _ (.tail _ (.tail _ (.tail _ (.head _))))) ?_
      rw [ProxyConfig.ordered_argumentsToJson]
      rfl
    · rwa [Fields.ofList_of_sorted hsorted] at hread ⊢
  · refine Json.get?_ordered_object hkeys
      (.tail _ (.tail _ (.tail _ (.tail _ (.tail _ (.head _)))))) ?_
    exact Json.get?_ordered_object hnetwork (.head _) rfl
  · refine ⟨.nat config.mtu.toNat, ?_, Json.decodeUInt32_nat config.mtu⟩
    refine Json.get?_ordered_object hkeys
      (.tail _ (.tail _ (.tail _ (.tail _ (.tail _ (.head _)))))) ?_
    exact Json.get?_ordered_object hnetwork (.tail _ (.head _)) rfl

theorem ControllerConfig.read?_text (config : ControllerConfig) :
    ∃ v, Json.read? config.text = some v ∧ config.IsReadAs v := by
  have hnetworks : Json.areExact (config.clusterNetworks.map ClusterNetwork.toJson) = true := by
    refine Json.areExact_iff.mpr fun v hv => ?_
    obtain ⟨network, -, rfl⟩ := List.mem_map.mp hv
    exact network.isExact_toJson
  have hport := Json.isExact_uint32 config.vxlanPort
  have hexact : config.toJson.isExact = true := by
    simp [toJson, Json.isExact, Json.haveExact, hnetworks, hport]
  have hordered : (Json.array (config.clusterNetworks.map ClusterNetwork.toJson)).ordered =
      .array (config.clusterNetworks.map ClusterNetwork.toJson) := by
    rw [Json.ordered, Json.orderedItems_eq_map, List.map_map]
    exact congrArg _ (List.map_congr_left fun network _ => network.ordered_toJson)
  have hkeys : (["apiVersion", "kind", "networkConfig"] : List String).Nodup := by decide
  have hnetwork : (["networkPluginName", "clusterNetworks", "serviceNetworkCIDR",
      "vxlanPort"] : List String).Nodup := by decide
  refine ⟨config.toJson.ordered, Json.read?_text hexact, ?_, ?_, ?_, ?_⟩
  · refine Json.get?_ordered_object hkeys (.tail _ (.tail _ (.head _))) ?_
    exact Json.get?_ordered_object hnetwork (.head _) rfl
  · refine ⟨.array (config.clusterNetworks.map ClusterNetwork.toJson), ?_,
      Json.decodeItems_map fun network _ => network.ofJson_toJson⟩
    refine Json.get?_ordered_object hkeys (.tail _ (.tail _ (.head _))) ?_
    exact Json.get?_ordered_object hnetwork (.tail _ (.head _)) (congrArg some hordered)
  · refine Json.get?_ordered_object hkeys (.tail _ (.tail _ (.head _))) ?_
    exact Json.get?_ordered_object hnetwork (.tail _ (.tail _ (.head _))) rfl
  · refine ⟨.nat config.vxlanPort.toNat, ?_, Json.decodeUInt32_nat config.vxlanPort⟩
    refine Json.get?_ordered_object hkeys (.tail _ (.tail _ (.head _))) ?_
    exact Json.get?_ordered_object hnetwork (.tail _ (.tail _ (.tail _ (.head _)))) rfl

end OverlayConfig
