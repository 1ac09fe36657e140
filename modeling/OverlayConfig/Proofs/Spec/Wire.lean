import OverlayConfig.Proofs.Documents
import OverlayConfig.Proofs.Json.Decode
import OverlayConfig.Spec.Basic
set_option autoImplicit false

namespace OverlayConfig

namespace Mode

@[simp] theorem text_ofText (text : String) : (ofText text).text = text := by
  unfold ofText
  split
  · next h => exact h.symm
  split
  · next h => exact h.symm
  split
  · next h => exact h.symm
  · rfl

def IsOfText (mode : Mode) : Prop := ofText mode.text = mode

instance (mode : Mode) : Decidable mode.IsOfText := inferInstanceAs (Decidable (_ = _))

theorem isOfText_ofText (text : String) : (ofText text).IsOfText := by
  rw [IsOfText, text_ofText]

theorem IsOfText.orDefault {mode : Mode} (h : mode.IsOfText) : mode.orDefault.IsOfText := by
  cases mode with
  | unknown text =>
    rw [Mode.orDefault]
    split
    · rfl
    · exact h
  | _ => exact h

end Mode

theorem get?_optionField (k key : String) (o : Option Json) :
    Fields.get? k (optionField key o) = if key = k then o else none := by
  cases o with
  | none => simp [optionField]
  | some v => rfl

theorem textField_eq (key text : String) :
    textField key text = optionField key ((Option.guard (· ≠ "") text).map .string) := by
  by_cases h : text = "" <;> simp [textField, optionField, Option.guard, h]

theorem keys_optionField (key : String) (o : Option Json) :
    List.Sublist ((optionField key o).map Prod.fst) [key] := by
  cases o with
  | none => exact List.nil_sublist _
  | some v => exact List.Sublist.refl _

theorem getD_map_some {α : Type} (o : Option α) : (o.map some).getD none = o := by
  cases o <;> rfl

theorem getD_guard_ne {α : Type} [DecidableEq α] (unset x : α) :
    (Option.guard (· ≠ unset) x).getD unset = x := by
  by_cases h : x = unset <;> simp [Option.guard, h]

open Json

namespace SdnConfig

theorem isOfText_of_ofJson {v : Json} {config : SdnConfig} (h : ofJson v = .ok config) :
    config.mode.IsOfText := by
  have hread (v : Json) (mode : Mode) (h : Mode.ofJson v = .ok mode) : mode.IsOfText := by
    obtain ⟨text, -, rfl⟩ := map_eq_ok.mp h
    exact Mode.isOfText_ofText text
  cases v with
  | object fields =>
    simp only [ofJson, bind_eq_ok] at h
    obtain ⟨mode, hmode, _, -, _, -, _, -, h⟩ := h
    cases h
    exact of_getD (of_decodeField hmode fun v x _ => hread v x) rfl
  | array items =>
    simp only [ofJson, bind_eq_ok] at h
    obtain ⟨mode, hmode, _, -, _, -, _, -, _, -, h⟩ := h
    cases h
    exact of_getD (of_decodeItem hmode fun v x _ => hread v x) rfl
  | _ => cases h

theorem toJson_eq_object (config : SdnConfig) : ∃ fields : Fields Json,
    config.toJson = .object fields ∧ (fields.map Prod.fst).Nodup ∧
      fields.get? "mode" = some (.string config.mode.text) ∧
      fields.get? "vxlanPort" = config.vxlanPort.map (fun n => .nat n.toNat) ∧
      fields.get? "mtu" = config.mtu.map (fun n => .nat n.toNat) ∧
      fields.get? "useExternalOpenvswitch" = config.externalOpenvswitch.map .bool := by
  refine ⟨_, rfl, ?_, rfl, ?_, ?_, ?_⟩
  · have hall : (["mode", "vxlanPort", "mtu", "useExternalOpenvswitch"] : List String).Nodup := by
      decide
    refine hall.sublist ?_
    simp only [List.map_append, List.map_cons]
    exact .cons_cons _ (((keys_optionField _ _).append (keys_optionField _ _)).append
      (keys_optionField _ _))
  all_goals simp [Fields.get?, Fields.get?_append, get?_optionField]

theorem ofJson_reordered {t : Json → Json} (ht : Reorders t) {config : SdnConfig}
    (hmode : config.mode.IsOfText) : ofJson (t config.toJson) = .ok config := by
  obtain ⟨fields, heq, hkeys, hm, hp, hu, he⟩ := config.toJson_eq_object
  obtain ⟨fields', hfields, hget⟩ := ht.object fields hkeys
  have hword (n : UInt32) : decodeOption decodeUInt32 (t (.nat n.toNat)) = .ok (some n) := by
    rw [nat, ht.number]
    exact decodeOption_of_ne (by simp) (decodeUInt32_nat n)
  have hmode : decodeField fields' "mode" Mode.ofJson = .ok (some config.mode) := by
    refine decodeField_of_get? (v := .string config.mode.text) ?_ (congrArg _ hmode)
    rw [hget, hm, Option.map_some, ht.string]
  have hport : decodeField fields' "vxlanPort" (decodeOption decodeUInt32) =
      .ok (config.vxlanPort.map some) :=
    decodeField_optional (by rw [hget, hp]) fun n _ => hword n
  have hmtu : decodeField fields' "mtu" (decodeOption decodeUInt32) =
      .ok (config.mtu.map some) :=
    decodeField_optional (by rw [hget, hu]) fun n _ => hword n
  have hexternal : decodeField fields' "useExternalOpenvswitch" (decodeOption decodeBool) =
      .ok (config.externalOpenvswitch.map some) := by
    refine decodeField_optional (by rw [hget, he]) fun b _ => ?_
    rw [ht.bool]
    rfl
  rw [heq, hfields, ofJson]
  simp only [hmode, hport, hmtu, hexternal, bind, Except.bind, Option.getD_some, getD_map_some]

theorem isExact_toJson (config : SdnConfig) : config.toJson.isExact = true := by
  have hword (o : Option UInt32) (key : String) :
      haveExact (optionField key (o.map fun n => .nat n.toNat)) = true := by
    cases o with
    | none => rfl
    | some n => simp [optionField, haveExact, isExact_uint32]
  have hflag (o : Option Bool) (key : String) :
      haveExact (optionField key (o.map .bool)) = true := by cases o <;> rfl
  simp [toJson, Mode.toJson, isExact, haveExact, haveExact_append, hword, hflag]

end SdnConfig

namespace DefaultNetwork

theorem isExact_toJson (network : DefaultNetwork) : network.toJson.isExact = true := by
  obtain ⟨config⟩ := network
  cases config <;>
    simp [toJson, sdn?, isExact, haveExact, optionField, SdnConfig.isExact_toJson]

theorem ofParts_eq_ok {type : String} {config : Option SdnConfig} {network : DefaultNetwork} :
    ofParts type config = .ok network ↔
      type = "OpenShiftSDN" ∧ network = .openShiftSdn config := by
  by_cases h : type = "OpenShiftSDN"
  · simp [ofParts, h, eq_comm]
  · cases config <;> simp [ofParts, h]

theorem ofJson_reordered {t : Json → Json} (ht : Reorders t) {network : DefaultNetwork}
    (hmode : ∀ config ∈ network.sdn?, config.mode.IsOfText) :
    ofJson (t network.toJson) = .ok network := by
  obtain ⟨config⟩ := network
  obtain ⟨fields, hfields, hget⟩ := ht.object
    (("type", .string "OpenShiftSDN") ::
      optionField "openshiftSDNConfig" (config.map SdnConfig.toJson))
    (by cases config <;> simp [optionField])
  have hconfig : decodeField fields "openshiftSDNConfig" (decodeOption SdnConfig.ofJson) =
      .ok (config.map some) := by
    refine decodeField_optional (g := SdnConfig.toJson) (t := t) ?_ fun c hc => ?_
    · rw [hget, Fields.get?, if_neg (by decide), get?_optionField, if_pos rfl]
    · have hread := SdnConfig.ofJson_reordered ht (hmode c hc)
      exact decodeOption_of_ne (ne_null_of_ok hread (by simp [SdnConfig.ofJson])) hread
  have htype : decodeField fields "type" decodeString = .ok (some "OpenShiftSDN") :=
    decodeField_of_get? (v := .string "OpenShiftSDN") (by simp [hget, Fields.get?, ht.string]) rfl
  change ofJson (t (.object _)) = _
  rw [typeName, sdn?, hfields, ofJson]
  simp only [hconfig, htype, bind, Except.bind, required, ofParts, if_true, getD_map_some]

theorem isOfText_of_ofJson {v : Json} {network : DefaultNetwork} (h : ofJson v = .ok network) :
    ∀ config ∈ network.sdn?, config.mode.IsOfText := by
  have hread {w : Json} {read : Option SdnConfig}
      (h : decodeOption SdnConfig.ofJson w = .ok read) : ∀ config ∈ read, config.mode.IsOfText :=
    of_decodeOption h fun config h => SdnConfig.isOfText_of_ofJson h
  cases v with
  | object fields =>
    simp only [ofJson, bind_eq_ok] at h
    obtain ⟨read, hconfig, _, -, type, -, h⟩ := h
    rw [(ofParts_eq_ok.mp h).2]
    exact of_getD (of_decodeField hconfig fun _ _ _ h => hread h) nofun
  | array items =>
    simp only [ofJson, bind_eq_ok] at h
    obtain ⟨_, -, type, -, read, hconfig, _, -, h⟩ := h
    rw [(ofParts_eq_ok.mp h).2]
    exact of_getD (of_decodeItem hconfig fun _ _ _ h => hread h) nofun
  | _ => cases h

end DefaultNetwork

namespace ClusterNetwork

theorem ofJson_reordered {t : Json → Json} (ht : Reorders t) (network : ClusterNetwork) :
    ofJson (t network.toJson) = .ok network := by
  obtain ⟨fields, hfields, hget⟩ := ht.object [("cidr", .string network.cidr),
    ("hostSubnetLength", .nat network.hostSubnetLength.toNat)] (by simp)
  have hcidr : decodeField fields "cidr" decodeString = .ok (some network.cidr) :=
    decodeField_of_get? (v := .string network.cidr) (by simp [hget, Fields.get?, ht.string]) rfl
  have hlength : decodeField fields "hostSubnetLength" decodeUInt32 =
      .ok (some network.hostSubnetLength) :=
    decodeField_of_get? (by simp [hget, Fields.get?, nat, ht.number])
      (decodeUInt32_nat network.hostSubnetLength)
  rw [toJson, hfields, ofJson]
  simp only [hcidr, hlength, bind, Except.bind, required]

end ClusterNetwork

namespace ProxyConfig

theorem toJson_eq_object (proxy : ProxyConfig) : ∃ fields : Fields Json,
    proxy.toJson = .object fields ∧ (fields.map Prod.fst).Nodup ∧
      fields.get? "bindAddress" = (Option.guard (· ≠ "") proxy.bindAddress).map .string ∧
      fields.get? "iptablesSyncPeriod" =
        (Option.guard (· ≠ "") proxy.iptablesSyncPeriod).map .string ∧
      fields.get? "proxyArguments" =
        (Option.guard (· ≠ []) proxy.proxyArguments).map argumentsToJson := by
  have harguments : (if proxy.proxyArguments.isEmpty then []
      else [("proxyArguments", argumentsToJson proxy.proxyArguments)]) =
      optionField "proxyArguments"
        ((Option.guard (· ≠ []) proxy.proxyArguments).map argumentsToJson) := by
    cases proxy.proxyArguments <;> rfl
  rw [toJson, textField_eq, textField_eq, harguments]
  refine ⟨_, rfl, ?_, ?_, ?_, ?_⟩
  · have hall : (["bindAddress", "iptablesSyncPeriod", "proxyArguments"] : List String).Nodup := by
      decide
    refine hall.sublist ?_
    simp only [List.map_append]
    exact ((keys_optionField _ _).append (keys_optionField _ _)).append (keys_optionField _ _)
  all_goals simp [Fields.get?_append, get?_optionField]

theorem ofJson_reordered {t : Json → Json} (ht : Reorders t) {proxy : ProxyConfig}
    (harguments : argumentsOfJson (t (argumentsToJson proxy.proxyArguments)) =
      .ok proxy.proxyArguments) : ofJson (t proxy.toJson) = .ok proxy := by
  obtain ⟨fields, heq, hkeys, ha, hp, hargs⟩ := proxy.toJson_eq_object
  obtain ⟨fields', hfields, hget⟩ := ht.object fields hkeys
  have htext (s : String) : decodeString (t (.string s)) = .ok s := by
    rw [ht.string]
    rfl
  have haddress : decodeField fields' "bindAddress" decodeString =
      .ok ((Option.guard (· ≠ "") proxy.bindAddress).map id) :=
    decodeField_optional (by rw [hget, ha]) fun s _ => htext s
  have hperiod : decodeField fields' "iptablesSyncPeriod" decodeString =
      .ok ((Option.guard (· ≠ "") proxy.iptablesSyncPeriod).map id) :=
    decodeField_optional (by rw [hget, hp]) fun s _ => htext s
  have hmapping : decodeField fields' "proxyArguments" argumentsOfJson =
      .ok ((Option.guard (· ≠ []) proxy.proxyArguments).map id) := by
    refine decodeField_optional (by rw [hget, hargs]) fun arguments h => ?_
    obtain rfl := (Option.guard_eq_some_iff.mp h).1
    exact harguments
  rw [heq, hfields, ofJson]
  simp only [haddress, hperiod, hmapping, bind, Except.bind, Option.map_id_fun, id_eq, getD_guard_ne]

theorem isExact_toJson (proxy : ProxyConfig) : proxy.toJson.isExact = true := by
  have htext (key text : String) : haveExact (textField key text) = true := by
    rw [textField]
    split <;> rfl
  have harguments := isExact_argumentsToJson proxy.proxyArguments
  simp only [toJson, isExact, haveExact_append, htext]
  split <;> simp [haveExact, harguments]

theorem sorted_of_ofJson {v : Json} {proxy : ProxyConfig} (hv : v.ordered = v)
    (h : ofJson v = .ok proxy) : proxy.proxyArguments.Sorted := by
  have hread {w : Json} (hw : w.ordered = w) {arguments : Fields (List String)}
      (h : argumentsOfJson w = .ok arguments) : arguments.Sorted := by
    cases w with
    | object fields =>
      rw [Fields.sorted_iff, keys_of_decodeValues h, ← Fields.sorted_iff]
      exact (ordered_object_eq_self.mp hw).1
    | _ => cases h
  cases v with
  | object fields =>
    simp only [ofJson, bind_eq_ok] at h
    obtain ⟨_, -, _, -, read, harguments, h⟩ := h
    cases h
    refine of_getD (of_decodeField harguments fun w _ hget hw => hread ?_ hw) .nil
    exact (ordered_object_eq_self.mp hv).2 _ (Fields.mem_of_get? hget)
  | array items =>
    simp only [ofJson, bind_eq_ok] at h
    obtain ⟨_, -, _, -, read, harguments, _, -, h⟩ := h
    cases h
    refine of_getD (of_decodeItem harguments fun w _ hmem hw => hread ?_ hw) .nil
    exact ordered_array_eq_self.mp hv w hmem
  | _ => cases h

end ProxyConfig

namespace NetworkSpec

theorem toJson_eq_object (spec : NetworkSpec) : ∃ fields : Fields Json,
    spec.toJson = .object fields ∧ (fields.map Prod.fst).Nodup ∧
      fields.get? "serviceNetwork" = some (.string spec.serviceNetwork) ∧
      fields.get? "clusterNetworks" =
        some (.array (spec.clusterNetworks.map ClusterNetwork.toJson)) ∧
      fields.get? "defaultNetwork" = some spec.defaultNetwork.toJson ∧
      fields.get? "deployKubeProxy" = spec.deployKubeProxy.map .bool ∧
      fields.get? "kubeProxyConfig" = spec.kubeProxyConfig.map ProxyConfig.toJson := by
  refine ⟨_, rfl, ?_, rfl, rfl, rfl, ?_, ?_⟩
  · have hall : (["serviceNetwork", "clusterNetworks", "defaultNetwork", "deployKubeProxy",
        "kubeProxyConfig"] : List String).Nodup := by decide
    refine hall.sublist ?_
    simp only [List.map_append, List.map_cons, List.map_nil]
    exact ((List.Sublist.refl ["serviceNetwork", "clusterNetworks", "defaultNetwork"]).append
      (keys_optionField _ _)).append (keys_optionField _ _)
  all_goals simp [Fields.get?, get?_optionField, Fields.get?_append]

theorem ofJson_reordered {t : Json → Json} (ht : Reorders t) {spec : NetworkSpec}
    (hmode : ∀ config ∈ spec.sdn?, config.mode.IsOfText)
    (harguments : ∀ proxy ∈ spec.kubeProxyConfig,
      ProxyConfig.argumentsOfJson (t (ProxyConfig.argumentsToJson proxy.proxyArguments)) =
        .ok proxy.proxyArguments) : ofJson (t spec.toJson) = .ok spec := by
  obtain ⟨fields, heq, hkeys, hs, hc, hn, hd, hp⟩ := spec.toJson_eq_object
  obtain ⟨fields', hfields, hget⟩ := ht.object fields hkeys
  have hservice : decodeField fields' "serviceNetwork" decodeString =
      .ok (some spec.serviceNetwork) :=
    decodeField_of_get? (v := .string spec.serviceNetwork)
      (by rw [hget, hs, Option.map_some, ht.string]) rfl
  have hclusters : decodeField fields' "clusterNetworks" (decodeList ClusterNetwork.ofJson) =
      .ok (some spec.clusterNetworks) := by
    refine decodeField_of_get?
      (v := .array ((spec.clusterNetworks.map ClusterNetwork.toJson).map t)) ?_ ?_
    · rw [hget, hc, Option.map_some, ht.array]
    · rw [List.map_map]
      exact decodeItems_map fun network _ => ClusterNetwork.ofJson_reordered ht network
  have hnetwork : decodeField fields' "defaultNetwork" DefaultNetwork.ofJson =
      .ok (some spec.defaultNetwork) :=
    decodeField_of_get? (by rw [hget, hn]; rfl) (DefaultNetwork.ofJson_reordered ht hmode)
  have hdeploy : decodeField fields' "deployKubeProxy" (decodeOption decodeBool) =
      .ok (spec.deployKubeProxy.map some) := by
    refine decodeField_optional (by rw [hget, hd]) fun b _ => ?_
    rw [ht.bool]
    rfl
  have hproxy : decodeField fields' "kubeProxyConfig" (decodeOption ProxyConfig.ofJson) =
      .ok (spec.kubeProxyConfig.map some) := by
    refine decodeField_optional (by rw [hget, hp]) fun proxy h => ?_
    have hread := ProxyConfig.ofJson_reordered ht (harguments proxy h)
    exact decodeOption_of_ne (ne_null_of_ok hread (by simp [ProxyConfig.ofJson])) hread
  rw [heq, hfields, ofJson]
  simp only [hservice, hclusters, hnetwork, hdeploy, hproxy, bind, Except.bind, required,
    Option.getD_some, getD_map_some]

/-- A network is read from its fields in order as well, where the arguments of its proxy are. -/
theorem ofJson_ordered {spec : NetworkSpec} (hmode : ∀ config ∈ spec.sdn?, config.mode.IsOfText)
    (hsorted : ∀ proxy ∈ spec.kubeProxyConfig, proxy.proxyArguments.Sorted) :
    ofJson spec.toJson.ordered = .ok spec := by
  refine ofJson_reordered reorders_ordered hmode fun proxy hproxy => ?_
  rw [ProxyConfig.ordered_argumentsToJson, Fields.ofList_of_sorted (hsorted proxy hproxy)]
  exact ProxyConfig.argumentsOfJson_argumentsToJson proxy.proxyArguments

theorem isOfText_of_ofJson {v : Json} {spec : NetworkSpec} (h : ofJson v = .ok spec) :
    ∀ config ∈ spec.sdn?, config.mode.IsOfText := by
  cases v with
  | object fields =>
    simp only [ofJson, bind_eq_ok] at h
    obtain ⟨_, -, read, hread, _, -, _, -, _, -, _, -, network, hnetwork, h⟩ := h
    cases h
    obtain rfl := required_eq_ok.mp hnetwork
    exact of_decodeField hread (fun _ _ _ h => DefaultNetwork.isOfText_of_ofJson h) network rfl
  | array items =>
    simp only [ofJson, bind_eq_ok] at h
    obtain ⟨_, -, _, -, _, -, read, hread, network, hnetwork, _, -, _, -, _, -, h⟩ := h
    cases h
    obtain rfl := requiredItem_eq_ok.mp hnetwork
    exact of_decodeItem hread (fun _ _ _ h => DefaultNetwork.isOfText_of_ofJson h) network rfl
  | _ => cases h

theorem sorted_of_ofJson {v : Json} {spec : NetworkSpec} (hv : v.ordered = v)
    (h : ofJson v = .ok spec) : ∀ proxy ∈ spec.kubeProxyConfig, proxy.proxyArguments.Sorted := by
  have hproxy {w : Json} (hw : w.ordered = w) {read : Option ProxyConfig}
      (h : decodeOption ProxyConfig.ofJson w = .ok read) :
      ∀ proxy ∈ read, proxy.proxyArguments.Sorted :=
    of_decodeOption h fun proxy h => ProxyConfig.sorted_of_ofJson hw h
  cases v with
  | object fields =>
    simp only [ofJson, bind_eq_ok] at h
    obtain ⟨_, -, _, -, _, -, read, hread, _, -, _, -, _, -, h⟩ := h
    cases h
    refine of_getD (of_decodeField hread fun w _ hget hw => hproxy ?_ hw) nofun
    exact (ordered_object_eq_self.mp hv).2 _ (Fields.mem_of_get? hget)
  | array items =>
    simp only [ofJson, bind_eq_ok] at h
    obtain ⟨_, -, _, -, _, -, _, -, _, -, _, -, read, hread, _, -, h⟩ := h
    cases h
    refine of_getD (of_decodeItem hread fun w _ hmem hw => hproxy ?_ hw) nofun
    exact ordered_array_eq_self.mp hv w hmem
  | _ => cases h

theorem isOfText_withDefaults {spec : NetworkSpec} (h : ∀ config ∈ spec.sdn?, config.mode.IsOfText)
    (previous : Option NetworkSpec) (hostMtu : UInt32) :
    ∀ config ∈ (spec.withDefaults previous hostMtu).sdn?, config.mode.IsOfText := by
  rintro _ ⟨⟩
  refine Mode.IsOfText.orDefault ?_
  cases hconfig : spec.sdn? with
  | none => rfl
  | some config => exact h config hconfig

theorem sorted_withDefaults {spec : NetworkSpec}
    (h : ∀ proxy ∈ spec.kubeProxyConfig, proxy.proxyArguments.Sorted)
    (previous : Option NetworkSpec) (hostMtu : UInt32) :
    ∀ proxy ∈ (spec.withDefaults previous hostMtu).kubeProxyConfig,
      proxy.proxyArguments.Sorted := by
  have hdefault : defaultProxyArguments.Sorted := List.pairwise_singleton _ _
  rintro _ ⟨⟩
  simp only [ProxyConfig.withDefaults]
  split
  · exact hdefault
  · cases hproxy : spec.kubeProxyConfig with
    | none => exact .nil
    | some proxy => exact h proxy hproxy

theorem isExact_toJson (spec : NetworkSpec) : spec.toJson.isExact = true := by
  have hclusters : areExact (spec.clusterNetworks.map ClusterNetwork.toJson) = true := by
    refine areExact_iff.mpr fun v hv => ?_
    obtain ⟨network, -, rfl⟩ := List.mem_map.mp hv
    exact network.isExact_toJson
  have hproxy (proxy : ProxyConfig) : proxy.toJson.isExact = true := proxy.isExact_toJson
  cases hp : spec.kubeProxyConfig <;> cases hd : spec.deployKubeProxy <;>
    simp [toJson, isExact, haveExact, optionField, hclusters, hproxy,
      DefaultNetwork.isExact_toJson, hp, hd]

/-- A network that is read from any value, and what its defaults make of it, is written as a value
that is read as the same network, and so is written the same again. Where the mappings of the first
value are in order, this holds as well for the text that is written, which is read with its mappings
in order. -/
theorem ofJson_toJson_of_ofJson {v : Json} {spec : NetworkSpec} (h : ofJson v = .ok spec)
    (previous : Option NetworkSpec) (hostMtu : UInt32) {network : NetworkSpec}
    (hnetwork : network = spec ∨ network = spec.withDefaults previous hostMtu) :
    ofJson network.toJson = .ok network ∧
      (ofJson network.toJson).map toJson = .ok network.toJson ∧
      (v.ordered = v → read? network.toJson.text = some network.toJson.ordered ∧
        ofJson network.toJson.ordered = .ok network) := by
  have hmode : ∀ config ∈ network.sdn?, config.mode.IsOfText := by
    rcases hnetwork with rfl | rfl
    · exact isOfText_of_ofJson h
    · exact isOfText_withDefaults (isOfText_of_ofJson h) previous hostMtu
  have hread : ofJson network.toJson = .ok network :=
    ofJson_reordered reorders_id hmode fun proxy _ =>
      ProxyConfig.argumentsOfJson_argumentsToJson proxy.proxyArguments
  refine ⟨hread, by rw [hread]; rfl, fun hv => ⟨read?_text network.isExact_toJson, ?_⟩⟩
  have hsorted : ∀ proxy ∈ network.kubeProxyConfig, proxy.proxyArguments.Sorted := by
    rcases hnetwork with rfl | rfl
    · exact sorted_of_ofJson hv h
    · exact sorted_withDefaults (sorted_of_ofJson hv h) previous hostMtu
  exact ofJson_ordered hmode hsorted

def looseForm : Json :=
  .object [("defaultNetwork",
      .array [.string "OpenShiftSDN", .array [.string "Flat", .null, .nat 9000]]),
    ("deployKubeProxy", .null),
    ("kubeProxyConfig", .object [("proxyArguments", .object [("a", .array [.string "b"])])]),
    ("serviceNetwork", .string ""), ("status", .null)]

def looseNetwork : NetworkSpec :=
  ⟨"", [], .openShiftSdn (some ⟨.unknown "Flat", none, some 9000, none⟩), none,
    some ⟨"", "", [("a", ["b"])]⟩⟩

theorem ofJson_toJson_of_ofJson_loose : ofJson looseForm = .ok looseNetwork ∧
    looseForm.ordered = looseForm ∧ ofJson looseNetwork.toJson = .ok looseNetwork ∧
    ofJson (looseNetwork.withDefaults none 1500).toJson.ordered =
      .ok (looseNetwork.withDefaults none 1500) := by
  have h : ofJson looseForm = .ok looseNetwork := by rfl
  have hordered : looseForm.ordered = looseForm := by decide
  exact ⟨h, hordered, (ofJson_toJson_of_ofJson h none 1500 (.inl rfl)).1,
    ((ofJson_toJson_of_ofJson h none 1500 (.inr rfl)).2.2 hordered).2⟩

end NetworkSpec

end OverlayConfig
