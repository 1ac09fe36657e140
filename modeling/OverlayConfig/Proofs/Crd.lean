import OverlayConfig.Crd
import OverlayConfig.Proofs.Schema
import OverlayConfig.Proofs.Spec.Wire
/-!
The published schema of a network and the reader of its JSON form. Where records are written as
objects, the two take the same values, but for the name of the backend, which to the schema is any
text.
-/
set_option autoImplicit false

namespace OverlayConfig

namespace Json

section Reads

variable {α : Type} {f : Json → Except DecodeError α} {v : Json} {schema : Schema}

theorem reads_decodeString (hkind : schema.kind = .text)
    (hnull : v = .null → schema.acceptsNull = false) :
    Reads decodeString v ↔ schema.accepts v = true := by
  cases v <;> simp_all [Reads, decodeString, Schema.accepts, Schema.acceptsLeaf]

theorem reads_decodeBool (hkind : schema.kind = .flag)
    (hnull : v = .null → schema.acceptsNull = false) :
    Reads decodeBool v ↔ schema.accepts v = true := by
  cases v <;> simp_all [Reads, decodeBool, Schema.accepts, Schema.acceptsLeaf]

theorem reads_decodeUInt32 (hkind : schema.kind = .uint32)
    (hnull : v = .null → schema.acceptsNull = false) :
    Reads decodeUInt32 v ↔ schema.accepts v = true := by
  cases v with
  | number n =>
    cases n with
    | int n =>
      by_cases hn : 0 ≤ n ∧ n < 4294967296 <;>
        simp [Reads, decodeUInt32, Schema.accepts, Schema.acceptsLeaf, hkind, hn]
    | double d => simp [Reads, decodeUInt32, Schema.accepts, Schema.acceptsLeaf]
  | _ => simp_all [Reads, decodeUInt32, Schema.accepts, Schema.acceptsLeaf]

theorem reads_decodeOption (hnull : schema.acceptsNull = true)
    (h : v ≠ .null → (Reads f v ↔ schema.accepts v = true)) :
    Reads (decodeOption f) v ↔ schema.accepts v = true := by
  by_cases hne : v = .null
  · simp [hne, Reads, decodeOption, Schema.accepts, Schema.acceptsLeaf, hnull]
  · rw [← h hne, Reads, decodeOption_eq_map hne]
    exact reads_map

theorem reads_decodeList {item : Schema} (hkind : schema.kind = .list item)
    (hnull : v = .null → schema.acceptsNull = false)
    (h : ∀ items, v = .array items → ∀ w ∈ items, (Reads f w ↔ item.accepts w = true)) :
    Reads (decodeList f) v ↔ schema.accepts v = true := by
  cases v with
  | array items =>
    rw [Schema.accepts, hkind, Schema.acceptsItems_iff]
    exact exists_decodeItems.trans (forall_congr' fun w => forall_congr' (h items rfl w))
  | _ => simp_all [Reads, decodeList, Schema.accepts, Schema.acceptsLeaf]

theorem reads_decodeMapping {value : Schema} (hkind : schema.kind = .table value)
    (hnull : v = .null → schema.acceptsNull = false)
    (h : ∀ w, Reads f w ↔ value.accepts w = true) :
    Reads (decodeMapping f) v ↔ schema.accepts v = true := by
  cases v with
  | object fields =>
    rw [Schema.accepts, hkind, Schema.acceptsValues_iff]
    exact exists_decodeValues.trans (forall_congr' fun p => forall_congr' fun _ => h p.2)
  | _ => simp_all [Reads, decodeMapping, Schema.accepts, Schema.acceptsLeaf]

section Fields

variable {fields : Fields Json} {key : String}

theorem exists_decodeField_iff
    (h : ∀ w, fields.get? key = some w → (Reads f w ↔ schema.accepts w = true)) :
    (∃ o, decodeField fields key f = .ok o) ↔
      ∀ w, fields.get? key = some w → schema.accepts w = true :=
  exists_decodeField.trans (forall_congr' fun w => forall_congr' (h w))

theorem exists_required_iff {name : String}
    (h : ∀ w, fields.get? key = some w → (Reads f w ↔ schema.accepts w = true)) :
    (∃ o, decodeField fields key f = .ok o ∧ ∃ x, required name o = .ok x) ↔
      (∃ w, fields.get? key = some w) ∧
        ∀ w, fields.get? key = some w → schema.accepts w = true := by
  rw [exists_required]
  cases hget : fields.get? key with
  | none => simp
  | some w => simpa using h w hget

end Fields

end Reads

end Json

open Json

section Records

variable {v : Json} {fields : Fields Json}

def Json.IsNoArray (v : Json) : Prop := ∀ items, v ≠ .array items

theorem Json.get?_key (key : String) : (object fields).get? [key] = fields.get? key := by
  simp [Json.get?, fields?]

theorem ClusterNetwork.reads_object : Reads ofJson (.object fields) ↔
    (∃ o, decodeField fields "cidr" decodeString = .ok o ∧ ∃ x, required "cidr" o = .ok x) ∧
      ∃ o, decodeField fields "hostSubnetLength" decodeUInt32 = .ok o ∧
        ∃ x, required "hostSubnetLength" o = .ok x := by
  simp only [Reads, ofJson, bind_eq_ok]
  constructor
  · rintro ⟨_, cidr, hcidr, length, hlength, c, hc, l, hl, -⟩
    exact ⟨⟨cidr, hcidr, c, hc⟩, length, hlength, l, hl⟩
  · rintro ⟨⟨cidr, hcidr, c, hc⟩, length, hlength, l, hl⟩
    exact ⟨_, cidr, hcidr, length, hlength, c, hc, l, hl, rfl⟩

theorem ClusterNetwork.reads_ofJson (harray : v.IsNoArray) (hdistinct : v.isDistinct = true) :
    Reads ofJson v ↔ Crd.clusterNetworkSchema.accepts v = true := by
  cases v with
  | object fields =>
    rw [Schema.accepts_record rfl (isDistinct_object hdistinct).1 (by decide), reads_object]
    simp only [List.forall_mem_cons, List.not_mem_nil, false_implies, implies_true, and_true]
    rw [and_and_and_comm]
    exact and_congr
      (exists_required_iff fun w _ => reads_decodeString rfl fun _ => rfl)
      (exists_required_iff fun w _ => reads_decodeUInt32 rfl fun _ => rfl)
  | array items => exact absurd rfl (harray items)
  | _ => simp [Reads, ofJson, Schema.accepts, Schema.acceptsLeaf, Crd.clusterNetworkSchema,
      Schema.described, Schema.acceptsNull, Schema.kind]

theorem SdnConfig.reads_object : Reads ofJson (.object fields) ↔
    (∃ o, decodeField fields "mode" Mode.ofJson = .ok o) ∧
      (∃ o, decodeField fields "mtu" (decodeOption decodeUInt32) = .ok o) ∧
      (∃ o, decodeField fields "useExternalOpenvswitch" (decodeOption decodeBool) = .ok o) ∧
      ∃ o, decodeField fields "vxlanPort" (decodeOption decodeUInt32) = .ok o := by
  simp only [Reads, ofJson, bind_eq_ok]
  constructor
  · rintro ⟨_, mode, hmode, mtu, hmtu, external, hexternal, port, hport, -⟩
    exact ⟨⟨mode, hmode⟩, ⟨mtu, hmtu⟩, ⟨external, hexternal⟩, port, hport⟩
  · rintro ⟨⟨mode, hmode⟩, ⟨mtu, hmtu⟩, ⟨external, hexternal⟩, port, hport⟩
    exact ⟨_, mode, hmode, mtu, hmtu, external, hexternal, port, hport, rfl⟩

theorem SdnConfig.reads_ofJson (hnull : v ≠ .null) (harray : v.IsNoArray)
    (hdistinct : v.isDistinct = true) : Reads ofJson v ↔ Crd.sdnSchema.accepts v = true := by
  cases v with
  | object fields =>
    rw [Schema.accepts_record rfl (isDistinct_object hdistinct).1 (by decide), reads_object]
    simp only [List.forall_mem_cons, List.not_mem_nil, false_implies, implies_true, true_and,
      and_true]
    have huint32 {schema : Schema} (hkind : schema.kind = .uint32)
        (hnull : schema.acceptsNull = true) (w : Json) :
        Reads (decodeOption decodeUInt32) w ↔ schema.accepts w = true :=
      reads_decodeOption hnull fun hne => reads_decodeUInt32 hkind fun heq => absurd heq hne
    exact and_congr
      (exists_decodeField_iff fun w _ => reads_map.trans (reads_decodeString rfl fun _ => rfl))
      (and_congr (exists_decodeField_iff fun w _ => huint32 rfl rfl w)
        (and_congr
          (exists_decodeField_iff fun w _ =>
            reads_decodeOption rfl fun hne => reads_decodeBool rfl fun heq => absurd heq hne)
          (exists_decodeField_iff fun w _ => huint32 rfl rfl w)))
  | array items => exact absurd rfl (harray items)
  | null => exact absurd rfl hnull
  | _ => simp [Reads, ofJson, Schema.accepts, Schema.acceptsLeaf, Crd.sdnSchema,
      Schema.nullable, Schema.kind]

theorem DefaultNetwork.reads_object : Reads ofJson (.object fields) ↔
    (∃ o, decodeField fields "openshiftSDNConfig" (decodeOption SdnConfig.ofJson) = .ok o) ∧
      fields.get? "type" = some (.string "OpenShiftSDN") := by
  have htype : (∃ o, decodeField fields "type" decodeString = .ok o ∧
      required "type" o = .ok "OpenShiftSDN") ↔
      fields.get? "type" = some (.string "OpenShiftSDN") := by
    simp only [required_eq_ok, exists_eq_right, decodeField]
    cases fields.get? "type" with
    | none => simp
    | some w => cases w <;> simp [decodeString, Except.map]
  rw [← htype]
  simp only [Reads, ofJson, bind_eq_ok, ofParts_eq_ok]
  constructor
  · rintro ⟨_, config, hconfig, type, htype, _, hrequired, rfl, -⟩
    exact ⟨⟨config, hconfig⟩, type, htype, hrequired⟩
  · rintro ⟨⟨config, hconfig⟩, type, htype, hrequired⟩
    exact ⟨_, config, hconfig, type, htype, _, hrequired, rfl, rfl⟩

theorem DefaultNetwork.reads_ofJson (harray : v.IsNoArray)
    (hsdn : ∀ w, v.get? ["openshiftSDNConfig"] = some w → w.IsNoArray)
    (hdistinct : v.isDistinct = true) :
    Reads ofJson v ↔ Crd.defaultNetworkSchema.accepts v = true ∧
      v.get? ["type"] = some (.string "OpenShiftSDN") := by
  cases v with
  | object fields =>
    obtain ⟨hkeys, hvalues⟩ := isDistinct_object hdistinct
    rw [Schema.accepts_record rfl hkeys (by decide), reads_object]
    simp only [List.forall_mem_cons, List.not_mem_nil, false_implies, implies_true, and_true]
    have hconfig : (∃ o, decodeField fields "openshiftSDNConfig"
          (decodeOption SdnConfig.ofJson) = .ok o) ↔
        ∀ w, Fields.get? "openshiftSDNConfig" fields = some w →
          Crd.sdnSchema.accepts w = true := by
      refine exists_decodeField_iff fun w hw => reads_decodeOption ?_ fun hne => ?_
      · rfl
      · exact SdnConfig.reads_ofJson hne (hsdn w (by rw [get?_key, hw]))
          (hvalues _ (Fields.mem_of_get? hw))
    rw [hconfig, get?_key]
    constructor
    · rintro ⟨hsdn, htype⟩
      refine ⟨⟨⟨_, htype⟩, hsdn, fun w hw => ?_⟩, htype⟩
      rw [htype] at hw
      cases hw
      rfl
    · rintro ⟨⟨-, hsdn, -⟩, htype⟩
      exact ⟨hsdn, htype⟩
  | array items => exact absurd rfl (harray items)
  | _ => simp [Reads, ofJson, Schema.accepts, Schema.acceptsLeaf, Crd.defaultNetworkSchema,
      Schema.described, Schema.acceptsNull, Schema.kind, get?, fields?]

theorem ProxyConfig.reads_object : Reads ofJson (.object fields) ↔
    (∃ o, decodeField fields "bindAddress" decodeString = .ok o) ∧
      (∃ o, decodeField fields "iptablesSyncPeriod" decodeString = .ok o) ∧
      ∃ o, decodeField fields "proxyArguments" argumentsOfJson = .ok o := by
  simp only [Reads, ofJson, bind_eq_ok]
  constructor
  · rintro ⟨_, address, haddress, period, hperiod, arguments, harguments, -⟩
    exact ⟨⟨address, haddress⟩, ⟨period, hperiod⟩, arguments, harguments⟩
  · rintro ⟨⟨address, haddress⟩, ⟨period, hperiod⟩, arguments, harguments⟩
    exact ⟨_, address, haddress, period, hperiod, arguments, harguments, rfl⟩

theorem ProxyConfig.reads_ofJson (hnull : v ≠ .null) (harray : v.IsNoArray)
    (hdistinct : v.isDistinct = true) : Reads ofJson v ↔ Crd.proxySchema.accepts v = true := by
  cases v with
  | object fields =>
    rw [Schema.accepts_record rfl (isDistinct_object hdistinct).1 (by decide), reads_object]
    simp only [List.forall_mem_cons, List.not_mem_nil, false_implies, implies_true, true_and,
      and_true]
    refine and_congr
      (exists_decodeField_iff fun w _ => reads_decodeString rfl fun _ => rfl)
      (and_congr (exists_decodeField_iff fun w _ => reads_decodeString rfl fun _ => rfl)
        (exists_decodeField_iff fun w _ => ?_))
    exact reads_decodeMapping rfl (fun _ => rfl) fun w =>
      reads_decodeList rfl (fun _ => rfl) fun items _ w _ =>
        reads_decodeString rfl fun _ => rfl
  | array items => exact absurd rfl (harray items)
  | null => exact absurd rfl hnull
  | _ => simp [Reads, ofJson, Schema.accepts, Schema.acceptsLeaf, Crd.proxySchema,
      Schema.nullable, Schema.kind]

theorem NetworkSpec.reads_object : Reads ofJson (.object fields) ↔
    (∃ o, decodeField fields "clusterNetworks" (decodeList ClusterNetwork.ofJson) = .ok o) ∧
      (∃ o, decodeField fields "defaultNetwork" DefaultNetwork.ofJson = .ok o ∧
        ∃ x, required "defaultNetwork" o = .ok x) ∧
      (∃ o, decodeField fields "deployKubeProxy" (decodeOption decodeBool) = .ok o) ∧
      (∃ o, decodeField fields "kubeProxyConfig" (decodeOption ProxyConfig.ofJson) = .ok o) ∧
      ∃ o, decodeField fields "serviceNetwork" decodeString = .ok o ∧
        ∃ x, required "serviceNetwork" o = .ok x := by
  simp only [Reads, ofJson, bind_eq_ok]
  constructor
  · rintro ⟨_, clusters, hclusters, network, hnetwork, deploy, hdeploy, proxy, hproxy, service,
      hservice, s, hs, n, hn, -⟩
    exact ⟨⟨clusters, hclusters⟩, ⟨network, hnetwork, n, hn⟩, ⟨deploy, hdeploy⟩, ⟨proxy, hproxy⟩,
      service, hservice, s, hs⟩
  · rintro ⟨⟨clusters, hclusters⟩, ⟨network, hnetwork, n, hn⟩, ⟨deploy, hdeploy⟩, ⟨proxy, hproxy⟩,
      service, hservice, s, hs⟩
    exact ⟨_, clusters, hclusters, network, hnetwork, deploy, hdeploy, proxy, hproxy, service,
      hservice, s, hs, n, hn, rfl⟩

structure NetworkSpec.HasObjects (v : Json) : Prop where
  spec : v.IsNoArray
  clusters : ∀ items, v.get? ["clusterNetworks"] = some (.array items) →
    ∀ w ∈ items, w.IsNoArray
  network : ∀ w, v.get? ["defaultNetwork"] = some w → w.IsNoArray
  sdn : ∀ w, v.get? ["defaultNetwork", "openshiftSDNConfig"] = some w → w.IsNoArray
  proxy : ∀ w, v.get? ["kubeProxyConfig"] = some w → w.IsNoArray

/-- The default network is read where the schema accepts it and its type is the one there is. -/
theorem NetworkSpec.exists_network (h : HasObjects (.object fields))
    (hvalues : ∀ p ∈ fields, p.2.isDistinct = true) :
    (∃ o, decodeField fields "defaultNetwork" DefaultNetwork.ofJson = .ok o ∧
        ∃ x, required "defaultNetwork" o = .ok x) ↔
      ((∃ w, fields.get? "defaultNetwork" = some w) ∧
        ∀ w, fields.get? "defaultNetwork" = some w → Crd.defaultNetworkSchema.accepts w = true) ∧
      (object fields).get? ["defaultNetwork", "type"] = some (.string "OpenShiftSDN") := by
  rw [exists_required]
  cases hget : Fields.get? "defaultNetwork" fields with
  | none => simp
  | some w =>
    have hinner (key : String) :
        (object fields).get? ["defaultNetwork", key] = w.get? [key] := by
      simp [get?, fields?, hget]
    have hread := DefaultNetwork.reads_ofJson (h.network w (by rw [get?_key, hget]))
      (fun u hu => h.sdn u (by rw [hinner, hu])) (hvalues _ (Fields.mem_of_get? hget))
    simp [hinner, hread]

theorem NetworkSpec.reads_ofJson (h : HasObjects v) (hdistinct : v.isDistinct = true) :
    Reads ofJson v ↔ Crd.specSchema.accepts v = true ∧
      v.get? ["defaultNetwork", "type"] = some (.string "OpenShiftSDN") := by
  cases v with
  | object fields =>
    obtain ⟨hkeys, hvalues⟩ := isDistinct_object hdistinct
    rw [Schema.accepts_record rfl hkeys (by decide), reads_object, exists_network h hvalues]
    simp only [List.forall_mem_cons, List.not_mem_nil, false_implies, implies_true, and_true]
    have hsort {n s cs ns ds ps ss type : Prop} :
        ((n ∧ s) ∧ cs ∧ ns ∧ ds ∧ ps ∧ ss) ∧ type ↔ cs ∧ ((n ∧ ns) ∧ type) ∧ ds ∧ ps ∧ s ∧ ss :=
      ⟨fun ⟨⟨⟨hn, hs⟩, hcs, hns, hds, hps, hss⟩, htype⟩ =>
          ⟨hcs, ⟨⟨hn, hns⟩, htype⟩, hds, hps, hs, hss⟩,
        fun ⟨hcs, ⟨⟨hn, hns⟩, htype⟩, hds, hps, hs, hss⟩ =>
          ⟨⟨⟨hn, hs⟩, hcs, hns, hds, hps, hss⟩, htype⟩⟩
    rw [hsort]
    refine and_congr (exists_decodeField_iff fun w hw => ?_) (and_congr Iff.rfl
      (and_congr (exists_decodeField_iff fun w _ => ?_)
        (and_congr (exists_decodeField_iff fun w hw => ?_) (exists_required_iff fun w _ => ?_))))
    · refine reads_decodeList rfl (fun _ => rfl) fun items hitems u hu => ?_
      subst hitems
      exact ClusterNetwork.reads_ofJson (h.clusters items (by rw [get?_key, hw]) u hu)
        (isDistinct_array (hvalues _ (Fields.mem_of_get? hw)) u hu)
    · exact reads_decodeOption rfl fun hne => reads_decodeBool rfl fun heq => absurd heq hne
    · refine reads_decodeOption rfl fun hne => ?_
      exact ProxyConfig.reads_ofJson hne (h.proxy w (by rw [get?_key, hw]))
        (hvalues _ (Fields.mem_of_get? hw))
    · exact reads_decodeString rfl fun _ => rfl
  | array items => exact absurd rfl (h.spec items)
  | _ => simp [Reads, ofJson, Schema.accepts, Schema.acceptsLeaf, Crd.specSchema,
      Schema.described, Schema.acceptsNull, Schema.kind]

end Records

section Written

variable {schema : Schema}

theorem Schema.accepts_text (hkind : schema.kind = .text) (s : String) :
    schema.accepts (.string s) = true := by simp [accepts, acceptsLeaf, hkind]

theorem Schema.accepts_flag (hkind : schema.kind = .flag) (b : Bool) :
    schema.accepts (.bool b) = true := by simp [accepts, acceptsLeaf, hkind]

theorem Schema.accepts_uint32 (hkind : schema.kind = .uint32) (n : UInt32) :
    schema.accepts (.nat n.toNat) = true := by
  have hlt := n.toNat_lt
  simp [nat, accepts, acceptsLeaf, hkind]
  omega

theorem Schema.accepts_of_map {α : Type} {o : Option α} {g : α → Json}
    (h : ∀ a ∈ o, schema.accepts (g a) = true) :
    ∀ w, o.map g = some w → schema.accepts w = true := by
  intro w hw
  obtain ⟨a, ha, rfl⟩ := Option.map_eq_some_iff.mp hw
  exact h a ha

theorem ClusterNetwork.accepts_toJson (network : ClusterNetwork) :
    Crd.clusterNetworkSchema.accepts network.toJson = true := by
  rw [toJson, Schema.accepts_record rfl (by simp) (by decide)]
  simp only [List.forall_mem_cons, List.not_mem_nil, false_implies, implies_true, and_true]
  refine ⟨⟨⟨_, rfl⟩, _, rfl⟩, ?_, ?_⟩
  · rintro _ ⟨⟩
    exact Schema.accepts_text rfl network.cidr
  · rintro _ ⟨⟩
    exact Schema.accepts_uint32 rfl network.hostSubnetLength

theorem SdnConfig.accepts_toJson (config : SdnConfig) :
    Crd.sdnSchema.accepts config.toJson = true := by
  obtain ⟨fields, heq, hkeys, hmode, hport, hmtu, hexternal⟩ := config.toJson_eq_object
  rw [heq, Schema.accepts_record rfl hkeys (by decide)]
  simp only [List.forall_mem_cons, List.not_mem_nil, false_implies, implies_true, and_true,
    true_and, hmode, hmtu, hexternal, hport]
  refine ⟨?_, Schema.accepts_of_map fun n _ => Schema.accepts_uint32 rfl n,
    Schema.accepts_of_map fun b _ => Schema.accepts_flag rfl b,
    Schema.accepts_of_map fun n _ => Schema.accepts_uint32 rfl n⟩
  rintro _ ⟨⟩
  exact Schema.accepts_text rfl config.mode.text

theorem DefaultNetwork.accepts_toJson (network : DefaultNetwork) :
    Crd.defaultNetworkSchema.accepts network.toJson = true := by
  have hkeys : ((("type", .string network.typeName) ::
      optionField "openshiftSDNConfig" (network.sdn?.map SdnConfig.toJson)).map
        Prod.fst).Nodup := by
    cases network.sdn? <;> simp [optionField]
  rw [toJson, Schema.accepts_record rfl hkeys (by decide)]
  simp only [List.forall_mem_cons, List.not_mem_nil, false_implies, implies_true, and_true,
    Fields.get?, get?_optionField]
  refine ⟨⟨_, rfl⟩, Schema.accepts_of_map fun config _ => config.accepts_toJson, ?_⟩
  rintro _ ⟨⟩
  exact Schema.accepts_text rfl network.typeName

theorem ProxyConfig.accepts_arguments {values : Schema} {arguments : Fields (List String)}
    (hkind : schema.kind = .table values) (hvalues : values.kind = .list (.plain .text)) :
    schema.accepts (argumentsToJson arguments) = true := by
  rw [argumentsToJson, Schema.accepts, hkind, Schema.acceptsValues_iff]
  intro p hp
  obtain ⟨q, -, rfl⟩ := List.mem_map.mp hp
  rw [Schema.accepts, hvalues, Schema.acceptsItems_iff]
  intro w hw
  obtain ⟨text, -, rfl⟩ := List.mem_map.mp hw
  exact Schema.accepts_text rfl text

theorem ProxyConfig.accepts_toJson (proxy : ProxyConfig) :
    Crd.proxySchema.accepts proxy.toJson = true := by
  obtain ⟨fields, heq, hkeys, haddress, hperiod, harguments⟩ := proxy.toJson_eq_object
  rw [heq, Schema.accepts_record rfl hkeys (by decide)]
  simp only [List.forall_mem_cons, List.not_mem_nil, false_implies, implies_true, and_true,
    true_and, haddress, hperiod, harguments]
  exact ⟨Schema.accepts_of_map fun text _ => Schema.accepts_text rfl text,
    Schema.accepts_of_map fun text _ => Schema.accepts_text rfl text,
    Schema.accepts_of_map fun _ _ => accepts_arguments rfl rfl⟩

theorem NetworkSpec.accepts_toJson (spec : NetworkSpec) :
    Crd.specSchema.accepts spec.toJson = true := by
  obtain ⟨fields, heq, hkeys, hs, hc, hn, hd, hp⟩ := spec.toJson_eq_object
  rw [heq, Schema.accepts_record rfl hkeys (by decide)]
  simp only [List.forall_mem_cons, List.not_mem_nil, false_implies, implies_true, and_true,
    hs, hc, hn, hd, hp]
  refine ⟨⟨⟨_, rfl⟩, _, rfl⟩, ?_, ?_, Schema.accepts_of_map fun b _ => Schema.accepts_flag rfl b,
    Schema.accepts_of_map fun proxy _ => proxy.accepts_toJson, ?_⟩
  · rintro _ ⟨⟩
    refine Schema.acceptsItems_iff.mpr fun w hw => ?_
    obtain ⟨network, -, rfl⟩ := List.mem_map.mp hw
    exact network.accepts_toJson
  · rintro _ ⟨⟩
    exact spec.defaultNetwork.accepts_toJson
  · rintro _ ⟨⟩
    exact Schema.accepts_text rfl spec.serviceNetwork

end Written

/-- The schema of a network as it stands in the definition of the resource. -/
def Crd.published : Json :=
  match definition.get? ["spec", "versions"] with
  | some (.array [version]) =>
    (version.get? ["schema", "openAPIV3Schema", "properties", "spec"]).getD .null
  | _ => .null

theorem Crd.published_eq : published = specSchema.toJson := by rfl

namespace NetworkSpec

/-- A value whose records are objects is read as a network where the published schema describes it
and the backend is the one there is; and the schema describes what is written for any network. -/
theorem ofJson_iff_published :
    (∀ v, HasObjects v → v.isDistinct = true →
      ((∃ spec, ofJson v = .ok spec) ↔
        SchemaDocument.allows v Crd.published = true ∧
          v.get? ["defaultNetwork", "type"] = some (.string "OpenShiftSDN"))) ∧
      ∀ spec : NetworkSpec, SchemaDocument.allows spec.toJson Crd.published = true := by
  simp only [Crd.published_eq, Schema.allows_toJson]
  exact ⟨fun _ h hdistinct => reads_ofJson h hdistinct, accepts_toJson⟩

def plainForm (length : Json) : Json :=
  .object [("clusterNetworks", .array [.object [("cidr", .string "10.128.0.0/14"),
      ("hostSubnetLength", length)]]),
    ("defaultNetwork", .object [("openshiftSDNConfig", .null), ("type", .string "OpenShiftSDN")]),
    ("serviceNetwork", .string ""), ("status", .array [])]

theorem hasObjects_plainForm (length : Json) : HasObjects (plainForm length) where
  spec := nofun
  clusters := by
    rintro _ ⟨⟩ w hw
    obtain rfl := List.mem_singleton.mp hw
    nofun
  network := by
    rintro _ ⟨⟩
    nofun
  sdn := by
    rintro _ ⟨⟩
    nofun
  proxy := nofun

/-- The schema refuses a length below its minimum, and so does the reader. -/
theorem ofJson_iff_published_plain :
    (∃ spec, ofJson (plainForm (.int 9)) = .ok spec) ∧
      ¬ ∃ spec, ofJson (plainForm (.int (-1))) = .ok spec := by
  have hread := ofJson_iff_published.1 _ (hasObjects_plainForm (.int 9)) (by decide)
  have hrefused := ofJson_iff_published.1 _ (hasObjects_plainForm (.int (-1))) (by decide)
  exact ⟨hread.mpr (by decide +kernel), fun h => absurd (hrefused.mp h) (by decide +kernel)⟩

end NetworkSpec

end OverlayConfig
