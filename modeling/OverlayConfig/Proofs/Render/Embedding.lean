import OverlayConfig.Proofs.Cidr
import OverlayConfig.Proofs.Json.Lines
import OverlayConfig.Proofs.Render.Shipped
set_option autoImplicit false

namespace OverlayConfig

open Yaml

/-- The texts of a proxy, which its document holds as they are. -/
def ProxyConfig.texts (proxy : ProxyConfig) : List String :=
  proxy.bindAddress :: proxy.iptablesSyncPeriod ::
    proxy.proxyArguments.flatMap fun p => p.1 :: p.2

def NetworkSpec.freeTexts (spec : NetworkSpec) : List String :=
  (spec.kubeProxyConfig.getD .empty).texts

theorem isEmbeddable_of_isInLine {c : Char} (h : isInLine c = true) :
    Json.isEmbeddable c = true := by
  rw [Json.isEmbeddable, h, Bool.or_true]

theorem isEmbeddable_of_isAddressChar {c : Char} (h : Cidr.isAddressChar c = true) :
    Json.isEmbeddable c = true := by
  refine isEmbeddable_of_isInLine ?_
  simp only [Cidr.isAddressChar, Bool.or_eq_true, decide_eq_true_eq] at h
  rcases h with ((h | rfl) | rfl) | rfl
  · exact isInLine_of_isAlphanum h
  all_goals decide

def isImageChar (c : Char) : Bool := c.isAlphanum || ['.', '_', '-', '/', ':', '@'].contains c

theorem isQuotable_of_isImageChar {c : Char} (h : isImageChar c = true) :
    isQuotable c = true ∧ isAllowed c = true := by
  rw [isImageChar, Bool.or_eq_true, List.contains_iff_mem] at h
  rcases h with h | h
  · have hline := isInLine_of_isAlphanum h
    simp only [isInLine, Bool.and_eq_true, Bool.not_eq_true'] at hline
    have hne {d : Char} (hd : d.isAlphanum = false) : c ≠ d := by
      rintro rfl
      rw [h] at hd
      cases hd
    have hspace := hne (d := ' ') (by decide)
    have htab := hne (d := '\t') (by decide)
    have hquote := hne (d := '\x22') (by decide)
    have hslash := hne (d := '\\') (by decide)
    simp [isQuotable, isSpacing, isBlank, hline, hspace, htab, hquote, hslash]
  · have hall :
        (['.', '_', '-', '/', ':', '@'].all fun c => isQuotable c && isAllowed c) = true := by
      decide
    exact Bool.and_eq_true_iff.mp (List.all_eq_true.mp hall c h)

theorem RenderOptions.hasPlainImages_of_isImageChar {options : RenderOptions}
    (hnode : options.nodeImage.toList.all isImageChar = true)
    (hcontroller : options.controllerImage.toList.all isImageChar = true) :
    options.HasPlainImages :=
  ⟨fun c hc => isQuotable_of_isImageChar (List.all_eq_true.mp hnode c hc),
    fun c hc => isQuotable_of_isImageChar (List.all_eq_true.mp hcontroller c hc)⟩

theorem embeddable_pluginName {mode : Mode} {plugin : String} (h : mode.pluginName? = some plugin) :
    ∀ c ∈ plugin.toList, Json.isEmbeddable c = true := by
  cases mode with
  | unknown text => cases h
  | _ =>
    cases h
    exact List.all_eq_true.mp (by decide)

def AllEmbeddable (texts : List String) : Prop :=
  ∀ text ∈ texts, ∀ c ∈ text.toList, Json.isEmbeddable c = true

theorem allEmbeddable_of_all {texts : List String}
    (h : (texts.all fun text => text.toList.all Json.isEmbeddable) = true) :
    AllEmbeddable texts :=
  fun text htext => List.all_eq_true.mp (List.all_eq_true.mp h text htext)

theorem fitsLine_argumentsToJson {arguments : Fields (List String)}
    (h : AllEmbeddable (arguments.flatMap fun p => p.1 :: p.2)) :
    (ProxyConfig.argumentsToJson arguments).FitsLine := by
  refine Json.fitsLine_object fun p hp => ?_
  obtain ⟨q, hq, rfl⟩ := List.mem_map.mp hp
  have hmem {text : String} (htext : text ∈ q.1 :: q.2) :=
    h text (List.mem_flatMap.mpr ⟨q, hq, htext⟩)
  refine ⟨hmem List.mem_cons_self, Json.fitsLine_array fun v hv => ?_⟩
  obtain ⟨text, htext, rfl⟩ := List.mem_map.mp hv
  exact Json.fitsLine_string (hmem (List.mem_cons_of_mem _ htext))

def documentKeys : List String :=
  ["apiVersion", "kind", "servingInfo", "bindAddress", "iptablesSyncPeriod", "proxyArguments",
    "networkConfig", "networkPluginName", "mtu", "enableUnidling", "clusterNetworks", "cidr",
    "hostSubnetLength", "serviceNetworkCIDR", "vxlanPort"]

theorem embeddable_documentKeys : AllEmbeddable documentKeys := allEmbeddable_of_all (by decide)

theorem fitsLine_record {fields : List (String × Json)}
    (hkeys : ∀ k ∈ fields.map Prod.fst, k ∈ documentKeys)
    (h : ∀ v ∈ fields.map Prod.snd, v.FitsLine) : (Json.object fields).FitsLine :=
  Json.fitsLine_object fun _ hp => ⟨embeddable_documentKeys _ (hkeys _ (List.mem_map_of_mem hp)),
    h _ (List.mem_map_of_mem hp)⟩

theorem fitsLine_nodeConfig {node : NodeConfig}
    (htexts : AllEmbeddable (ProxyConfig.texts
      ⟨node.bindAddress, node.iptablesSyncPeriod, node.proxyArguments⟩))
    (hplugin : ∀ c ∈ node.networkPluginName.toList, Json.isEmbeddable c = true) :
    node.toJson.FitsLine := by
  obtain ⟨haddress, hrest⟩ := List.forall_mem_cons.mp htexts
  obtain ⟨hperiod, harguments⟩ := List.forall_mem_cons.mp hrest
  have hserving : ∀ c ∈ (node.bindAddress ++ ":10251").toList, Json.isEmbeddable c = true := by
    intro c hc
    rw [String.toList_append] at hc
    rcases List.mem_append.mp hc with hc | hc
    · exact haddress c hc
    · exact List.all_eq_true.mp (by decide : ":10251".toList.all Json.isEmbeddable = true) c hc
  refine fitsLine_record (by simp [documentKeys]) ?_
  simp only [List.map_cons, List.map_nil, List.forall_mem_cons]
  refine ⟨Json.fitsLine_string (List.all_eq_true.mp (by decide)),
    Json.fitsLine_string (List.all_eq_true.mp (by decide)), ?_, Json.fitsLine_string hperiod,
    fitsLine_argumentsToJson harguments, ?_, Json.fitsLine_bool true, nofun⟩
  · refine fitsLine_record (by simp [documentKeys]) ?_
    simpa using Json.fitsLine_string hserving
  · refine fitsLine_record (by simp [documentKeys]) ?_
    simpa using ⟨Json.fitsLine_string hplugin, Json.fitsLine_nat _⟩

theorem fitsLine_controllerConfig {controller : ControllerConfig}
    (hservice : Cidr.isValid controller.serviceNetwork = true)
    (hclusters : ∀ n ∈ controller.clusterNetworks, Cidr.isValid n.cidr = true)
    (hplugin : ∀ c ∈ controller.networkPluginName.toList, Json.isEmbeddable c = true) :
    controller.toJson.FitsLine := by
  have haddress {s : String} (h : Cidr.isValid s = true) : (Json.string s).FitsLine :=
    Json.fitsLine_string fun c hc =>
      isEmbeddable_of_isAddressChar (Cidr.isAddressChar_of_isValid h c hc)
  have hnetworks :
      (Json.array (controller.clusterNetworks.map ClusterNetwork.toJson)).FitsLine := by
    refine Json.fitsLine_array fun v hv => ?_
    obtain ⟨n, hn, rfl⟩ := List.mem_map.mp hv
    refine fitsLine_record (by simp [documentKeys]) ?_
    simpa using ⟨haddress (hclusters n hn), Json.fitsLine_nat _⟩
  refine fitsLine_record (by simp [documentKeys]) ?_
  simp only [List.map_cons, List.map_nil, List.forall_mem_cons]
  refine ⟨Json.fitsLine_string (List.all_eq_true.mp (by decide)),
    Json.fitsLine_string (List.all_eq_true.mp (by decide)), ?_, nofun⟩
  refine fitsLine_record (by simp [documentKeys]) ?_
  simpa using ⟨Json.fitsLine_string hplugin, hnetworks, haddress hservice, Json.fitsLine_nat _⟩

section Shown

variable {node : NodeConfig} {c : Char}

theorem mem_text_argumentsToJson {arguments : Fields (List String)} {text : String}
    (htext : text ∈ arguments.flatMap fun p => p.1 :: p.2) (hc : c ∈ text.toList)
    (hcode : 32 ≤ c.toNat) : c ∈ (ProxyConfig.argumentsToJson arguments).text := by
  obtain ⟨p, hp, hmem⟩ := List.mem_flatMap.mp htext
  refine Json.mem_text_object (List.mem_map_of_mem hp) ?_
  rcases List.mem_cons.mp hmem with rfl | hmem
  · exact .inl (Json.mem_quoted hc hcode)
  · exact .inr (Json.mem_text_array (List.mem_map_of_mem hmem) (Json.mem_quoted hc hcode))

/-- The document for the nodes shows the characters of its texts that are not escaped. -/
theorem mem_text_nodeConfig {text : String}
    (htext : text ∈ ProxyConfig.texts
      ⟨node.bindAddress, node.iptablesSyncPeriod, node.proxyArguments⟩)
    (hc : c ∈ text.toList) (hcode : 32 ≤ c.toNat) : c ∈ node.text := by
  have hfield {p : String × Json} (hp : p ∈ node.toJson.fields?.getD []) (hmem : c ∈ p.2.text) :
      c ∈ node.text := Json.mem_text_object hp (.inr hmem)
  rcases List.mem_cons.mp htext with rfl | htext
  · refine hfield (p := ("servingInfo", _)) (.tail _ (.tail _ (.head _))) ?_
    refine Json.mem_text_object (.head _) (.inr (Json.mem_quoted ?_ hcode))
    rw [String.toList_append]
    exact List.mem_append_left _ hc
  rcases List.mem_cons.mp htext with rfl | htext
  · exact hfield (p := ("iptablesSyncPeriod", _)) (.tail _ (.tail _ (.tail _ (.head _))))
      (Json.mem_quoted hc hcode)
  · exact hfield (p := ("proxyArguments", _)) (.tail _ (.tail _ (.tail _ (.tail _ (.head _)))))
      (mem_text_argumentsToJson htext hc hcode)

end Shown

section Config

variable {options : RenderOptions} {node : NodeConfig} {controller : ControllerConfig}

theorem isLine_of_fitsLine {fields : List (String × Json)} (h : (Json.object fields).FitsLine) :
    IsLine (Json.object fields).text ∧ ∀ c ∈ (Json.object fields).text, isAllowed c = true := by
  have hchars {c : Char} (hc : c ∈ (Json.object fields).text) :
      isAllowed c = true ∧ isBreak c = false := by
    simpa [isInLine] using h c hc
  refine ⟨⟨by simp [Json.text], ?_, fun c hc => (hchars hc).2⟩, fun c hc => (hchars hc).1⟩
  intro c hc
  simp only [Json.text, List.cons_append, List.head?_cons, Option.mem_def, Option.some.injEq] at hc
  rw [← hc]
  decide

theorem slotText_nodeConfig :
    slotText options node controller "node_config".toList = node.text := by
  rw [slotText_toList]
  rfl

theorem slotText_controllerConfig :
    slotText options node controller "controller_config".toList = controller.text := by
  rw [slotText_toList]
  rfl

theorem fits_configLayout (hnode : node.toJson.FitsLine)
    (hcontroller : controller.toJson.FitsLine) :
    configLayout.Fits (slotText options node controller) := by
  rw [configLayout, Layout.Fits, Layout.Fits, slotText_nodeConfig, slotText_controllerConfig]
  exact ⟨isLine_of_fitsLine hnode, isLine_of_fitsLine hcontroller⟩

theorem values_of_not_allowed {cs : List Char} (h : cs.all isAllowed = false) :
    values cs = ([], true) := by
  have htokens : tokens cs = ([], some .controlCharacter) := by
    rw [tokens, h]
    rfl
  rw [values, documents, htokens]
  rfl

theorem trim_render_configLayout (fill : List Char → List Char) :
    Text.trim (configLayout.render fill) ≠ [] := by
  have hopening : 'a' ∈ configLayout.render fill :=
    Layout.mem_render_of_opening (by decide)
  exact Text.trim_ne_nil hopening (by decide)

theorem parseDocuments_of_not_allowed {cs : List Char} (htrim : Text.trim cs ≠ []) {c : Char}
    (hc : c ∈ cs) (hforbidden : isAllowed c = false) (path : String) :
    TemplateDirectory.parseDocuments path cs = .error (.yaml path) := by
  have hall : cs.all isAllowed = false := by
    refine Bool.eq_false_iff.mpr fun hall => ?_
    rw [List.all_eq_true.mp hall c hc] at hforbidden
    cases hforbidden
  rw [TemplateDirectory.parseDocuments, if_neg (by simpa using htrim), values_of_not_allowed hall]
  rfl

theorem parseDocuments_config_of_not_allowed {c : Char} (hc : c ∈ node.text)
    (hforbidden : isAllowed c = false) (path : String) :
    TemplateDirectory.parseDocuments path (configLayout.render (slotText options node controller)) =
      .error (.yaml path) := by
  refine parseDocuments_of_not_allowed (trim_render_configLayout _) ?_ hforbidden path
  rw [configLayout, Layout.render, slotText_nodeConfig]
  exact List.mem_append_right _ (List.mem_append_left _ hc)

end Config

end OverlayConfig
