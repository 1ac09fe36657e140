import OverlayConfig.Proofs.Render.Embedding
/-!
The identities of what is rendered for a network without findings, and the characters of its texts
on which they depend.
-/
set_option autoImplicit false

namespace OverlayConfig

open Yaml

/-- What the manifests of the overlay are told apart by, in their order. -/
def overlayIds (installsOpenvswitch : Bool) : List ObjectId :=
  [⟨"Namespace", "", "openshift-sdn"⟩, ⟨"ClusterRole", "", "openshift-sdn"⟩,
    ⟨"ServiceAccount", "openshift-sdn", "sdn"⟩, ⟨"ClusterRoleBinding", "", "openshift-sdn"⟩,
    ⟨"ClusterRole", "", "openshift-sdn-controller"⟩,
    ⟨"ServiceAccount", "openshift-sdn", "sdn-controller"⟩,
    ⟨"ClusterRoleBinding", "", "openshift-sdn-controller"⟩,
    ⟨"ConfigMap", "openshift-sdn", "sdn-config"⟩,
    ⟨"ConfigMap", "openshift-sdn", "sdn-controller-config"⟩,
    ⟨"DaemonSet", "openshift-sdn", "sdn-controller"⟩]
  ++ (if installsOpenvswitch then [⟨"DaemonSet", "openshift-sdn", "ovs"⟩] else [])
  ++ [⟨"DaemonSet", "openshift-sdn", "sdn"⟩]

def configIds : List ObjectId :=
  [⟨"ConfigMap", "openshift-sdn", "sdn-config"⟩,
    ⟨"ConfigMap", "openshift-sdn", "sdn-controller-config"⟩]

def overlayHeadings (installsOpenvswitch : Bool) : List Heading :=
  frontHeadings ++ [configHeading "sdn-config", configHeading "sdn-controller-config"]
    ++ backHeadings installsOpenvswitch

theorem overlayHeadings_id (installsOpenvswitch : Bool) :
    (overlayHeadings installsOpenvswitch).map Heading.id = overlayIds installsOpenvswitch := by
  cases installsOpenvswitch <;> rfl

theorem overlayIds_eq (installsOpenvswitch : Bool) : overlayIds installsOpenvswitch =
    frontHeadings.map Heading.id ++ configIds
      ++ (backHeadings installsOpenvswitch).map Heading.id := by
  cases installsOpenvswitch <;> rfl

theorem kind_of_mem_tail_overlayIds {installsOpenvswitch : Bool} :
    ∀ i ∈ (overlayIds installsOpenvswitch).tail, i.kind ≠ "Namespace" := by
  have hall : ∀ b, ((overlayIds b).tail.all fun i => i.kind ≠ "Namespace") = true := by decide
  exact fun i hi => of_decide_eq_true (List.all_eq_true.mp (hall installsOpenvswitch) i hi)

theorem overlayHeadings_areInOrder (installsOpenvswitch : Bool) :
    Heading.areInOrder (overlayHeadings installsOpenvswitch) = true := by
  cases installsOpenvswitch <;> decide

/-- Openvswitch is installed: that the hosts run it themselves is unset or false. -/
def NetworkSpec.installsOpenvswitch (spec : NetworkSpec) : Bool :=
  (spec.sdn?.bind SdnConfig.externalOpenvswitch) ≠ some true

def wideBreaks : List Char := ['\u0085', '\u2028', '\u2029']

theorem mem_wideBreaks {c : Char} (h : isBreak c = true) (hcode : 32 ≤ c.toNat) :
    c ∈ wideBreaks := by
  have hof {n : Nat} (hn : c.toNat = n) : c = Char.ofNat n := by rw [← hn, Char.ofNat_toNat]
  simp only [isBreak, Bool.or_eq_true, decide_eq_true_eq] at h
  rcases h with (((rfl | rfl) | h) | h) | h
  · exact absurd hcode (by decide)
  · exact absurd hcode (by decide)
  · rw [hof h]
    decide
  · rw [hof h]
    decide
  · rw [hof h]
    decide

section Network

variable {spec : NetworkSpec} {previous : Option NetworkSpec} {hostMtu : UInt32}
  {options : RenderOptions} {files : Files}

def RenderOptions.templateDir (options : RenderOptions) : String :=
  joinPath options.manifestDir sdnDirectory

def RenderOptions.configPath (options : RenderOptions) : String :=
  joinPath options.templateDir "003-config.yaml"

/-- A network is rendered to the objects of the overlay, and to nothing else, in their order. -/
def NetworkSpec.RendersOverlay (spec : NetworkSpec) (previous : Option NetworkSpec)
    (hostMtu : UInt32) (options : RenderOptions) (files : Files) : Prop :=
  ∃ objects, (spec.withDefaults previous hostMtu).render options files = .ok objects ∧
    objects.map Manifest.id = overlayIds spec.installsOpenvswitch

/-- YAML reads the two documents from their file, and nothing else. -/
def NetworkSpec.ReadsConfigMaps (spec : NetworkSpec) (options : RenderOptions) : Prop :=
  ∃ node controller objects, NodeConfig.ofSpec spec = .ok node ∧
    ControllerConfig.ofSpec spec = .ok controller ∧
    TemplateDirectory.parseDocuments options.configPath
      (configLayout.render (slotText options node controller)) = .ok objects ∧
    objects.map Manifest.id = configIds ∧ ∀ o ∈ objects, o.apiVersion ≠ ""

/-- Only the file of the two documents can fail, and the objects around it are the same for every
network. -/
theorem render_shipped (hfiles : files.find options.templateDir = .ok shippedTemplates)
    (himages : options.HasPlainImages) {config : SdnConfig} {node : NodeConfig}
    {controller : ControllerConfig} (hs : spec.sdn? = some config)
    (hn : NodeConfig.ofSpec spec = .ok node) (hc : ControllerConfig.ofSpec spec = .ok controller) :
    ∃ front back, front.map Manifest.heading = frontHeadings ∧
      back.map Manifest.heading = backHeadings config.installsOpenvswitch ∧
      spec.render options files = (do
        let objects ← TemplateDirectory.parseDocuments
          options.configPath
          (configLayout.render (slotText options node controller))
        ManifestSet.check (front ++ objects ++ back)) := by
  obtain ⟨front, back, hfront, hback, hrender⟩ :=
    renderFiles_shipped config node controller himages options.templateDir
  refine ⟨front, back, hfront, hback, ?_⟩
  rw [NetworkSpec.render, NetworkSpec.renderData_of_documents options hs hn hc]
  change (TemplateDirectory.render files options.templateDir _ >>= ManifestSet.check) = _
  rw [render_directory hfiles, hrender, RenderOptions.configPath]
  cases TemplateDirectory.parseDocuments (joinPath options.templateDir "003-config.yaml")
    (configLayout.render (slotText options node controller)) <;> rfl

theorem render_of_fitsLine (hfiles : files.find options.templateDir = .ok shippedTemplates)
    (himages : options.HasPlainImages) {config : SdnConfig} {node : NodeConfig}
    {controller : ControllerConfig} (hs : spec.sdn? = some config)
    (hn : NodeConfig.ofSpec spec = .ok node) (hc : ControllerConfig.ofSpec spec = .ok controller)
    (hnode : node.toJson.FitsLine) (hcontroller : controller.toJson.FitsLine) :
    ∃ objects, spec.render options files = .ok objects ∧
      objects.map Manifest.id = overlayIds config.installsOpenvswitch := by
  obtain ⟨front, back, hfront, hback, hrender⟩ := render_shipped hfiles himages hs hn hc
  have hserves := serves_config
  simp only [serves, Bool.and_eq_true] at hserves
  have hfits : configLayout.Fits (slotText options node controller) :=
    fits_configLayout hnode hcontroller
  obtain ⟨objects, hobjects, hconfig⟩ := Layout.parseDocuments_render
    (fun _ => slotText_of_not_mem) hfits hserves.2 options.configPath
  have hheadings : (front ++ objects ++ back).map Manifest.heading =
      overlayHeadings config.installsOpenvswitch := by
    rw [List.map_append, List.map_append, hfront, hconfig, hback]
    rfl
  have hchecked := ManifestSet.check_of_areInOrder
    (hheadings ▸ overlayHeadings_areInOrder config.installsOpenvswitch)
  refine ⟨front ++ objects ++ back, ?_, ?_⟩
  · rw [hrender, hobjects]
    exact hchecked
  · rw [← overlayHeadings_id, ← hheadings, List.map_map]
    rfl

theorem render_of_not_allowed (hfiles : files.find options.templateDir = .ok shippedTemplates)
    (himages : options.HasPlainImages) {config : SdnConfig} {node : NodeConfig}
    {controller : ControllerConfig} (hs : spec.sdn? = some config)
    (hn : NodeConfig.ofSpec spec = .ok node) (hc : ControllerConfig.ofSpec spec = .ok controller)
    {c : Char} (hmem : c ∈ node.text) (hforbidden : isAllowed c = false) :
    spec.render options files = .error (.yaml options.configPath) := by
  obtain ⟨front, back, -, -, hrender⟩ := render_shipped hfiles himages hs hn hc
  rw [hrender, parseDocuments_config_of_not_allowed hmem hforbidden]
  rfl

theorem ProxyConfig.allEmbeddable_withDefaults {proxy : ProxyConfig}
    (h : AllEmbeddable proxy.texts) : AllEmbeddable proxy.withDefaults.texts := by
  obtain ⟨haddress, hrest⟩ := List.forall_mem_cons.mp h
  obtain ⟨hperiod, harguments⟩ := List.forall_mem_cons.mp hrest
  have hall : AllEmbeddable ["0.0.0.0"] := allEmbeddable_of_all (by decide)
  have harguments' : AllEmbeddable (defaultProxyArguments.flatMap fun p => p.1 :: p.2) :=
    allEmbeddable_of_all (by decide)
  refine List.forall_mem_cons.mpr ⟨?_, List.forall_mem_cons.mpr ⟨hperiod, ?_⟩⟩
  · simp only [withDefaults]
    split
    · exact hall _ List.mem_cons_self
    · exact haddress
  · simp only [withDefaults]
    split
    · exact harguments'
    · exact harguments

theorem ProxyConfig.mem_texts_withDefaults {proxy : ProxyConfig} {text : String} {c : Char}
    (h : text ∈ proxy.texts) (hc : c ∈ text.toList) : text ∈ proxy.withDefaults.texts := by
  have hne : text ≠ "" := by
    rintro rfl
    cases hc
  rcases List.mem_cons.mp h with rfl | h
  · simp [texts, withDefaults, hne]
  · rcases List.mem_cons.mp h with rfl | h
    · simp [texts, withDefaults]
    · have hsome : proxy.proxyArguments.isEmpty = false := by
        cases harguments : proxy.proxyArguments with
        | nil => simp [harguments] at h
        | cons => rfl
      simp only [texts, withDefaults, hsome]
      exact .tail _ (.tail _ h)

theorem NetworkSpec.addresses_of_errors (h : spec.errors = []) :
    Cidr.isValid spec.serviceNetwork = true ∧
      ∀ n ∈ spec.clusterNetworks, Cidr.isValid n.cidr = true := by
  simp only [errors, addressErrors, List.append_eq_nil_iff, List.map_eq_nil_iff,
    List.filter_eq_nil_iff] at h
  obtain ⟨⟨hservice, hclusters⟩, -⟩ := h
  refine ⟨?_, fun n hn => by simpa using hclusters n hn⟩
  split at hservice
  · assumption
  · cases hservice

theorem NetworkSpec.installsOpenvswitch_withDefaults {config : SdnConfig}
    (h : (spec.withDefaults previous hostMtu).sdn? = some config) :
    config.installsOpenvswitch = spec.installsOpenvswitch := by
  rw [sdn?_withDefaults, Option.some.injEq] at h
  subst h
  simp only [SdnConfig.installsOpenvswitch, SdnConfig.withDefaults, installsOpenvswitch]
  cases spec.sdn? with
  | none => rfl
  | some config =>
    obtain ⟨mode, port, mtu, external⟩ := config
    rcases external with _ | _ | _ <;> rfl

/-- A network without findings has its documents, and they are lines of YAML if its texts are
embeddable. -/
theorem documents_of_errors (h : (spec.withDefaults previous hostMtu).errors = []) :
    ∃ config node controller, (spec.withDefaults previous hostMtu).sdn? = some config ∧
      NodeConfig.ofSpec (spec.withDefaults previous hostMtu) = .ok node ∧
      ControllerConfig.ofSpec (spec.withDefaults previous hostMtu) = .ok controller ∧
      controller.toJson.FitsLine ∧ (AllEmbeddable spec.freeTexts → node.toJson.FitsLine) ∧
      ∀ text ∈ spec.freeTexts, ∀ c ∈ text.toList, 32 ≤ c.toNat → c ∈ node.text := by
  obtain ⟨config, plugin, port, mtu, hs, haccepted⟩ := NetworkSpec.accepted_of_errors h
  obtain ⟨hservice, hclusters⟩ := NetworkSpec.addresses_of_errors h
  have hplugin := embeddable_pluginName haccepted.pluginName_eq
  refine ⟨config, _, _, hs, NetworkSpec.nodeConfig_of_accepted hs haccepted,
    NetworkSpec.controllerConfig_of_accepted hs haccepted, ?_, fun hfree => ?_,
    fun text htext c hc hcode => ?_⟩
  · exact fitsLine_controllerConfig hservice hclusters hplugin
  · exact fitsLine_nodeConfig (ProxyConfig.allEmbeddable_withDefaults hfree) hplugin
  · exact mem_text_nodeConfig (ProxyConfig.mem_texts_withDefaults htext hc) hc hcode

theorem render_of_allEmbeddable (hfiles : files.find options.templateDir = .ok shippedTemplates)
    (himages : options.HasPlainImages) (hvalid : (spec.withDefaults previous hostMtu).errors = [])
    (hfree : AllEmbeddable spec.freeTexts) :
    spec.RendersOverlay previous hostMtu options files := by
  obtain ⟨config, node, controller, hs, hn, hc, hcontroller, hnode, -⟩ :=
    documents_of_errors hvalid
  rw [NetworkSpec.RendersOverlay, ← NetworkSpec.installsOpenvswitch_withDefaults hs]
  exact render_of_fitsLine hfiles himages hs hn hc (hnode hfree) hcontroller

theorem render_of_forbidden (hfiles : files.find options.templateDir = .ok shippedTemplates)
    (himages : options.HasPlainImages) (hvalid : (spec.withDefaults previous hostMtu).errors = [])
    {text : String} {c : Char} (htext : text ∈ spec.freeTexts) (hc : c ∈ text.toList)
    (hcode : 32 ≤ c.toNat) (hforbidden : isAllowed c = false) :
    (spec.withDefaults previous hostMtu).render options files =
      .error (.yaml options.configPath) := by
  obtain ⟨config, node, controller, hs, hn, hc', -, -, hmem⟩ := documents_of_errors hvalid
  exact render_of_not_allowed hfiles himages hs hn hc' (hmem text htext c hc hcode) hforbidden

theorem ids_of_check {front objects back result : List Manifest} {installsOpenvswitch : Bool}
    (hfront : front.map Manifest.heading = frontHeadings)
    (hback : back.map Manifest.heading = backHeadings installsOpenvswitch)
    (hcheck : ManifestSet.check (front ++ objects ++ back) = .ok result)
    (hids : result.map Manifest.id = overlayIds installsOpenvswitch) :
    objects.map Manifest.id = configIds ∧ ∀ o ∈ objects, o.apiVersion ≠ "" := by
  have hfrontIds : front.map Manifest.id = frontHeadings.map Heading.id := by
    rw [← hfront, List.map_map]
    rfl
  have hbackIds : back.map Manifest.id = (backHeadings installsOpenvswitch).map Heading.id := by
    rw [← hback, List.map_map]
    rfl
  obtain ⟨horder, -, hcomplete, -⟩ := ManifestSet.check_eq_ok.mp hcheck
  have hversions : ∀ o ∈ result, o.apiVersion ≠ "" :=
    fun o ho => (Manifest.isComplete_iff.mp (hcomplete o ho)).1
  -- a namespace among the objects would have moved to the front, where only the first one is
  have hsame :
      ManifestSet.namespacesFirst (front ++ objects ++ back) = front ++ objects ++ back := by
    cases front with
    | nil => cases hfront
    | cons first rest =>
      have hfirst : first.heading = namespaceHeading := (List.cons.inj hfront).1
      refine ManifestSet.namespacesFirst_eq_self ?_ ?_
      · rw [← Manifest.isNamespace_heading, hfirst]
        rfl
      · intro i hi
        have htail : i ∈ (overlayIds installsOpenvswitch).tail := by
          rw [← hids, horder]
          exact hi
        exact kind_of_mem_tail_overlayIds i htail
  rw [horder, hsame] at hids hversions
  refine ⟨?_, fun o ho => hversions o (List.mem_append_left _ (List.mem_append_right _ ho))⟩
  rw [List.map_append, List.map_append, hfrontIds, hbackIds, overlayIds_eq] at hids
  exact List.append_cancel_left (List.append_cancel_right hids)

/-- The two documents between the objects around them are the objects of the overlay. -/
theorem check_of_configIds {front objects back : List Manifest} {installsOpenvswitch : Bool}
    (hfront : front.map Manifest.heading = frontHeadings)
    (hback : back.map Manifest.heading = backHeadings installsOpenvswitch)
    (hids : objects.map Manifest.id = configIds) (hversions : ∀ o ∈ objects, o.apiVersion ≠ "") :
    ManifestSet.check (front ++ objects ++ back) = .ok (front ++ objects ++ back) ∧
      (front ++ objects ++ back).map Manifest.id = overlayIds installsOpenvswitch := by
  have hall : (front ++ objects ++ back).map Manifest.id = overlayIds installsOpenvswitch := by
    rw [overlayIds_eq, ← hfront, ← hids, ← hback, List.map_append, List.map_append, List.map_map,
      List.map_map]
    rfl
  refine ⟨ManifestSet.check_of_areInOrder (Heading.areInOrder_of_ids ?_ ?_
    (overlayHeadings_areInOrder installsOpenvswitch)), hall⟩
  · rw [overlayHeadings_id, ← hall, List.map_map]
    rfl
  · have hplain : ((frontHeadings ++ backHeadings installsOpenvswitch).all
        fun h => h.apiVersion ≠ "") = true := by
      cases installsOpenvswitch <;> decide
    have haround := List.all_eq_true.mp hplain
    simp only [List.map_append, hfront, hback, List.forall_mem_append]
    refine ⟨⟨fun h hh => ?_, fun h hh => ?_⟩, fun h hh => ?_⟩
    · exact of_decide_eq_true (haround h (List.mem_append_left _ hh))
    · obtain ⟨o, ho, rfl⟩ := List.mem_map.mp hh
      exact hversions o ho
    · exact of_decide_eq_true (haround h (List.mem_append_right _ hh))

theorem rendersOverlay_iff_reads (hfiles : files.find options.templateDir = .ok shippedTemplates)
    (himages : options.HasPlainImages)
    (hvalid : (spec.withDefaults previous hostMtu).errors = []) :
    spec.RendersOverlay previous hostMtu options files ↔
      (spec.withDefaults previous hostMtu).ReadsConfigMaps options := by
  obtain ⟨config, node, controller, hs, hn, hc, -⟩ := documents_of_errors hvalid
  obtain ⟨front, back, hfront, hback, hrender⟩ := render_shipped hfiles himages hs hn hc
  rw [NetworkSpec.RendersOverlay, ← NetworkSpec.installsOpenvswitch_withDefaults hs, hrender]
  constructor
  · rintro ⟨result, hok, hids⟩
    obtain ⟨objects, hobjects, hcheck⟩ := bind_eq_ok.mp hok
    obtain ⟨hconfig, hversions⟩ := ids_of_check hfront hback hcheck hids
    exact ⟨node, controller, objects, hn, hc, hobjects, hconfig, hversions⟩
  · rintro ⟨node', controller', objects, hn', hc', hobjects, hconfig, hversions⟩
    obtain rfl : node = node' := Except.ok.inj (hn.symm.trans hn')
    obtain rfl : controller = controller' := Except.ok.inj (hc.symm.trans hc')
    obtain ⟨hcheck, hids⟩ := check_of_configIds hfront hback hconfig hversions
    exact ⟨_, bind_eq_ok.mpr ⟨objects, hobjects, hcheck⟩, hids⟩

/-- A file of documents that can be read has no character that YAML forbids; without wide line
breaks the texts in it are embeddable. -/
theorem allEmbeddable_of_parseDocuments {texts : List String} {node : NodeConfig}
    {controller : ControllerConfig} {path : String} {part : List Manifest}
    (hparse : TemplateDirectory.parseDocuments path
      (configLayout.render (slotText options node controller)) = .ok part)
    (hshown : ∀ text ∈ texts, ∀ c ∈ text.toList, 32 ≤ c.toNat → c ∈ node.text)
    (hnarrow : ∀ text ∈ texts, ∀ c ∈ text.toList, c ∉ wideBreaks) : AllEmbeddable texts := by
  intro text htext c hc
  by_cases hcode : c.toNat < 32
  · simp [Json.isEmbeddable, hcode]
  · have hcode := Nat.not_lt.mp hcode
    have hbreak : isBreak c = false := Bool.eq_false_iff.mpr fun hbreak =>
      hnarrow text htext c hc (mem_wideBreaks hbreak hcode)
    cases hallowed : isAllowed c with
    | true => exact isEmbeddable_of_isInLine (by simp [isInLine, hallowed, hbreak])
    | false =>
      rw [parseDocuments_config_of_not_allowed (hshown text htext c hc hcode) hallowed] at hparse
      cases hparse

theorem renderFiles_of_render (hfiles : files.find options.templateDir = .ok shippedTemplates)
    {config : SdnConfig} {node : NodeConfig} {controller : ControllerConfig}
    (hs : spec.sdn? = some config) (hn : NodeConfig.ofSpec spec = .ok node)
    (hc : ControllerConfig.ofSpec spec = .ok controller)
    {objects : List Manifest} (h : spec.render options files = .ok objects) :
    ∃ rendered, TemplateDirectory.renderFiles options.templateDir
        (renderData options config node controller) shippedFiles = .ok rendered ∧
      ManifestSet.check rendered = .ok objects := by
  rw [NetworkSpec.render, NetworkSpec.renderData_of_documents options hs hn hc] at h
  change (TemplateDirectory.render files options.templateDir _ >>= ManifestSet.check) = _ at h
  obtain ⟨rendered, hrendered, hcheck⟩ := bind_eq_ok.mp h
  exact ⟨rendered, (render_directory hfiles _).symm.trans hrendered, hcheck⟩

theorem parseDocuments_of_render (hfiles : files.find options.templateDir = .ok shippedTemplates)
    {config : SdnConfig} {node : NodeConfig} {controller : ControllerConfig}
    (hs : spec.sdn? = some config) (hn : NodeConfig.ofSpec spec = .ok node)
    (hc : ControllerConfig.ofSpec spec = .ok controller)
    {objects : List Manifest} (h : spec.render options files = .ok objects) :
    ∃ part rendered, TemplateDirectory.parseDocuments options.configPath
        (configLayout.render (slotText options node controller)) = .ok part ∧
      part ⊆ rendered ∧ ManifestSet.check rendered = .ok objects := by
  obtain ⟨rendered, hall, hcheck⟩ := renderFiles_of_render hfiles hs hn hc h
  have hfile : ("003-config.yaml", FileNode.text (textOfLines configTemplate)) ∈ shippedFiles :=
    .tail _ (.tail _ (.tail _ (.head _)))
  obtain ⟨part, hpart, hsub⟩ := objects_of_renderFiles hall _ hfile
  rw [renderFile_config] at hpart
  exact ⟨part, rendered, hpart, hsub, hcheck⟩

/-- With any images and without wide line breaks, what can be rendered has embeddable texts. -/
theorem allEmbeddable_of_render (hfiles : files.find options.templateDir = .ok shippedTemplates)
    (hvalid : (spec.withDefaults previous hostMtu).errors = [])
    (hnarrow : ∀ text ∈ spec.freeTexts, ∀ c ∈ text.toList, c ∉ wideBreaks)
    {objects : List Manifest}
    (hrender : (spec.withDefaults previous hostMtu).render options files = .ok objects) :
    AllEmbeddable spec.freeTexts := by
  obtain ⟨config, node, controller, hs, hn, hc, -, -, hshown⟩ := documents_of_errors hvalid
  obtain ⟨part, rendered, hparse, -⟩ := parseDocuments_of_render hfiles hs hn hc hrender
  exact allEmbeddable_of_parseDocuments hparse hshown hnarrow

end Network

section Bare

def bareNetwork (period : String) : NetworkSpec :=
  ⟨"172.30.0.0/16", [⟨"10.128.0.0/14", 9⟩], .openShiftSdn none, none, some ⟨"", period, []⟩⟩

def bareOptions : RenderOptions := ⟨"/", "sdn/node:v4.0", "sdn/controller:v4.0"⟩

def bareFiles : Files := ⟨shippedManifests, []⟩

theorem find_bareFiles : bareFiles.find bareOptions.templateDir = .ok shippedTemplates := rfl

theorem hasPlainImages_bareOptions : bareOptions.HasPlainImages :=
  RenderOptions.hasPlainImages_of_isImageChar (by decide) (by decide)

theorem errors_bareNetwork (period : String) :
    ((bareNetwork period).withDefaults none 1500).errors = [] := by
  have hservice : Cidr.isValid "172.30.0.0/16" = true := by decide
  have hcluster : Cidr.isValid "10.128.0.0/14" = true := by decide
  have hconfig : (SdnConfig.initial.withDefaults (overlayMtu 1500)).errors = [] := by decide
  simp [NetworkSpec.errors, NetworkSpec.addressErrors, NetworkSpec.sdnErrors,
    NetworkSpec.withDefaults, NetworkSpec.appliedMtu?, bareNetwork, NetworkSpec.sdn?,
    DefaultNetwork.sdn?, hservice, hcluster, hconfig]

def bareNode (period : String) : NodeConfig :=
  ⟨"0.0.0.0", period, defaultProxyArguments, "redhat/openshift-ovs-networkpolicy", 1450⟩

def bareController : ControllerConfig :=
  ⟨"redhat/openshift-ovs-networkpolicy", [⟨"10.128.0.0/14", 9⟩], "172.30.0.0/16", 4789⟩

theorem nodeConfig_bareNetwork (period : String) :
    NodeConfig.ofSpec ((bareNetwork period).withDefaults none 1500) = .ok (bareNode period) := rfl

theorem controllerConfig_bareNetwork (period : String) :
    ControllerConfig.ofSpec ((bareNetwork period).withDefaults none 1500) =
      .ok bareController := rfl

def bareConfig (period : String) : List Char :=
  configLayout.render (slotText bareOptions (bareNode period) bareController)

theorem render_bareNetwork (period : String) :
    ∃ front back, front.map Manifest.heading = frontHeadings ∧
      back.map Manifest.heading = backHeadings true ∧
      ((bareNetwork period).withDefaults none 1500).render bareOptions bareFiles = (do
        let objects ← TemplateDirectory.parseDocuments
          bareOptions.configPath (bareConfig period)
        ManifestSet.check (front ++ objects ++ back)) := by
  have hs : ((bareNetwork period).withDefaults none 1500).sdn? =
      some (SdnConfig.initial.withDefaults (overlayMtu 1500)) := rfl
  exact render_shipped find_bareFiles hasPlainImages_bareOptions hs (nodeConfig_bareNetwork period)
    (controllerConfig_bareNetwork period)

theorem values_wideBreaks :
    (wideBreaks.all fun c => values (bareConfig (String.ofList [c])) = ([], true)) = true := by
  decide +kernel

theorem parseDocuments_wideBreak {c : Char} (h : c ∈ wideBreaks) (path : String) :
    TemplateDirectory.parseDocuments path (bareConfig (String.ofList [c])) =
      .error (.yaml path) := by
  have htrim : ¬(Text.trim (bareConfig (String.ofList [c]))).isEmpty = true := fun hempty =>
    trim_render_configLayout _ (List.isEmpty_iff.mp hempty)
  have hvalues : values (bareConfig (String.ofList [c])) = ([], true) :=
    of_decide_eq_true (List.all_eq_true.mp values_wideBreaks c h)
  rw [TemplateDirectory.parseDocuments, if_neg htrim, hvalues]
  rfl

theorem render_of_not_embeddable {c : Char} (h : Json.isEmbeddable c = false) :
    ((bareNetwork (String.ofList [c])).withDefaults none 1500).render bareOptions bareFiles =
      .error (.yaml bareOptions.configPath) := by
  have hvalid := errors_bareNetwork (String.ofList [c])
  simp only [Json.isEmbeddable, Bool.or_eq_false_iff, decide_eq_false_iff_not, Nat.not_lt] at h
  obtain ⟨hcode, hline⟩ := h
  cases hallowed : isAllowed c with
  | false =>
    have htext : String.ofList [c] ∈ (bareNetwork (String.ofList [c])).freeTexts :=
      .tail _ (.head _)
    have hc : c ∈ (String.ofList [c]).toList := by
      rw [String.toList_ofList]
      exact List.mem_singleton_self c
    exact render_of_forbidden find_bareFiles hasPlainImages_bareOptions hvalid htext hc hcode
      hallowed
  | true =>
    have hbreak : isBreak c = true := by simpa [isInLine, hallowed] using hline
    obtain ⟨front, back, -, -, hrender⟩ := render_bareNetwork (String.ofList [c])
    rw [hrender, parseDocuments_wideBreak (mem_wideBreaks hbreak hcode)]
    rfl

end Bare

/-- The embeddable characters are the most that texts may have for all networks without findings to
be rendered to the overlay. -/
theorem renders_forall_iff {p : Char → Prop} :
    (∀ (spec : NetworkSpec) (previous : Option NetworkSpec) (hostMtu : UInt32)
      (options : RenderOptions) (files : Files),
      files.find options.templateDir = .ok shippedTemplates → options.HasPlainImages →
      (spec.withDefaults previous hostMtu).errors = [] →
      (∀ text ∈ spec.freeTexts, ∀ c ∈ text.toList, p c) →
      spec.RendersOverlay previous hostMtu options files) ↔
    ∀ c, p c → Json.isEmbeddable c = true := by
  constructor
  · intro h c hc
    cases hne : Json.isEmbeddable c with
    | true => rfl
    | false =>
      have htexts :
          ∀ text ∈ (bareNetwork (String.ofList [c])).freeTexts, ∀ d ∈ text.toList, p d := by
        change ∀ text ∈ ["", String.ofList [c]], ∀ d ∈ text.toList, p d
        simpa using hc
      obtain ⟨objects, hok, -⟩ := h _ none 1500 _ _ find_bareFiles hasPlainImages_bareOptions
        (errors_bareNetwork _) htexts
      rw [render_of_not_embeddable hne] at hok
      cases hok
  · intro h spec previous hostMtu options files hfiles himages hvalid htexts
    exact render_of_allEmbeddable hfiles himages hvalid fun text htext c hc =>
      h c (htexts text htext c hc)

/-- A network without findings is rendered to the overlay exactly if YAML reads the two documents
back from their file. Where no text has one of the wide line breaks, it does exactly if all
characters of the texts are embeddable. -/
theorem render_identities_iff {spec : NetworkSpec} {previous : Option NetworkSpec}
    {hostMtu : UInt32} {options : RenderOptions} {files : Files}
    (hfiles : files.find options.templateDir = .ok shippedTemplates)
    (himages : options.HasPlainImages)
    (hvalid : (spec.withDefaults previous hostMtu).errors = []) :
    (spec.RendersOverlay previous hostMtu options files ↔
      (spec.withDefaults previous hostMtu).ReadsConfigMaps options) ∧
    ((∀ text ∈ spec.freeTexts, ∀ c ∈ text.toList, c ∉ wideBreaks) →
      (spec.RendersOverlay previous hostMtu options files ↔ AllEmbeddable spec.freeTexts)) := by
  refine ⟨rendersOverlay_iff_reads hfiles himages hvalid, fun hnarrow => ⟨fun hok => ?_, ?_⟩⟩
  · obtain ⟨objects, hrender, -⟩ := hok
    exact allEmbeddable_of_render hfiles hvalid hnarrow hrender
  · exact render_of_allEmbeddable hfiles himages hvalid

theorem render_identities_bare :
    (bareNetwork "30s").RendersOverlay none 1500 bareOptions bareFiles := by
  have hnarrow : ∀ text ∈ (bareNetwork "30s").freeTexts, ∀ c ∈ text.toList, c ∉ wideBreaks := by
    simp [NetworkSpec.freeTexts, bareNetwork, ProxyConfig.texts, wideBreaks]
  have hiff := (render_identities_iff find_bareFiles hasPlainImages_bareOptions
    (errors_bareNetwork "30s")).2 hnarrow
  exact hiff.mpr (allEmbeddable_of_all (by decide))

/-- A text that leaves its line by a line separator and starts a document of its own. -/
def foreignText : String :=
  "\u2028---\u2028\x7bapiVersion: v1, kind: Secret, metadata: \x7bname: x\x7d\x7d\u2028#"

def secretHeading : Heading := ⟨"v1", ⟨"Secret", "", "x"⟩⟩

def foreignHeadings : List Heading :=
  frontHeadings
    ++ [configHeading "sdn-config", secretHeading, configHeading "sdn-controller-config"]
    ++ backHeadings true

theorem foreignHeadings_areInOrder : Heading.areInOrder foreignHeadings = true := by
  decide

theorem parseDocuments_foreignText :
    ((TemplateDirectory.parseDocuments bareOptions.configPath
      (bareConfig foreignText)).map (List.map Manifest.heading)).toOption = some
        [configHeading "sdn-config", secretHeading, configHeading "sdn-controller-config"] := by
  decide +kernel

/-- A network without findings can add an object of any kind to the overlay. -/
theorem render_foreignText :
    bareFiles.find bareOptions.templateDir = .ok shippedTemplates ∧ bareOptions.HasPlainImages ∧
    ((bareNetwork foreignText).withDefaults none 1500).errors = [] ∧
    ¬ (bareNetwork foreignText).RendersOverlay none 1500 bareOptions bareFiles ∧
    ∃ objects, ((bareNetwork foreignText).withDefaults none 1500).render bareOptions bareFiles =
      .ok objects ∧ secretHeading.id ∈ objects.map Manifest.id := by
  obtain ⟨front, back, hfront, hback, hrender⟩ := render_bareNetwork foreignText
  have hparse := parseDocuments_foreignText
  cases hconfig : TemplateDirectory.parseDocuments bareOptions.configPath
    (bareConfig foreignText) with
  | error cause =>
    rw [hconfig] at hparse
    cases hparse
  | ok objects =>
    rw [hconfig] at hparse
    have hmiddle : objects.map Manifest.heading = _ := Option.some.inj hparse
    have hheadings : (front ++ objects ++ back).map Manifest.heading = foreignHeadings := by
      rw [List.map_append, List.map_append, hfront, hmiddle, hback]
      rfl
    have hchecked := ManifestSet.check_of_areInOrder (hheadings ▸ foreignHeadings_areInOrder)
    have hok : ((bareNetwork foreignText).withDefaults none 1500).render bareOptions bareFiles =
        .ok (front ++ objects ++ back) := by
      rw [hrender, hconfig]
      exact hchecked
    have hmem : secretHeading.id ∈ (front ++ objects ++ back).map Manifest.id := by
      have hspace : secretHeading ∈ (front ++ objects ++ back).map Manifest.heading := by
        rw [hheadings]
        decide
      obtain ⟨object, hobject, heq⟩ := List.mem_map.mp hspace
      exact List.mem_map.mpr ⟨object, hobject, congrArg Heading.id heq⟩
    refine ⟨find_bareFiles, hasPlainImages_bareOptions, errors_bareNetwork _, ?_, _, hok, hmem⟩
    rintro ⟨result, hresult, hids⟩
    obtain rfl : front ++ objects ++ back = result := Except.ok.inj (hok.symm.trans hresult)
    rw [hids] at hmem
    revert hmem
    decide

end OverlayConfig
