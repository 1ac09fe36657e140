import OverlayConfig.Proofs.Manifest.Acceptance
import OverlayConfig.Proofs.Render.Daemons
/-!
The images in what is rendered. They are pasted into double quotes as they are, so some characters
decide what the daemons run, and more than that; without these characters each daemon has its image
to the letter, and nothing else depends on the images.
-/
set_option autoImplicit false

namespace OverlayConfig

open Yaml TemplateDirectory

structure RenderOptions.HasHeldImages (options : RenderOptions) : Prop where
  node : ∀ c ∈ options.nodeImage.toList, isHeld c = true ∧ isAllowed c = true
  controller : ∀ c ∈ options.controllerImage.toList, isHeld c = true ∧ isAllowed c = true

def daemonId (name : String) : ObjectId := ⟨"DaemonSet", "openshift-sdn", name⟩

/-- The daemons of the overlay and the images that they are to have. -/
def RenderOptions.daemonImages (options : RenderOptions) (installsOpenvswitch : Bool) :
    List (ObjectId × String) :=
  (daemonId "sdn-controller", options.controllerImage) ::
    ((if installsOpenvswitch then [(daemonId "ovs", options.nodeImage)] else [])
      ++ [(daemonId "sdn", options.nodeImage)])

/-- Of the objects just one is each of the daemons, and its one container has the image of the
daemon. -/
def UsesImages (options : RenderOptions) (installsOpenvswitch : Bool) (objects : List Manifest) :
    Prop :=
  ∀ id image, (id, image) ∈ options.daemonImages installsOpenvswitch →
    ∃ object ∈ objects, object.id = id ∧ object.images = [some (.string image)] ∧
      ∀ other ∈ objects, other.id = id → other = object

/-- An object with the image that it is to have, if it is one of the daemons. -/
def RenderOptions.retag (options : RenderOptions) (installsOpenvswitch : Bool)
    (object : Manifest) : Manifest :=
  match (options.daemonImages installsOpenvswitch).lookup object.id with
  | some image => object.withImage image
  | none => object

section Daemons

def nodeDaemons (image : String) (installsOpenvswitch : Bool) : List Manifest :=
  (if installsOpenvswitch then [(daemonOf openvswitchLayout).withImage image] else [])
    ++ [(daemonOf sdnLayout).withImage image]

def RenderOptions.daemons (options : RenderOptions) (installsOpenvswitch : Bool) : List Manifest :=
  (daemonOf controllerLayout).withImage options.controllerImage ::
    nodeDaemons options.nodeImage installsOpenvswitch

variable {options other : RenderOptions} {installsOpenvswitch : Bool} {others : List Manifest}

theorem heading_daemonOf_withImage {l : Layout} {slot name : String}
    (h : showsImage l slot = true)
    (hheading : l.hasHeadings (slotNames.map String.toList) [daemonHeading name] = true)
    (image : String) : ((daemonOf l).withImage image).heading = daemonHeading name :=
  (Manifest.heading_withImage image _).trans (heading_daemonOf h hheading)

theorem id_daemonOf {l : Layout} {slot name : String} (h : showsImage l slot = true)
    (hheading : l.hasHeadings (slotNames.map String.toList) [daemonHeading name] = true)
    (image : String) : ((daemonOf l).withImage image).id = daemonId name :=
  congrArg Heading.id (heading_daemonOf_withImage h hheading image)

theorem id_controllerDaemon (image : String) :
    ((daemonOf controllerLayout).withImage image).id = daemonId "sdn-controller" :=
  id_daemonOf showsImage_controller hasHeadings_controller image

theorem id_openvswitchDaemon (image : String) :
    ((daemonOf openvswitchLayout).withImage image).id = daemonId "ovs" :=
  id_daemonOf showsImage_openvswitch hasHeadings_openvswitch image

theorem id_sdnDaemon (image : String) :
    ((daemonOf sdnLayout).withImage image).id = daemonId "sdn" :=
  id_daemonOf showsImage_sdn hasHeadings_sdn image

theorem heading_daemons (options : RenderOptions) (installsOpenvswitch : Bool) :
    (options.daemons installsOpenvswitch).map Manifest.heading =
      backHeadings installsOpenvswitch := by
  have hcontroller := heading_daemonOf_withImage showsImage_controller hasHeadings_controller
  have hopenvswitch := heading_daemonOf_withImage showsImage_openvswitch hasHeadings_openvswitch
  have hsdn := heading_daemonOf_withImage showsImage_sdn hasHeadings_sdn
  cases installsOpenvswitch <;>
    simp [RenderOptions.daemons, nodeDaemons, backHeadings, hcontroller, hopenvswitch, hsdn]

theorem exists_daemon {id : ObjectId} {image : String}
    (h : (id, image) ∈ options.daemonImages installsOpenvswitch) :
    ∃ object ∈ options.daemons installsOpenvswitch, object.id = id ∧
      object.images = [some (.string image)] := by
  rcases List.mem_cons.mp h with h | h
  · cases h
    exact ⟨_, List.mem_cons_self, id_controllerDaemon _, images_daemonOf showsImage_controller _⟩
  · rcases List.mem_append.mp h with h | h
    · cases installsOpenvswitch with
      | false => cases h
      | true =>
        cases List.mem_singleton.mp h
        exact ⟨_, .tail _ (.head _), id_openvswitchDaemon _,
          images_daemonOf showsImage_openvswitch _⟩
    · cases List.mem_singleton.mp h
      exact ⟨_, .tail _ (List.mem_append_right _ (.head _)), id_sdnDaemon _,
        images_daemonOf showsImage_sdn _⟩

theorem id_daemons (options : RenderOptions) (installsOpenvswitch : Bool) :
    (options.daemons installsOpenvswitch).map Manifest.id =
      (options.daemonImages installsOpenvswitch).map Prod.fst := by
  cases installsOpenvswitch <;>
    simp [RenderOptions.daemons, nodeDaemons, RenderOptions.daemonImages, id_controllerDaemon,
      id_openvswitchDaemon, id_sdnDaemon]

theorem retag_of_lookup {object : Manifest} {id : ObjectId} {image : String}
    (hid : object.id = id)
    (hlookup : (options.daemonImages installsOpenvswitch).lookup id = some image) :
    options.retag installsOpenvswitch object = object.withImage image := by
  rw [RenderOptions.retag, hid, hlookup]

theorem lookup_controller (options : RenderOptions) (installsOpenvswitch : Bool) :
    (options.daemonImages installsOpenvswitch).lookup (daemonId "sdn-controller") =
      some options.controllerImage :=
  List.lookup_cons_self

theorem lookup_openvswitch (options : RenderOptions) :
    (options.daemonImages true).lookup (daemonId "ovs") = some options.nodeImage := by
  have hcontroller : (daemonId "ovs" == daemonId "sdn-controller") = false := by decide
  simp [RenderOptions.daemonImages, List.lookup_cons, hcontroller]

theorem lookup_sdn (options : RenderOptions) (installsOpenvswitch : Bool) :
    (options.daemonImages installsOpenvswitch).lookup (daemonId "sdn") =
      some options.nodeImage := by
  have hcontroller : (daemonId "sdn" == daemonId "sdn-controller") = false := by decide
  have hopenvswitch : (daemonId "sdn" == daemonId "ovs") = false := by decide
  cases installsOpenvswitch <;>
    simp [RenderOptions.daemonImages, List.lookup_cons, hcontroller, hopenvswitch]

theorem map_retag_daemons (options other : RenderOptions) (installsOpenvswitch : Bool) :
    (options.daemons installsOpenvswitch).map (other.retag installsOpenvswitch) =
      other.daemons installsOpenvswitch := by
  have hcontroller := retag_of_lookup (id_controllerDaemon options.controllerImage)
    (lookup_controller other installsOpenvswitch)
  have hopenvswitch := retag_of_lookup (id_openvswitchDaemon options.nodeImage)
    (lookup_openvswitch other)
  have hsdn := retag_of_lookup (id_sdnDaemon options.nodeImage)
    (lookup_sdn other installsOpenvswitch)
  rw [Manifest.withImage_withImage] at hcontroller hopenvswitch hsdn
  cases installsOpenvswitch with
  | false =>
    simp only [RenderOptions.daemons, nodeDaemons, hcontroller, hsdn, List.map_cons, List.map_nil,
      List.nil_append, Bool.false_eq_true, if_false]
  | true =>
    simp only [RenderOptions.daemons, nodeDaemons, hcontroller, hopenvswitch, hsdn, List.map_cons,
      List.map_nil, List.cons_append, List.nil_append, if_true]

theorem retag_of_not_mem {object : Manifest}
    (h : object.id ∉ (options.daemonImages installsOpenvswitch).map Prod.fst) :
    options.retag installsOpenvswitch object = object := by
  have hnone : (options.daemonImages installsOpenvswitch).lookup object.id = none := by
    refine List.lookup_eq_none_iff.mpr fun p hp => ?_
    refine bne_iff_ne.mpr fun heq => h ?_
    exact heq ▸ List.mem_map_of_mem hp
  rw [RenderOptions.retag, hnone]

theorem id_retag (options : RenderOptions) (installsOpenvswitch : Bool) (object : Manifest) :
    (options.retag installsOpenvswitch object).id = object.id := by
  rw [RenderOptions.retag]
  split
  · exact congrArg Heading.id (Manifest.heading_withImage _ _)
  · rfl

theorem map_retag {others : List Manifest}
    (h : ((others ++ options.daemons installsOpenvswitch).map Manifest.id).Nodup) :
    (others ++ options.daemons installsOpenvswitch).map (other.retag installsOpenvswitch) =
      others ++ other.daemons installsOpenvswitch := by
  have hkeys : (other.daemonImages installsOpenvswitch).map Prod.fst =
      (options.daemons installsOpenvswitch).map Manifest.id := by
    rw [id_daemons]
    cases installsOpenvswitch <;> rfl
  rw [List.map_append, List.nodup_append] at h
  have hsame : others.map (other.retag installsOpenvswitch) = others := by
    refine (List.map_congr_left fun object hobject => retag_of_not_mem fun hmem => ?_).trans
      (List.map_id' others)
    exact h.2.2 _ (List.mem_map_of_mem hobject) _ (hkeys ▸ hmem) rfl
  rw [List.map_append, hsame, map_retag_daemons]

theorem namespacesFirst_map_retag (options : RenderOptions) (installsOpenvswitch : Bool)
    (objects : List Manifest) :
    ManifestSet.namespacesFirst (objects.map (options.retag installsOpenvswitch)) =
      (ManifestSet.namespacesFirst objects).map (options.retag installsOpenvswitch) := by
  have hspace (object : Manifest) :
      (options.retag installsOpenvswitch object).isNamespace = object.isNamespace :=
    congrArg (fun i : ObjectId => decide (i.kind = "Namespace")) (id_retag _ _ object)
  exact (List.map_mergeSort fun a _ b _ => by rw [hspace, hspace]).symm

end Daemons

section Render

variable {spec : NetworkSpec} {options : RenderOptions} {files : Files} {config : SdnConfig}
  {node : NodeConfig} {controller : ControllerConfig} {objects : List Manifest}

theorem exists_renderFile {source cs : List Char} {hs : List Heading}
    (h : serves source (.text cs) hs = true) :
    ∃ objects : List Manifest, objects.map Manifest.heading = hs ∧
      ∀ options config node controller path,
        renderFile path (.text source) (renderData options config node controller) =
          .ok objects := by
  have hheadings := h
  simp only [serves, Bool.and_eq_true] at hheadings
  have hfits : (Layout.text cs).Fits id := trivial
  obtain ⟨objects, hobjects, hmap⟩ :=
    Layout.parseDocuments_render (fun _ _ => rfl) hfits hheadings.2 ""
  refine ⟨objects, hmap, fun options config node controller path => ?_⟩
  rw [renderFile_layout h]
  exact parseDocuments_eq_ok.mpr (parseDocuments_eq_ok.mp hobjects)

/-- Of everything that is rendered only the two documents and the daemons depend on the network and
the options. -/
theorem render_around : ∃ front : List Manifest, front.map Manifest.heading = frontHeadings ∧
    ∀ {spec : NetworkSpec} {options : RenderOptions} {files : Files} {config : SdnConfig}
      {node : NodeConfig} {controller : ControllerConfig} {manager : List Manifest},
      files.find options.templateDir = .ok shippedTemplates → spec.sdn? = some config →
      NodeConfig.ofSpec spec = .ok node → ControllerConfig.ofSpec spec = .ok controller →
      (∀ path, parseDocuments path
        (controllerLayout.render (slotText options node controller)) = .ok manager) →
      (∀ c ∈ options.nodeImage.toList, isHeld c = true ∧ isAllowed c = true) →
      spec.render options files = (do
        let objects ← parseDocuments options.configPath
          (configLayout.render (slotText options node controller))
        ManifestSet.check (front ++ objects ++
          (manager ++ nodeDaemons options.nodeImage config.installsOpenvswitch))) := by
  obtain ⟨space, hspace, hspace'⟩ := exists_renderFile serves_namespace
  obtain ⟨access, haccess, haccess'⟩ := exists_renderFile serves_sdnAccess
  obtain ⟨rights, hrights, hrights'⟩ := exists_renderFile serves_controllerAccess
  refine ⟨space ++ access ++ rights, by simp [hspace, haccess, hrights, frontHeadings], ?_⟩
  intro spec options files config node controller manager hfiles hs hn hc hmanager himage
  have hopenvswitch (path : String) : renderFile path (.text (textOfLines openvswitchTemplate))
      (renderData options config node controller) =
        .ok (if config.installsOpenvswitch then
          [(daemonOf openvswitchLayout).withImage options.nodeImage] else []) := by
    rw [renderFile_layoutIf servesIf_openvswitch (by decide)
      (get?_installsOpenvswitch options config node controller)]
    cases config.installsOpenvswitch with
    | true =>
      exact parseDocuments_layout showsImage_openvswitch hasHeadings_openvswitch
        (fits_image rfl himage _ _) rfl path
    | false => rfl
  have hsdn (path : String) : renderFile path (.text (textOfLines sdnTemplate))
      (renderData options config node controller) =
        .ok [(daemonOf sdnLayout).withImage options.nodeImage] := by
    rw [renderFile_layout serves_sdn]
    exact parseDocuments_layout showsImage_sdn hasHeadings_sdn (fits_image rfl himage _ _) rfl path
  have hmanager' (path : String) : renderFile path (.text (textOfLines controllerTemplate))
      (renderData options config node controller) = .ok manager :=
    (renderFile_layout serves_controller path).trans (hmanager path)
  rw [NetworkSpec.render, NetworkSpec.renderData_of_documents options hs hn hc]
  change (TemplateDirectory.render files options.templateDir _ >>= ManifestSet.check) = _
  rw [render_directory hfiles, renderFiles_around (hspace' ..) (haccess' ..) (hrights' ..)
    (hmanager' _) (hopenvswitch _) (hsdn _), renderFile_config, RenderOptions.configPath]
  cases parseDocuments (joinPath options.templateDir "003-config.yaml")
    (configLayout.render (slotText options node controller)) with
  | error cause => rfl
  | ok objects => simp only [Except.map, bind, Except.bind, nodeDaemons, List.append_assoc]

theorem documents_of_render (h : spec.render options files = .ok objects) :
    ∃ config node controller, spec.sdn? = some config ∧ NodeConfig.ofSpec spec = .ok node ∧
      ControllerConfig.ofSpec spec = .ok controller := by
  obtain ⟨data, -, hdata, -⟩ := NetworkSpec.render_eq_ok.mp h
  simp only [NetworkSpec.renderData, bind_eq_ok] at hdata
  obtain ⟨config, hconfig, node, hnode, controller, hcontroller, -⟩ := hdata
  refine ⟨config, node, controller, ?_, hnode, hcontroller⟩
  rw [NetworkSpec.requireSdn] at hconfig
  split at hconfig
  · next found hfound =>
    cases hconfig
    exact hfound
  · cases hconfig

theorem isAllowed_of_parseDocuments_image {path : String} {part : List Manifest}
    {before after : List Char} {name image : String} {hs : List Heading}
    (hheadings : (Layout.image before name.toList (.text after)).hasHeadings
      (slotNames.map String.toList) hs = true)
    (hget : (slotTexts options node controller).get? name = some image.toList)
    (hparse : parseDocuments path ((Layout.image before name.toList (.text after)).render
      (slotText options node controller)) = .ok part) :
    ∀ c ∈ image.toList, isAllowed c = true := by
  intro c hc
  cases hallowed : isAllowed c with
  | true => rfl
  | false =>
    have hmem : c ∈ (Layout.image before name.toList (.text after)).render
        (slotText options node controller) := by
      rw [Layout.render, slotText_toList, hget]
      exact List.mem_append_right _ (List.mem_append_left _ hc)
    rw [parseDocuments_of_not_allowed (Layout.trim_render hheadings _) hmem hallowed] at hparse
    cases hparse

theorem isAllowed_of_render (hfiles : files.find options.templateDir = .ok shippedTemplates)
    (h : spec.render options files = .ok objects) :
    (∀ c ∈ options.nodeImage.toList, isAllowed c = true) ∧
      ∀ c ∈ options.controllerImage.toList, isAllowed c = true := by
  obtain ⟨config, node, controller, hs, hn, hc⟩ := documents_of_render h
  obtain ⟨rendered, hall, -⟩ := renderFiles_of_render hfiles hs hn hc h
  have hmanager : ("004-controller.yaml", FileNode.text (textOfLines controllerTemplate)) ∈
      shippedFiles := .tail _ (.tail _ (.tail _ (.tail _ (.head _))))
  have hdaemon : ("006-sdn.yaml", FileNode.text (textOfLines sdnTemplate)) ∈ shippedFiles :=
    .tail _ (.tail _ (.tail _ (.tail _ (.tail _ (.tail _ (.head _))))))
  obtain ⟨manager, hmanager, -⟩ := objects_of_renderFiles hall _ hmanager
  obtain ⟨daemon, hdaemon, -⟩ := objects_of_renderFiles hall _ hdaemon
  rw [renderFile_layout serves_controller] at hmanager
  rw [renderFile_layout serves_sdn] at hdaemon
  exact ⟨isAllowed_of_parseDocuments_image hasHeadings_sdn rfl hdaemon,
    isAllowed_of_parseDocuments_image hasHeadings_controller rfl hmanager⟩

theorem render_configLayout (options other : RenderOptions) (node : NodeConfig)
    (controller : ControllerConfig) :
    configLayout.render (slotText options node controller) =
      configLayout.render (slotText other node controller) := by
  simp only [configLayout, Layout.render, slotText_nodeConfig, slotText_controllerConfig]

theorem NetworkSpec.installsOpenvswitch_of_sdn? (h : spec.sdn? = some config) :
    config.installsOpenvswitch = spec.installsOpenvswitch := by
  rw [installsOpenvswitch, h, SdnConfig.installsOpenvswitch]
  obtain ⟨mode, port, mtu, external⟩ := config
  rcases external with _ | _ | _ <;> rfl

theorem usesImages_of_check {others : List Manifest} {installsOpenvswitch : Bool}
    (h : ManifestSet.check (others ++ options.daemons installsOpenvswitch) = .ok objects) :
    UsesImages options installsOpenvswitch objects := by
  obtain ⟨rfl, -, -, hnodup, -⟩ := ManifestSet.check_eq_ok.mp h
  intro id image hmem
  obtain ⟨object, hobject, rfl, himages⟩ := exists_daemon hmem
  have hshown := ManifestSet.mem_namespacesFirst.mpr (List.mem_append_right others hobject)
  exact ⟨object, hshown, rfl, himages, fun other hother heq =>
    List.inj_on_of_nodup_map hnodup hother hshown heq⟩

/-- The characters that do not stand for themselves inside of double quotes. -/
def quoteBreakers : List Char := ['\x22', '\\', '\n', '\r', '\u0085', '\u2028', '\u2029']

theorem isHeld_iff {c : Char} : isHeld c = true ↔ c ∉ quoteBreakers := by
  constructor
  · intro h hc
    have hall : (quoteBreakers.all fun c => isHeld c = false) = true := by decide
    exact absurd h (Bool.eq_false_iff.mp (of_decide_eq_true (List.all_eq_true.mp hall c hc)))
  · intro h
    have hbreak : isBreak c = false := by
      cases hbreak : isBreak c with
      | false => rfl
      | true =>
        have hof {n : Nat} (hn : c.toNat = n) : c = Char.ofNat n := by rw [← hn, Char.ofNat_toNat]
        simp only [isBreak, Bool.or_eq_true, decide_eq_true_eq] at hbreak
        refine absurd ?_ h
        rcases hbreak with (((rfl | rfl) | hn) | hn) | hn
        · decide
        · decide
        all_goals
          rw [hof hn]
          decide
    simp only [quoteBreakers, List.mem_cons, not_or] at h
    simp [isHeld, hbreak, h.1, h.2.1]

structure RenderOptions.HasUnbrokenImages (options : RenderOptions) : Prop where
  node : ∀ c ∈ options.nodeImage.toList, c ∉ quoteBreakers
  controller : ∀ c ∈ options.controllerImage.toList, c ∉ quoteBreakers

theorem RenderOptions.HasPlainImages.hasUnbrokenImages (h : options.HasPlainImages) :
    options.HasUnbrokenImages :=
  ⟨fun c hc => isHeld_iff.mp (isHeld_of_isQuotable (h.node c hc).1),
    fun c hc => isHeld_iff.mp (isHeld_of_isQuotable (h.controller c hc).1)⟩

theorem hasHeldImages_of_render (hfiles : files.find options.templateDir = .ok shippedTemplates)
    (himages : options.HasUnbrokenImages) (h : spec.render options files = .ok objects) :
    options.HasHeldImages := by
  obtain ⟨hnode, hcontroller⟩ := isAllowed_of_render hfiles h
  exact ⟨fun c hc => ⟨isHeld_iff.mpr (himages.node c hc), hnode c hc⟩,
    fun c hc => ⟨isHeld_iff.mpr (himages.controller c hc), hcontroller c hc⟩⟩

/-- The objects that a network is rendered to end in the daemons, whatever the images are, and the
others are the same for all images. -/
theorem check_of_render (hfiles : files.find options.templateDir = .ok shippedTemplates)
    (himages : options.HasUnbrokenImages) (hrender : spec.render options files = .ok objects) :
    ∃ others, ManifestSet.check (others ++ options.daemons spec.installsOpenvswitch) = .ok objects ∧
      ∀ (other : RenderOptions) (files' : Files) (objects' : List Manifest),
        files'.find other.templateDir = .ok shippedTemplates → other.HasUnbrokenImages →
        spec.render other files' = .ok objects' →
        ManifestSet.check (others ++ other.daemons spec.installsOpenvswitch) = .ok objects' := by
  obtain ⟨front, -, haround⟩ := render_around
  obtain ⟨config, node, controller, hs, hn, hc⟩ := documents_of_render hrender
  rw [← NetworkSpec.installsOpenvswitch_of_sdn? hs]
  have hcheck {options : RenderOptions} {files : Files} {objects : List Manifest}
      (hfiles : files.find options.templateDir = .ok shippedTemplates)
      (himages : options.HasUnbrokenImages) (h : spec.render options files = .ok objects) :
      ∃ part, parseDocuments options.configPath
          (configLayout.render (slotText options node controller)) = .ok part ∧
        ManifestSet.check (front ++ part ++ options.daemons config.installsOpenvswitch) =
          .ok objects := by
    have hheld := hasHeldImages_of_render hfiles himages h
    rw [haround hfiles hs hn hc (parseDocuments_layout showsImage_controller
      hasHeadings_controller (fits_image rfl hheld.controller _ _) rfl) hheld.node] at h
    exact bind_eq_ok.mp h
  obtain ⟨part, hpart, hobjects⟩ := hcheck hfiles himages hrender
  refine ⟨front ++ part, hobjects, fun other files' objects' hfiles' himages' hrender' => ?_⟩
  obtain ⟨part', hpart', hobjects'⟩ := hcheck hfiles' himages' hrender'
  obtain rfl : part' = part := by
    rw [render_configLayout other options] at hpart'
    exact Except.ok.inj
      (hpart'.symm.trans (parseDocuments_eq_ok.mpr (parseDocuments_eq_ok.mp hpart)))
  exact hobjects'

/-- Whatever the network is, once it is rendered with unbroken images, each daemon has its image to
the letter; and rendered with other such images, the objects are the same but for the images of the
daemons. -/
theorem render_images (hfiles : files.find options.templateDir = .ok shippedTemplates)
    (himages : options.HasUnbrokenImages) (hrender : spec.render options files = .ok objects) :
    UsesImages options spec.installsOpenvswitch objects ∧
      ∀ (other : RenderOptions) (files' : Files) (objects' : List Manifest),
        files'.find other.templateDir = .ok shippedTemplates → other.HasUnbrokenImages →
        spec.render other files' = .ok objects' →
        objects' = objects.map (other.retag spec.installsOpenvswitch) := by
  obtain ⟨others, hcheck, hchecks⟩ := check_of_render hfiles himages hrender
  refine ⟨usesImages_of_check hcheck, fun other files' objects' hfiles' himages' hrender' => ?_⟩
  obtain ⟨rfl, -, -, hnodup, -⟩ := ManifestSet.check_eq_ok.mp hcheck
  obtain ⟨rfl, -⟩ :=
    ManifestSet.check_eq_ok.mp (hchecks other files' objects' hfiles' himages' hrender')
  have hdistinct := ((ManifestSet.namespacesFirst_perm _).map Manifest.id).nodup_iff.mp hnodup
  rw [← namespacesFirst_map_retag, map_retag hdistinct]

def mirrorOptions : RenderOptions := ⟨"/", "mirror/sdn/node:v4.0", "mirror/sdn/controller:v4.0"⟩

theorem render_images_bare :
    ∃ objects, ((bareNetwork "30s").withDefaults none 1500).render bareOptions bareFiles =
        .ok objects ∧
      UsesImages bareOptions true objects ∧
      ((bareNetwork "30s").withDefaults none 1500).render mirrorOptions bareFiles =
        .ok (objects.map (mirrorOptions.retag true)) := by
  have hplain : mirrorOptions.HasPlainImages :=
    RenderOptions.hasPlainImages_of_isImageChar (by decide) (by decide)
  have hfree : AllEmbeddable (bareNetwork "30s").freeTexts := allEmbeddable_of_all (by decide)
  have hvalid := errors_bareNetwork "30s"
  have hfiles : bareFiles.find mirrorOptions.templateDir = .ok shippedTemplates := find_bareFiles
  obtain ⟨objects, hrender, -⟩ :=
    render_of_allEmbeddable find_bareFiles hasPlainImages_bareOptions hvalid hfree
  obtain ⟨objects', hrender', -⟩ := render_of_allEmbeddable hfiles hplain hvalid hfree
  obtain ⟨huses, hsame⟩ :=
    render_images find_bareFiles hasPlainImages_bareOptions.hasUnbrokenImages hrender
  obtain rfl := hsame mirrorOptions bareFiles objects' hfiles hplain.hasUnbrokenImages hrender'
  exact ⟨objects, hrender, huses, hrender'⟩

end Render

section Broken

variable {spec : NetworkSpec} {previous : Option NetworkSpec} {hostMtu : UInt32}
  {options : RenderOptions} {files : Files} {objects : List Manifest} {c : Char}

def RenderOptions.withController (options : RenderOptions) (image : String) : RenderOptions :=
  { options with controllerImage := image }

/-- A character, and what makes the rest of the line a comment should the quotes end. -/
def brokenImage (c : Char) : String := String.ofList [c, ' ', '#']

def shownImage (c : Char) : List Char :=
  if c = '\x22' then [] else if c = '\u2028' ∨ c = '\u2029' then [c, '#'] else [' ', '#']

def brokenImageSlot (c : Char) (name : List Char) : List Char :=
  if name = "controller_image".toList then shownImage c else name

set_option maxRecDepth 1000 in
theorem tokens_brokenImage : (quoteBreakers.all fun c =>
    ((controllerLayout.scan (slotNames.map String.toList) (-1) [] 0).map fun ts =>
      (ts.map (Token.retext (brokenImageSlot c)), none)) =
        some (tokens (controllerLayout.render fun _ => (brokenImage c).toList))) = true := by
  simp (disch := rfl) only [controllerLayout, linesBefore, joinedLines, textOfLines,
    controllerTemplate, List.take, List.drop, List.flatMap_cons, List.flatMap_nil, toList_of_eq]
  decide +kernel

theorem shownImage_ne (c : Char) : String.ofList (shownImage c) ≠ brokenImage c := by
  intro h
  have heq : shownImage c = [c, ' ', '#'] := String.ofList_inj.mp h
  revert heq
  rw [shownImage]
  split
  · simp
  · split <;> simp

theorem parseDocuments_brokenImage (hc : c ∈ quoteBreakers) (node : NodeConfig)
    (controller : ControllerConfig) (path : String) :
    parseDocuments path (controllerLayout.render
      (slotText (options.withController (brokenImage c)) node controller)) =
        .ok [(daemonOf controllerLayout).withImage (String.ofList (shownImage c))] := by
  have hfill : ∀ text, text ∉ slotNames.map String.toList → brokenImageSlot c text = text := by
    intro text htext
    refine if_neg ?_
    rintro rfl
    exact htext (by decide)
  have htext : controllerLayout.render
      (slotText (options.withController (brokenImage c)) node controller) =
        controllerLayout.render fun _ => (brokenImage c).toList := by
    simp only [controllerLayout, Layout.render, slotText_toList]
    rfl
  have htokens := of_decide_eq_true (List.all_eq_true.mp tokens_brokenImage c hc)
  have hread := parseDocuments_daemon showsImage_controller hfill
    (Layout.trim_render hasHeadings_controller fun _ => (brokenImage c).toList) (fun ts hts => by
      rw [hts] at htokens
      exact (Option.some.inj htokens).symm) path
  rw [htext, hread, brokenImageSlot, if_pos rfl]

theorem UsesImages.controllerImage_eq {other : RenderOptions} {installsOpenvswitch : Bool}
    (h : UsesImages options installsOpenvswitch objects)
    (hother : UsesImages other installsOpenvswitch objects) :
    options.controllerImage = other.controllerImage := by
  obtain ⟨object, hobject, hid, himages, -⟩ := h _ _ (.head _)
  obtain ⟨_, -, -, himages', hunique⟩ := hother _ _ (.head _)
  rw [hunique object hobject hid] at himages
  simpa [himages'] using himages.symm

/-- Each of the breaking characters in an image has a daemon run another one, without any error. -/
theorem render_brokenImage (hfiles : files.find options.templateDir = .ok shippedTemplates)
    (hvalid : (spec.withDefaults previous hostMtu).errors = [])
    (hfree : AllEmbeddable spec.freeTexts)
    (hnode : ∀ d ∈ options.nodeImage.toList, isHeld d = true ∧ isAllowed d = true)
    (hc : c ∈ quoteBreakers) :
    ∃ objects, (spec.withDefaults previous hostMtu).render
        (options.withController (brokenImage c)) files = .ok objects ∧
      UsesImages (options.withController (String.ofList (shownImage c)))
        (spec.withDefaults previous hostMtu).installsOpenvswitch objects ∧
      ¬ UsesImages (options.withController (brokenImage c))
        (spec.withDefaults previous hostMtu).installsOpenvswitch objects := by
  obtain ⟨front, hfront, haround⟩ := render_around
  obtain ⟨config, node, controller, hs, hn, hcon, hfits, hnodeFits, -⟩ :=
    documents_of_errors hvalid
  have hids : (configMaps node.text controller.text).map Manifest.id = configIds := by
    simp [configMaps, id_configMap, configIds]
  have hversions : ∀ o ∈ configMaps node.text controller.text, o.apiVersion ≠ "" := by
    simp [configMaps, apiVersion_configMap]
  have hback := heading_daemons (options.withController (String.ofList (shownImage c)))
    config.installsOpenvswitch
  obtain ⟨hcheck, -⟩ := check_of_configIds hfront hback hids hversions
  have hfound : files.find (options.withController (brokenImage c)).templateDir =
    .ok shippedTemplates := hfiles
  have hrender := haround hfound hs hn hcon (parseDocuments_brokenImage hc node controller) hnode
  rw [parseDocuments_configLayout (hnodeFits hfree) hfits] at hrender
  rw [← NetworkSpec.installsOpenvswitch_of_sdn? hs]
  refine ⟨_, hrender.trans hcheck, usesImages_of_check hcheck, fun huses => ?_⟩
  exact shownImage_ne c ((usesImages_of_check hcheck).controllerImage_eq huses)

/-- Without findings and without any error, a daemon can have an image that is not the given one. -/
theorem render_backslash :
    bareFiles.find bareOptions.templateDir = .ok shippedTemplates ∧
    ((bareNetwork "30s").withDefaults none 1500).errors = [] ∧
    ∃ objects, ((bareNetwork "30s").withDefaults none 1500).render
        (bareOptions.withController "\\ #") bareFiles = .ok objects ∧
      ¬ UsesImages (bareOptions.withController "\\ #")
        ((bareNetwork "30s").withDefaults none 1500).installsOpenvswitch objects := by
  have hnode : ∀ c ∈ bareOptions.nodeImage.toList, isHeld c = true ∧ isAllowed c = true :=
    fun c hc => (hasPlainImages_bareOptions.node c hc).imp_left isHeld_of_isQuotable
  obtain ⟨objects, hrender, -, hbroken⟩ := render_brokenImage find_bareFiles
    (errors_bareNetwork "30s") (allEmbeddable_of_all (by decide)) hnode
    (by decide : '\\' ∈ quoteBreakers)
  exact ⟨find_bareFiles, errors_bareNetwork "30s", objects, hrender, hbroken⟩

end Broken

/-- The breaking characters are all that images have to be free of, if they may have blanks and
number signs, for every daemon of every rendered network to have its image. -/
theorem usesImages_forall_iff {p : Char → Prop} (hblank : p ' ') (hsign : p '#') :
    (∀ (spec : NetworkSpec) (previous : Option NetworkSpec) (hostMtu : UInt32)
      (options : RenderOptions) (files : Files) (objects : List Manifest),
      files.find options.templateDir = .ok shippedTemplates →
      (spec.withDefaults previous hostMtu).errors = [] →
      (spec.withDefaults previous hostMtu).render options files = .ok objects →
      (∀ c ∈ options.nodeImage.toList, p c) → (∀ c ∈ options.controllerImage.toList, p c) →
      UsesImages options (spec.withDefaults previous hostMtu).installsOpenvswitch objects) ↔
    ∀ c, p c → c ∉ quoteBreakers := by
  constructor
  · intro h c hpc hc
    have hcontroller : ∀ d ∈ (brokenImage c).toList, p d := by
      simpa [brokenImage] using ⟨hpc, hblank, hsign⟩
    have hfound : bareFiles.find (RenderOptions.templateDir ⟨"/", "", ""⟩) =
        .ok shippedTemplates := find_bareFiles
    obtain ⟨objects, hrender, -, hbroken⟩ := render_brokenImage hfound
      (errors_bareNetwork "30s") (allEmbeddable_of_all (by decide)) (by simp) hc
    exact hbroken (h _ _ _ _ _ objects find_bareFiles (errors_bareNetwork "30s") hrender
      (by simp [RenderOptions.withController]) hcontroller)
  · intro h spec previous hostMtu options files objects hfiles _ hrender hnode hcontroller
    have himages : options.HasUnbrokenImages :=
      ⟨fun c hc => h c (hnode c hc), fun c hc => h c (hcontroller c hc)⟩
    obtain ⟨others, hcheck, -⟩ := check_of_render hfiles himages hrender
    exact usesImages_of_check hcheck

end OverlayConfig
