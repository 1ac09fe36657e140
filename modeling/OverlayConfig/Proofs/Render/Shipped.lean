import OverlayConfig.Proofs.Cidr
import OverlayConfig.Proofs.Json.Lines
import OverlayConfig.Proofs.Manifest.Directory
import OverlayConfig.Proofs.Render.Layouts
import OverlayConfig.Proofs.Spec.Defaults
set_option autoImplicit false

namespace OverlayConfig

open Yaml

structure RenderOptions.HasPlainImages (options : RenderOptions) : Prop where
  node : ∀ c ∈ options.nodeImage.toList, isQuotable c = true ∧ isAllowed c = true
  controller : ∀ c ∈ options.controllerImage.toList, isQuotable c = true ∧ isAllowed c = true

/-- The texts that the templates write for the names in their slots. -/
def slotTexts (options : RenderOptions) (node : NodeConfig) (controller : ControllerConfig) :
    Fields (List Char) :=
  [("controller_config", controller.text), ("controller_image", options.controllerImage.toList),
    ("node_config", node.text), ("node_image", options.nodeImage.toList)]

def slotText (options : RenderOptions) (node : NodeConfig) (controller : ControllerConfig)
    (name : List Char) : List Char :=
  ((slotTexts options node controller).get? (String.ofList name)).getD name

section Slots

variable {options : RenderOptions} {config : SdnConfig} {node : NodeConfig}
  {controller : ControllerConfig}

theorem slotText_of_not_mem {name : List Char} (h : name ∉ slotNames.map String.toList) :
    slotText options node controller name = name := by
  have hname : ∀ s ∈ slotNames, s ≠ String.ofList name := by
    rintro s hs rfl
    exact h (List.mem_map.mpr ⟨_, hs, String.toList_ofList⟩)
  simp only [slotNames, List.forall_mem_cons] at hname
  simp [slotText, slotTexts, Fields.get?, hname]

theorem slotText_toList (name : String) :
    slotText options node controller name.toList =
      ((slotTexts options node controller).get? name).getD name.toList := by
  rw [slotText, String.ofList_toList]

theorem isServed_renderData {l : Layout}
    (h : (l.outputs []).slots.all (fun p => slotNames.contains p.2) = true) :
    l.IsServed (slotText options node controller) (renderData options config node controller) := by
  intro p hp
  have hname := List.contains_iff_mem.mp (List.all_eq_true.mp h p hp)
  refine ⟨(by decide : ∀ s ∈ slotNames, Template.isName s = true) _ hname, ?_⟩
  rw [slotText_toList]
  simp only [slotNames, List.mem_cons, List.not_mem_nil, or_false] at hname
  rcases hname with hname | hname | hname | hname <;>
    simp [hname, slotTexts, renderData, Template.dataFields, Fields.get?, Template.Value.ofJson]

theorem fits_image {name text : String}
    (hget : (slotTexts options node controller).get? name = some text.toList)
    (h : ∀ c ∈ text.toList, isHeld c = true ∧ isAllowed c = true) (before after : List Char) :
    (Layout.image before name.toList (.text after)).Fits (slotText options node controller) := by
  refine ⟨?_, trivial⟩
  rw [slotText_toList, hget]
  exact h

variable {source : List Char} {l : Layout} {hs : List Heading}

open TemplateDirectory

theorem renderFile_of_render {data : Json} {rendered : List Char}
    (h : Template.render source data = .ok rendered) (path : String) :
    renderFile path (.text source) data = parseDocuments path rendered := by
  change ((Template.render source data).mapError (.template path) >>= parseDocuments path) = _
  rw [h]
  rfl

theorem renderFile_layout (h : serves source l hs = true) (path : String) :
    renderFile path (.text source) (renderData options config node controller) =
      parseDocuments path (l.render (slotText options node controller)) := by
  simp only [serves, Bool.and_eq_true, decide_eq_true_eq] at h
  exact renderFile_of_render (Layout.render_template (isServed_renderData h.1.2) h.1.1) path

theorem renderFile_layoutIf {test : String} {holds : Bool} (h : servesIf test source l hs = true)
    (htest : Template.isName test = true)
    (hholds : Fields.get? test (Template.dataFields (renderData options config node controller)) =
      some (.bool holds)) (path : String) :
    renderFile path (.text source) (renderData options config node controller) =
      parseDocuments path (if holds then l.render (slotText options node controller) else []) := by
  simp only [servesIf, Bool.and_eq_true, decide_eq_true_eq] at h
  have hserved : l.IsServed (slotText options node controller)
      (renderData options config node controller) := isServed_renderData h.1.2
  exact renderFile_of_render (Layout.render_templateIf hserved htest hholds h.1.1) path

theorem renderFile_serves (h : serves source l hs = true)
    (hfits : l.Fits (slotText options node controller)) (path : String) :
    ∃ objects, renderFile path (.text source) (renderData options config node controller) =
      .ok objects ∧ objects.map Manifest.heading = hs := by
  rw [renderFile_layout h]
  simp only [serves, Bool.and_eq_true] at h
  exact Layout.parseDocuments_render (fun _ => slotText_of_not_mem) hfits h.2 path

theorem renderFile_servesIf {test : String} {holds : Bool} (h : servesIf test source l hs = true)
    (htest : Template.isName test = true)
    (hholds : Fields.get? test (Template.dataFields (renderData options config node controller)) =
      some (.bool holds))
    (hfits : l.Fits (slotText options node controller)) (path : String) :
    ∃ objects, renderFile path (.text source) (renderData options config node controller) =
      .ok objects ∧ objects.map Manifest.heading = if holds then hs else [] := by
  rw [renderFile_layoutIf h htest hholds]
  simp only [servesIf, Bool.and_eq_true] at h
  cases holds with
  | true => exact Layout.parseDocuments_render (fun _ => slotText_of_not_mem) hfits h.2 path
  | false => exact ⟨[], rfl, rfl⟩

theorem renderFile_config (path : String) :
    renderFile path (.text (textOfLines configTemplate))
      (renderData options config node controller) =
        parseDocuments path (configLayout.render (slotText options node controller)) :=
  renderFile_layout serves_config path

theorem renderFiles_cons {dir name : String} {file : FileNode} {data : Json}
    {objects : List Manifest} (h : renderFile (joinPath dir name) file data = .ok objects)
    (rest : List (String × FileNode)) :
    renderFiles dir data ((name, file) :: rest) =
      (renderFiles dir data rest).map (objects ++ ·) := by
  rw [renderFiles, h]
  rfl

/-- When all files are rendered, each one is, and its objects are among all objects. -/
theorem objects_of_renderFiles {dir : String} {data : Json} {files : List (String × FileNode)}
    {objects : List Manifest} (h : renderFiles dir data files = .ok objects) :
    ∀ file ∈ files, ∃ part, renderFile (joinPath dir file.1) file.2 data = .ok part ∧
      part ⊆ objects := by
  induction files generalizing objects with
  | nil => exact nofun
  | cons first rest ih =>
    simp only [renderFiles, bind_eq_ok] at h
    obtain ⟨part, hpart, more, hmore, h⟩ := h
    cases h
    refine List.forall_mem_cons.mpr ⟨⟨part, hpart, List.subset_append_left part more⟩, ?_⟩
    intro file hfile
    obtain ⟨objects, hobjects, hsub⟩ := ih hmore file hfile
    exact ⟨objects, hobjects, List.Subset.trans hsub (List.subset_append_right part more)⟩

def shippedFiles : List (String × FileNode) :=
  match shippedTemplates with
  | .directory entries => entries
  | _ => []

theorem templateFiles_shipped : templateFiles shippedFiles = shippedFiles := rfl

theorem render_directory {files : Files} {dir : String}
    (h : files.find dir = .ok shippedTemplates) (data : Json) :
    render files dir data = renderFiles dir data shippedFiles := by
  have hlist : files.list dir = .ok shippedFiles := by
    simp only [Files.list, h]
    rfl
  rw [render_of_list hlist, templateFiles_shipped]

theorem renderFiles_map {dir name : String} {file : FileNode} {data : Json}
    {objects : List Manifest} {rest : List (String × FileNode)}
    (h : renderFiles dir data rest = .ok objects) :
    renderFiles dir data ((name, file) :: rest) =
      (renderFile (joinPath dir name) file data).map (· ++ objects) := by
  rw [renderFiles, h]
  cases renderFile (joinPath dir name) file data <;> rfl

theorem get?_installsOpenvswitch (options : RenderOptions) (config : SdnConfig) (node : NodeConfig)
    (controller : ControllerConfig) : Fields.get? "install_ovs"
      (Template.dataFields (renderData options config node controller)) =
        some (.bool config.installsOpenvswitch) := by
  simp [renderData, Template.dataFields, Fields.get?, Template.Value.ofJson]

/-- When the files around the configuration are rendered, only the configuration can fail. -/
theorem renderFiles_around {dir : String} {data : Json}
    {space access rights manager switch daemon : List Manifest}
    (hspace : renderFile (joinPath dir "000-namespace.yaml")
      (.text (textOfLines namespaceTemplate)) data = .ok space)
    (haccess : renderFile (joinPath dir "001-sdn-rbac.yaml")
      (.text (textOfLines sdnAccessTemplate)) data = .ok access)
    (hrights : renderFile (joinPath dir "002-controller-rbac.yaml")
      (.text (textOfLines controllerAccessTemplate)) data = .ok rights)
    (hmanager : renderFile (joinPath dir "004-controller.yaml")
      (.text (textOfLines controllerTemplate)) data = .ok manager)
    (hswitch : renderFile (joinPath dir "005-ovs.yaml")
      (.text (textOfLines openvswitchTemplate)) data = .ok switch)
    (hdaemon : renderFile (joinPath dir "006-sdn.yaml") (.text (textOfLines sdnTemplate)) data =
      .ok daemon) :
    renderFiles dir data shippedFiles =
      (renderFile (joinPath dir "003-config.yaml") (.text (textOfLines configTemplate)) data).map
        fun objects => space ++ access ++ rights ++ objects ++ (manager ++ switch ++ daemon) := by
  have hback : renderFiles dir data (shippedFiles.drop 4) = .ok (manager ++ switch ++ daemon) := by
    refine (renderFiles_cons hmanager _).trans ?_
    refine (congrArg _ ((renderFiles_cons hswitch _).trans
      (congrArg _ (renderFiles_cons hdaemon [])))).trans ?_
    simp [renderFiles, Except.map]
  have hconfig : renderFiles dir data (shippedFiles.drop 3) = _ := renderFiles_map hback
  refine (renderFiles_cons hspace _).trans ((congrArg _ ((renderFiles_cons haccess _).trans
    (congrArg _ ((renderFiles_cons hrights _).trans (congrArg _ hconfig))))).trans ?_)
  cases renderFile (joinPath dir "003-config.yaml") (.text (textOfLines configTemplate)) data <;>
    simp [Except.map]

def frontHeadings : List Heading :=
  namespaceHeading :: accessHeadings "openshift-sdn" "sdn"
    ++ accessHeadings "openshift-sdn-controller" "sdn-controller"

def backHeadings (installsOpenvswitch : Bool) : List Heading :=
  daemonHeading "sdn-controller" :: (if installsOpenvswitch then [daemonHeading "ovs"] else [])
    ++ [daemonHeading "sdn"]

theorem renderFiles_shipped (config : SdnConfig) (node : NodeConfig)
    (controller : ControllerConfig) (himages : options.HasPlainImages) (dir : String) :
    ∃ front back, front.map Manifest.heading = frontHeadings ∧
      back.map Manifest.heading = backHeadings config.installsOpenvswitch ∧
      renderFiles dir (renderData options config node controller) shippedFiles =
        (parseDocuments (joinPath dir "003-config.yaml")
          (configLayout.render (slotText options node controller))).map
            fun objects => front ++ objects ++ back := by
  have hheld {image : String} (h : ∀ c ∈ image.toList, isQuotable c = true ∧ isAllowed c = true) :
      ∀ c ∈ image.toList, isHeld c = true ∧ isAllowed c = true :=
    fun c hc => ⟨isHeld_of_isQuotable (h c hc).1, (h c hc).2⟩
  have hcontroller : controllerLayout.Fits (slotText options node controller) :=
    fits_image rfl (hheld himages.controller) _ _
  have hopenvswitch : openvswitchLayout.Fits (slotText options node controller) :=
    fits_image rfl (hheld himages.node) _ _
  have hsdn : sdnLayout.Fits (slotText options node controller) :=
    fits_image rfl (hheld himages.node) _ _
  have hfile (name : String) {source : List Char} {l : Layout} {hs : List Heading}
      (h : serves source l hs = true) (hfits : l.Fits (slotText options node controller)) :
      ∃ objects, renderFile (joinPath dir name) (.text source)
        (renderData options config node controller) = .ok objects ∧
        objects.map Manifest.heading = hs := renderFile_serves h hfits _
  obtain ⟨space, hspace, hspace'⟩ := hfile "000-namespace.yaml" serves_namespace trivial
  obtain ⟨access, haccess, haccess'⟩ := hfile "001-sdn-rbac.yaml" serves_sdnAccess trivial
  obtain ⟨rights, hrights, hrights'⟩ :=
    hfile "002-controller-rbac.yaml" serves_controllerAccess trivial
  obtain ⟨manager, hmanager, hmanager'⟩ :=
    hfile "004-controller.yaml" serves_controller hcontroller
  obtain ⟨switch, hswitch, hswitch'⟩ := renderFile_servesIf servesIf_openvswitch (by decide)
    (get?_installsOpenvswitch options config node controller) hopenvswitch
    (joinPath dir "005-ovs.yaml")
  obtain ⟨daemon, hdaemon, hdaemon'⟩ := hfile "006-sdn.yaml" serves_sdn hsdn
  refine ⟨space ++ access ++ rights, manager ++ switch ++ daemon, ?_, ?_, ?_⟩
  · simp [hspace', haccess', hrights', frontHeadings]
  · simp [hmanager', hswitch', hdaemon', backHeadings]
  rw [renderFiles_around hspace haccess hrights hmanager hswitch hdaemon, renderFile_config]

end Slots

end OverlayConfig
