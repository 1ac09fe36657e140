import Mathlib.Data.List.Nodup
import OverlayConfig.Proofs.Documents
import OverlayConfig.Proofs.Manifest.Checks
import OverlayConfig.Proofs.Render.Identities
/-!
The two documents as they are found in the rendered objects. Where no text of the network has a line
break that JSON does not escape, whatever is rendered carries both documents to the letter, with any
images; and with one of these line breaks it may carry others.
-/
set_option autoImplicit false

namespace OverlayConfig

open Yaml TemplateDirectory

/-- A configuration map of the overlay with one document under a key. -/
def configMap (name key : String) (document : List Char) : Manifest where
  fields := [("apiVersion", .string "v1"),
    ("data", .object [(key, .string (String.ofList document))]), ("kind", .string "ConfigMap"),
    ("metadata", .object [("name", .string name), ("namespace", .string "openshift-sdn")])]

def configMaps (node controller : List Char) : List Manifest :=
  [configMap "sdn-config" "sdn-config.yaml" node,
    configMap "sdn-controller-config" "controller-config.yaml" controller]

theorem id_configMap (name key : String) (document : List Char) :
    (configMap name key document).id = ⟨"ConfigMap", "openshift-sdn", name⟩ := by
  simp [configMap, Manifest.id, Manifest.kind, Manifest.namespaceName, Manifest.name,
    Manifest.text?, Manifest.get?, Fields.lookup, Fields.get?, Json.fields?, Json.text?]

theorem apiVersion_configMap (name key : String) (document : List Char) :
    (configMap name key document).apiVersion = "v1" := by
  simp [configMap, Manifest.apiVersion, Manifest.text?, Manifest.get?, Fields.lookup, Fields.get?,
    Json.text?]

theorem get?_configMap (name key : String) (document : List Char) :
    (configMap name key document).get? ["data", key] =
      some (.string (String.ofList document)) := by
  simp [configMap, Manifest.get?, Fields.lookup, Fields.get?, Json.fields?]

theorem values_configLayout : configLayout.values? (slotNames.map String.toList) =
    some ((configMaps "node_config".toList "controller_config".toList).map Manifest.toJson) := by
  simp (disch := rfl) only [configLayout, linesBefore, textOfLines, configTemplate, List.take,
    List.drop, List.flatMap_cons, List.flatMap_nil, toList_of_eq]
  decide +kernel

section Fill

variable {fill : List Char → List Char}

theorem retext_configMap {name key : String} {slot : List Char}
    (hsame : ∀ s ∈ ["v1", "ConfigMap", name, "openshift-sdn"], fill s.toList = s.toList) :
    (configMap name key slot).toJson.retext fill = (configMap name key (fill slot)).toJson := by
  simp only [List.forall_mem_cons] at hsame
  obtain ⟨hversion, hkind, hname, hspace, -⟩ := hsame
  simp only [configMap, Manifest.toJson, Json.retext, Json.retextFields, hversion, hkind, hname,
    hspace, String.ofList_toList, String.toList_ofList]

theorem retext_configMaps
    (hfill : ∀ text, text ∉ slotNames.map String.toList → fill text = text)
    (node controller : List Char) :
    ((configMaps node controller).map Manifest.toJson).map (Json.retext fill) =
      (configMaps (fill node) (fill controller)).map Manifest.toJson := by
  have hsame {names : List String} (h : (names.all fun s => !slotNames.contains s) = true) :
      ∀ s ∈ names, fill s.toList = s.toList := by
    intro s hs
    have hslot : s ∉ slotNames := by simpa using List.all_eq_true.mp h s hs
    refine hfill _ fun hmem => hslot ?_
    obtain ⟨t, ht, heq⟩ := List.mem_map.mp hmem
    rwa [← String.toList_inj.mp heq]
  simp only [configMaps, List.map_cons, List.map_nil]
  rw [retext_configMap (hsame (by decide)), retext_configMap (hsame (by decide))]

end Fill

theorem objectsOf_toJson (path : String) (objects : List Manifest) :
    objectsOf path (objects.map Manifest.toJson) = .ok objects := by
  induction objects with
  | nil => rfl
  | cons object rest ih =>
    rw [List.map_cons, objectsOf, if_neg (by simp [Manifest.toJson]), ih]
    rfl

theorem parseDocuments_of_values {cs : List Char} {objects : List Manifest}
    (htrim : Text.trim cs ≠ []) (h : values cs = (objects.map Manifest.toJson, false))
    (path : String) : parseDocuments path cs = .ok objects := by
  have hempty : ¬(Text.trim cs).isEmpty = true := fun hempty =>
    htrim (List.isEmpty_iff.mp hempty)
  rw [parseDocuments, if_neg hempty, h]
  simp only [objectsOf_toJson]
  rfl

theorem parseDocuments_configLayout {options : RenderOptions} {node : NodeConfig}
    {controller : ControllerConfig} (hnode : node.toJson.FitsLine)
    (hcontroller : controller.toJson.FitsLine) (path : String) :
    parseDocuments path (configLayout.render (slotText options node controller)) =
      .ok (configMaps node.text controller.text) := by
  have hfits : configLayout.Fits (slotText options node controller) :=
    fits_configLayout hnode hcontroller
  have hvalues := Layout.values_render (fun _ => slotText_of_not_mem) hfits values_configLayout
  rw [retext_configMaps (fun _ => slotText_of_not_mem), slotText_nodeConfig,
    slotText_controllerConfig] at hvalues
  exact parseDocuments_of_values (trim_render_configLayout _) hvalues path

section Network

variable {spec : NetworkSpec} {previous : Option NetworkSpec} {hostMtu : UInt32}
  {options : RenderOptions} {files : Files} {objects : List Manifest}

/-- Of the objects just one has an identity, and it has a document under a key of its data. -/
def Carries (objects : List Manifest) (id : ObjectId) (key : String) (document : List Char) :
    Prop :=
  ∃ object ∈ objects, object.id = id ∧
    object.get? ["data", key] = some (.string (String.ofList document)) ∧
    ∀ other ∈ objects, other.id = id → other = object

theorem carries_of_check {rendered : List Manifest} {object : Manifest} {key : String}
    {document : List Char} (hcheck : ManifestSet.check rendered = .ok objects)
    (hmem : object ∈ rendered)
    (hdata : object.get? ["data", key] = some (.string (String.ofList document))) :
    Carries objects object.id key document := by
  obtain ⟨rfl, -, -, hnodup, -⟩ := ManifestSet.check_eq_ok.mp hcheck
  have hobject := ManifestSet.mem_namespacesFirst.mpr hmem
  exact ⟨object, hobject, rfl, hdata, fun other hother heq =>
    List.inj_on_of_nodup_map hnodup hother hobject heq⟩

/-- The documents of a network stand in their configuration maps, and they can be read. -/
def NetworkSpec.CarriesDocuments (spec : NetworkSpec) (objects : List Manifest) : Prop :=
  ∃ node controller nodeValue controllerValue,
    NodeConfig.ofSpec spec = .ok node ∧ ControllerConfig.ofSpec spec = .ok controller ∧
    Carries objects ⟨"ConfigMap", "openshift-sdn", "sdn-config"⟩ "sdn-config.yaml" node.text ∧
    Carries objects ⟨"ConfigMap", "openshift-sdn", "sdn-controller-config"⟩
      "controller-config.yaml" controller.text ∧
    Json.read? node.text = some nodeValue ∧ node.IsReadAs nodeValue ∧
    Json.read? controller.text = some controllerValue ∧ controller.IsReadAs controllerValue

/-- Embeddable texts are carried to the letter, and both documents read back as they were made. -/
theorem carriesDocuments_of_allEmbeddable
    (hfiles : files.find options.templateDir = .ok shippedTemplates)
    (hvalid : (spec.withDefaults previous hostMtu).errors = [])
    (hfree : AllEmbeddable spec.freeTexts)
    (hrender : (spec.withDefaults previous hostMtu).render options files = .ok objects) :
    (spec.withDefaults previous hostMtu).CarriesDocuments objects := by
  obtain ⟨config, node, controller, hs, hn, hc, hcontroller, hnode, -⟩ := documents_of_errors hvalid
  obtain ⟨part, rendered, hparse, hsub, hcheck⟩ := parseDocuments_of_render hfiles hs hn hc hrender
  obtain rfl : part = configMaps node.text controller.text :=
    Except.ok.inj (hparse.symm.trans (parseDocuments_configLayout (hnode hfree) hcontroller _))
  have hcarries {name key : String} {document : List Char}
      (hmem : configMap name key document ∈ configMaps node.text controller.text) :
      Carries objects ⟨"ConfigMap", "openshift-sdn", name⟩ key document :=
    id_configMap name key document ▸ carries_of_check hcheck (hsub hmem) (get?_configMap _ _ _)
  obtain ⟨nodeValue, hnodeValue, hnodeRead⟩ := node.read?_text
  obtain ⟨controllerValue, hcontrollerValue, hcontrollerRead⟩ := controller.read?_text
  exact ⟨node, controller, nodeValue, controllerValue, hn, hc, hcarries (.head _),
    hcarries (.tail _ (.head _)), hnodeValue, hnodeRead, hcontrollerValue, hcontrollerRead⟩

/-- With any images, what is rendered for a network without findings and without wide line breaks
carries its two documents to the letter, and they read back as they were made. -/
theorem render_documents (hfiles : files.find options.templateDir = .ok shippedTemplates)
    (hvalid : (spec.withDefaults previous hostMtu).errors = [])
    (hnarrow : ∀ text ∈ spec.freeTexts, ∀ c ∈ text.toList, c ∉ wideBreaks)
    (hrender : (spec.withDefaults previous hostMtu).render options files = .ok objects) :
    (spec.withDefaults previous hostMtu).CarriesDocuments objects := by
  have hfree : AllEmbeddable spec.freeTexts := allEmbeddable_of_render hfiles hvalid hnarrow hrender
  exact carriesDocuments_of_allEmbeddable hfiles hvalid hfree hrender

end Network

theorem render_documents_bare :
    ∃ objects, ((bareNetwork "30s").withDefaults none 1500).render bareOptions bareFiles =
      .ok objects ∧ ((bareNetwork "30s").withDefaults none 1500).CarriesDocuments objects := by
  have hnarrow : ∀ text ∈ (bareNetwork "30s").freeTexts, ∀ c ∈ text.toList, c ∉ wideBreaks := by
    simp [NetworkSpec.freeTexts, bareNetwork, ProxyConfig.texts, wideBreaks]
  obtain ⟨objects, hrender, -⟩ := render_of_allEmbeddable find_bareFiles hasPlainImages_bareOptions
    (errors_bareNetwork "30s") (allEmbeddable_of_all (by decide))
  exact ⟨objects, hrender,
    render_documents find_bareFiles (errors_bareNetwork "30s") hnarrow hrender⟩

section Broken

/-- A text that breaks its line and goes on with as many blanks as the document is indented by. -/
def brokenText (c : Char) : String := String.ofList [c, ' ', ' ', ' ', ' ']

/-- The document that is read in the place of the one with that text: the blanks are gone, and the
next line is a line feed. -/
def brokenDocument (c : Char) : List Char :=
  (bareNode (String.ofList [c])).text.map fun d => if d = '\u0085' then '\n' else d

def brokenSlot (c : Char) (name : List Char) : List Char :=
  if name = "node_config".toList then brokenDocument c
  else if name = "controller_config".toList then bareController.text
  else name

theorem tokens_brokenText : (wideBreaks.all fun c =>
    ((configLayout.scan (slotNames.map String.toList) (-1) [] 0).map fun ts =>
      (ts.map (Token.retext (brokenSlot c)), none)) =
        some (tokens (bareConfig (brokenText c)))) = true := by
  decide +kernel

theorem parseDocuments_brokenText {c : Char} (hc : c ∈ wideBreaks) (path : String) :
    parseDocuments path (bareConfig (brokenText c)) =
      .ok (configMaps (brokenDocument c) bareController.text) := by
  have hfill : ∀ text, text ∉ slotNames.map String.toList → brokenSlot c text = text := by
    intro text htext
    have hnode : text ≠ "node_config".toList := by
      rintro rfl
      exact htext (by decide)
    have hcontroller : text ≠ "controller_config".toList := by
      rintro rfl
      exact htext (by decide)
    rw [brokenSlot, if_neg hnode, if_neg hcontroller]
  have htokens := of_decide_eq_true (List.all_eq_true.mp tokens_brokenText c hc)
  have hvalues := Layout.values_of_tokens hfill values_configLayout fun ts hts => by
    rw [hts] at htokens
    exact (Option.some.inj htokens).symm
  rw [retext_configMaps hfill] at hvalues
  exact parseDocuments_of_values (trim_render_configLayout _) hvalues path

theorem brokenDocument_ne :
    (wideBreaks.all fun c => brokenDocument c ≠ (bareNode (brokenText c)).text) = true := by
  decide +kernel

theorem render_brokenText {c : Char} (hc : c ∈ wideBreaks) :
    ∃ objects, ((bareNetwork (brokenText c)).withDefaults none 1500).render bareOptions bareFiles =
        .ok objects ∧
      Carries objects ⟨"ConfigMap", "openshift-sdn", "sdn-config"⟩ "sdn-config.yaml"
        (brokenDocument c) ∧
      brokenDocument c ≠ (bareNode (brokenText c)).text := by
  obtain ⟨front, back, hfront, hback, hrender⟩ := render_bareNetwork (brokenText c)
  have hids : (configMaps (brokenDocument c) bareController.text).map Manifest.id = configIds := by
    simp [configMaps, id_configMap, configIds]
  have hversions : ∀ o ∈ configMaps (brokenDocument c) bareController.text, o.apiVersion ≠ "" := by
    simp [configMaps, apiVersion_configMap]
  obtain ⟨hcheck, -⟩ := check_of_configIds hfront hback hids hversions
  have hmem : configMap "sdn-config" "sdn-config.yaml" (brokenDocument c) ∈
      front ++ configMaps (brokenDocument c) bareController.text ++ back :=
    List.mem_append_left _ (List.mem_append_right _ (.head _))
  rw [parseDocuments_brokenText hc] at hrender
  refine ⟨_, hrender.trans hcheck, ?_, ?_⟩
  · exact id_configMap _ _ _ ▸ carries_of_check hcheck hmem (get?_configMap _ _ _)
  · exact of_decide_eq_true (List.all_eq_true.mp brokenDocument_ne c hc)

theorem Carries.document_eq {objects : List Manifest} {id : ObjectId} {key : String}
    {document other : List Char} (h : Carries objects id key document)
    (hother : Carries objects id key other) : document = other := by
  obtain ⟨a, ha, hid, hdata, -⟩ := h
  obtain ⟨b, hb, -, hdata', hunique⟩ := hother
  rw [hunique a ha hid, hdata'] at hdata
  simpa [String.ofList_inj] using hdata.symm

/-- Without findings and without any error, a network can lose a part of its document. -/
theorem render_lineSeparator :
    bareFiles.find bareOptions.templateDir = .ok shippedTemplates ∧
    ((bareNetwork (brokenText '\u2028')).withDefaults none 1500).errors = [] ∧
    ∃ objects node document,
      ((bareNetwork (brokenText '\u2028')).withDefaults none 1500).render bareOptions bareFiles =
        .ok objects ∧
      NodeConfig.ofSpec ((bareNetwork (brokenText '\u2028')).withDefaults none 1500) = .ok node ∧
      Carries objects ⟨"ConfigMap", "openshift-sdn", "sdn-config"⟩ "sdn-config.yaml" document ∧
      document ≠ node.text := by
  obtain ⟨objects, hrender, hcarries, hne⟩ := render_brokenText (by decide : '\u2028' ∈ wideBreaks)
  exact ⟨find_bareFiles, errors_bareNetwork _, objects, _, _, hrender, nodeConfig_bareNetwork _,
    hcarries, hne⟩

end Broken

/-- The wide line breaks are all that texts have to be free of, if they may have blanks, for every
network that is rendered to carry its documents. -/
theorem carries_forall_iff {p : Char → Prop} (hblank : p ' ') :
    (∀ (spec : NetworkSpec) (previous : Option NetworkSpec) (hostMtu : UInt32)
      (options : RenderOptions) (files : Files) (objects : List Manifest),
      files.find options.templateDir = .ok shippedTemplates →
      (spec.withDefaults previous hostMtu).errors = [] →
      (spec.withDefaults previous hostMtu).render options files = .ok objects →
      (∀ text ∈ spec.freeTexts, ∀ c ∈ text.toList, p c) →
      (spec.withDefaults previous hostMtu).CarriesDocuments objects) ↔
    ∀ c, p c → c ∉ wideBreaks := by
  constructor
  · intro h c hpc hc
    obtain ⟨objects, hrender, hbroken, hne⟩ := render_brokenText hc
    have htexts : ∀ text ∈ (bareNetwork (brokenText c)).freeTexts, ∀ d ∈ text.toList, p d := by
      change ∀ text ∈ ["", brokenText c], ∀ d ∈ text.toList, p d
      simpa [brokenText] using ⟨hpc, hblank⟩
    obtain ⟨node, controller, -, -, hnode, -, hcarries, -⟩ :=
      h _ none 1500 _ _ objects find_bareFiles (errors_bareNetwork _) hrender htexts
    obtain rfl : bareNode (brokenText c) = node :=
      Except.ok.inj ((nodeConfig_bareNetwork _).symm.trans hnode)
    exact hne (hbroken.document_eq hcarries)
  · intro h spec previous hostMtu options files objects hfiles hvalid hrender htexts
    have hnarrow : ∀ text ∈ spec.freeTexts, ∀ c ∈ text.toList, c ∉ wideBreaks :=
      fun text htext c hc => h c (htexts text htext c hc)
    exact carriesDocuments_of_allEmbeddable hfiles hvalid
      (allEmbeddable_of_render hfiles hvalid hnarrow hrender) hrender

end OverlayConfig
