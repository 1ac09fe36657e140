import OverlayConfig.Proofs.Manifest.Images
import OverlayConfig.Proofs.Render.Documents
import OverlayConfig.ShippedTemplates
set_option autoImplicit false

namespace OverlayConfig

open Yaml

def slotNames : List String :=
  ["controller_config", "controller_image", "node_config", "node_image"]

/-- Lines without the last line break, which a template loses. -/
def joinedLines (lines : List String) : List Char := (textOfLines lines).dropLast

/-- The text of lines up to a key at the start of a further line. -/
def linesBefore (lines : List String) (key : String) : List Char := textOfLines lines ++ key.toList

def namespaceLayout : Layout := .text (joinedLines namespaceTemplate)

def sdnAccessLayout : Layout := .text (joinedLines sdnAccessTemplate)

def controllerAccessLayout : Layout := .text (joinedLines controllerAccessTemplate)

def configLayout : Layout :=
  .line (linesBefore (configTemplate.take 6) "  sdn-config.yaml:") "node_config".toList
    (.lastLine (linesBefore ((configTemplate.take 15).drop 8) "  controller-config.yaml:")
      "controller_config".toList)

def controllerLayout : Layout :=
  .image (linesBefore (controllerTemplate.take 34) "        ") "controller_image".toList
    (.text (joinedLines (controllerTemplate.drop 35)))

def openvswitchLayout : Layout :=
  .image ('\n' :: linesBefore ((openvswitchTemplate.take 31).drop 1) "        ") "node_image".toList
    (.text (textOfLines (openvswitchTemplate.drop 32).dropLast))

def sdnLayout : Layout :=
  .image (linesBefore (sdnTemplate.take 30) "        ") "node_image".toList
    (.text (joinedLines (sdnTemplate.drop 31)))

def rbacVersion : String := "rbac.authorization.k8s.io/v1"

def accessHeadings (role account : String) : List Heading :=
  [⟨rbacVersion, ⟨"ClusterRole", "", role⟩⟩, ⟨"v1", ⟨"ServiceAccount", "openshift-sdn", account⟩⟩,
    ⟨rbacVersion, ⟨"ClusterRoleBinding", "", role⟩⟩]

def namespaceHeading : Heading := ⟨"v1", ⟨"Namespace", "", "openshift-sdn"⟩⟩

def configHeading (name : String) : Heading := ⟨"v1", ⟨"ConfigMap", "openshift-sdn", name⟩⟩

def daemonHeading (name : String) : Heading := ⟨"apps/v1", ⟨"DaemonSet", "openshift-sdn", name⟩⟩

/-- The tokens of a template are those of a text with slots, whose objects have these headings. -/
def serves (source : List Char) (l : Layout) (hs : List Heading) : Bool :=
  Template.tokens source = (l.outputs []).tokens
    && (l.outputs []).slots.all (fun p => slotNames.contains p.2)
    && l.hasHeadings (slotNames.map String.toList) hs

def servesIf (test : String) (source : List Char) (l : Layout) (hs : List Heading) : Bool :=
  Template.tokens source = (l.outputs []).tokensIf test
    && (l.outputs []).slots.all (fun p => slotNames.contains p.2)
    && l.hasHeadings (slotNames.map String.toList) hs

/-- The object that a template is read as, with the name of its slot as the image. -/
def daemonOf (l : Layout) : Manifest :=
  match l.values? (slotNames.map String.toList) with
  | some [.object fields] => ⟨fields⟩
  | _ => ⟨[]⟩

/-- A template with one object, whose only container has the slot as its image; nothing else in the
object is a slot. -/
def showsImage (l : Layout) (name : String) : Bool :=
  match l.values? (slotNames.map String.toList) with
  | some [.object fields] =>
    let object : Manifest := ⟨fields⟩
    object.images = [some (.string name)]
      && Json.fieldsAvoid (slotNames.map String.toList) (object.withImage "").fields
  | _ => false

/-- Literals are checked as lists of characters, which is faster than to unpack them. -/
theorem toList_of_eq {s : String} {cs : List Char} (h : String.ofList cs = s) : s.toList = cs := by
  subst h
  exact String.toList_ofList

theorem serves_namespace :
    serves (textOfLines namespaceTemplate) namespaceLayout [namespaceHeading] = true := by
  simp (disch := rfl) only [namespaceLayout, joinedLines, textOfLines, namespaceTemplate,
    List.flatMap_cons, List.flatMap_nil, toList_of_eq]
  decide +kernel

theorem serves_sdnAccess :
    serves (textOfLines sdnAccessTemplate) sdnAccessLayout
      (accessHeadings "openshift-sdn" "sdn") = true := by
  simp (disch := rfl) only [sdnAccessLayout, joinedLines, textOfLines, sdnAccessTemplate,
    List.flatMap_cons, List.flatMap_nil, toList_of_eq]
  decide +kernel

theorem serves_controllerAccess :
    serves (textOfLines controllerAccessTemplate) controllerAccessLayout
      (accessHeadings "openshift-sdn-controller" "sdn-controller") = true := by
  simp (disch := rfl) only [controllerAccessLayout, joinedLines, textOfLines,
    controllerAccessTemplate, List.flatMap_cons, List.flatMap_nil, toList_of_eq]
  decide +kernel

theorem serves_config :
    serves (textOfLines configTemplate) configLayout
      [configHeading "sdn-config", configHeading "sdn-controller-config"] = true := by
  simp (disch := rfl) only [configLayout, linesBefore, textOfLines, configTemplate, List.take,
    List.drop, List.flatMap_cons, List.flatMap_nil, toList_of_eq]
  decide +kernel

set_option maxRecDepth 1000 in
theorem shows_controller :
    (serves (textOfLines controllerTemplate) controllerLayout [daemonHeading "sdn-controller"]
      && showsImage controllerLayout "controller_image") = true := by
  simp (disch := rfl) only [controllerLayout, linesBefore, joinedLines, textOfLines,
    controllerTemplate, List.take, List.drop, List.flatMap_cons, List.flatMap_nil, toList_of_eq]
  decide +kernel

set_option maxRecDepth 1000 in
theorem shows_openvswitch :
    (servesIf "install_ovs" (textOfLines openvswitchTemplate) openvswitchLayout
        [daemonHeading "ovs"]
      && showsImage openvswitchLayout "node_image") = true := by
  simp (disch := rfl) only [openvswitchLayout, linesBefore, textOfLines, openvswitchTemplate,
    List.take, List.drop, List.dropLast, List.flatMap_cons, List.flatMap_nil, toList_of_eq]
  decide +kernel

theorem shows_sdn :
    (serves (textOfLines sdnTemplate) sdnLayout [daemonHeading "sdn"]
      && showsImage sdnLayout "node_image") = true := by
  simp (disch := rfl) only [sdnLayout, linesBefore, joinedLines, textOfLines, sdnTemplate,
    List.take, List.drop, List.flatMap_cons, List.flatMap_nil, toList_of_eq]
  decide +kernel

theorem serves_controller :
    serves (textOfLines controllerTemplate) controllerLayout
      [daemonHeading "sdn-controller"] = true :=
  (Bool.and_eq_true_iff.mp shows_controller).1

theorem servesIf_openvswitch :
    servesIf "install_ovs" (textOfLines openvswitchTemplate) openvswitchLayout
      [daemonHeading "ovs"] = true :=
  (Bool.and_eq_true_iff.mp shows_openvswitch).1

theorem serves_sdn :
    serves (textOfLines sdnTemplate) sdnLayout [daemonHeading "sdn"] = true :=
  (Bool.and_eq_true_iff.mp shows_sdn).1

theorem showsImage_controller : showsImage controllerLayout "controller_image" = true :=
  (Bool.and_eq_true_iff.mp shows_controller).2

theorem showsImage_openvswitch : showsImage openvswitchLayout "node_image" = true :=
  (Bool.and_eq_true_iff.mp shows_openvswitch).2

theorem showsImage_sdn : showsImage sdnLayout "node_image" = true :=
  (Bool.and_eq_true_iff.mp shows_sdn).2

end OverlayConfig
