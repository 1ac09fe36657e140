import OverlayConfig.Proofs.Manifest.Directory
import OverlayConfig.Proofs.Manifest.Images
import OverlayConfig.Proofs.Render.ConfigMaps
set_option autoImplicit false

namespace OverlayConfig

open Yaml TemplateDirectory

section Daemon

variable {l : Layout} {name : String} {heading : Heading} {source cs : List Char}
  {fill : List Char → List Char} {options : RenderOptions} {config : SdnConfig} {node : NodeConfig}
  {controller : ControllerConfig}

theorem of_showsImage (h : showsImage l name = true) :
    l.values? (slotNames.map String.toList) = some [(daemonOf l).toJson] ∧
      (daemonOf l).images = [some (.string name)] ∧
      Json.fieldsAvoid (slotNames.map String.toList) ((daemonOf l).withImage "").fields = true := by
  rw [showsImage] at h
  split at h
  · next fields hvalues =>
    have hdaemon : daemonOf l = ⟨fields⟩ := by rw [daemonOf, hvalues]
    rw [hdaemon, hvalues]
    simpa [Manifest.toJson] using h
  · cases h

theorem heading_daemonOf (h : showsImage l name = true)
    (hheading : l.hasHeadings (slotNames.map String.toList) [heading] = true) :
    (daemonOf l).heading = heading := by
  rw [Layout.hasHeadings, (of_showsImage h).1] at hheading
  simp only [Bool.and_eq_true, decide_eq_true_eq] at hheading
  exact Option.some.inj (List.cons.inj hheading.1.1).1

theorem images_daemonOf (h : showsImage l name = true) (image : String) :
    ((daemonOf l).withImage image).images = [some (.string image)] := by
  obtain ⟨-, himages, -⟩ := of_showsImage h
  rw [Manifest.images_withImage (by simp [himages]), himages]
  rfl

/-- A text with the tokens of the template is read as the daemon with the image that the tokens
have. -/
theorem parseDocuments_daemon (h : showsImage l name = true)
    (hfill : ∀ text, text ∉ slotNames.map String.toList → fill text = text)
    (htrim : Text.trim cs ≠ [])
    (htokens : ∀ ts, l.scan (slotNames.map String.toList) (-1) [] 0 = some ts →
      tokens cs = (ts.map (Token.retext fill), none)) (path : String) :
    parseDocuments path cs =
      .ok [(daemonOf l).withImage (String.ofList (fill name.toList))] := by
  obtain ⟨hvalues, himages, havoids⟩ := of_showsImage h
  have hname : (daemonOf l).withImage name = daemonOf l :=
    Manifest.withImage_of_images (by simp [himages])
  have hobject : (daemonOf l).toJson.retext fill =
      ((daemonOf l).withImage (String.ofList (fill name.toList))).toJson :=
    congrArg Manifest.toJson (Manifest.retext_of_image hfill hname havoids)
  have hread : values cs =
      ([(daemonOf l).withImage (String.ofList (fill name.toList))].map Manifest.toJson, false) := by
    rw [Layout.values_of_tokens hfill hvalues htokens, List.map_singleton, hobject,
      List.map_singleton]
  exact parseDocuments_of_values htrim hread path

theorem parseDocuments_layout (h : showsImage l name = true)
    (hheading : l.hasHeadings (slotNames.map String.toList) [heading] = true)
    (hfits : l.Fits (slotText options node controller)) {image : String}
    (hget : (slotTexts options node controller).get? name = some image.toList) (path : String) :
    parseDocuments path (l.render (slotText options node controller)) =
      .ok [(daemonOf l).withImage image] := by
  have hslot : slotText options node controller name.toList = image.toList := by
    rw [slotText_toList, hget]
    rfl
  have hread := parseDocuments_daemon h (fun _ => slotText_of_not_mem)
    (Layout.trim_render hheading _)
    (fun _ hts => Layout.tokens_render (fun _ => slotText_of_not_mem) hfits hts) path
  rwa [hslot, String.ofList_toList] at hread

end Daemon

theorem hasHeadings_controller : controllerLayout.hasHeadings (slotNames.map String.toList)
    [daemonHeading "sdn-controller"] = true := by
  have h := serves_controller
  simp only [serves, Bool.and_eq_true] at h
  exact h.2

theorem hasHeadings_openvswitch : openvswitchLayout.hasHeadings (slotNames.map String.toList)
    [daemonHeading "ovs"] = true := by
  have h := servesIf_openvswitch
  simp only [servesIf, Bool.and_eq_true] at h
  exact h.2

theorem hasHeadings_sdn : sdnLayout.hasHeadings (slotNames.map String.toList)
    [daemonHeading "sdn"] = true := by
  have h := serves_sdn
  simp only [serves, Bool.and_eq_true] at h
  exact h.2

end OverlayConfig
