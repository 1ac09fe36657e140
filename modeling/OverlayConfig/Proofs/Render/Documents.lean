import OverlayConfig.Manifest.Set
import OverlayConfig.Proofs.Manifest.Headings
import OverlayConfig.Proofs.Template.Outputs
import OverlayConfig.Proofs.Yaml.Layout
set_option autoImplicit false

namespace OverlayConfig

def Heading.avoids (names : List (List Char)) (h : Heading) : Bool :=
  [h.apiVersion, h.id.kind, h.id.namespaceName, h.id.name].all fun s => !names.contains s.toList

def Json.heading? : Json → Option Heading
  | .object fields => some (Manifest.heading ⟨fields⟩)
  | _ => none

section Retext

variable {f : List Char → List Char} {names : List (List Char)}

theorem lookup_retextFields (path : KeyPath) (fields : Fields Json) :
    Fields.lookup path (Json.retextFields f fields) =
      (Fields.lookup path fields).map (Json.retext f) := by
  induction path generalizing fields with
  | nil => rfl
  | cons k rest ih =>
    have hget : Fields.get? k (Json.retextFields f fields) =
        (Fields.get? k fields).map (Json.retext f) := by
      rw [Yaml.retextFields_eq_map, Fields.get?_map]
    cases rest with
    | nil => exact hget
    | cons j rest =>
      simp only [Fields.lookup, hget]
      cases Fields.get? k fields with
      | none => rfl
      | some v =>
        cases v with
        | object inner => exact ih inner
        | _ => rfl

theorem text?_retextFields (path : KeyPath) (fields : Fields Json) :
    Manifest.text? path ⟨Json.retextFields f fields⟩ =
      (Manifest.text? path ⟨fields⟩).map fun s => String.ofList (f s.toList) := by
  simp only [Manifest.text?, Manifest.get?, lookup_retextFields]
  cases Fields.lookup path fields with
  | none => rfl
  | some v => cases v <;> rfl

theorem heading_retextFields (hf : ∀ text, text ∉ names → f text = text) {fields : Fields Json}
    (h : (Manifest.heading ⟨fields⟩).avoids names = true) :
    Manifest.heading ⟨Json.retextFields f fields⟩ = Manifest.heading ⟨fields⟩ := by
  have hsame {path : KeyPath}
      (hpath : ((Manifest.text? path ⟨fields⟩).getD "").toList ∉ names) :
      (Manifest.text? path ⟨Json.retextFields f fields⟩).getD "" =
        (Manifest.text? path ⟨fields⟩).getD "" := by
    rw [text?_retextFields]
    cases htext : Manifest.text? path ⟨fields⟩ with
    | none => rfl
    | some s =>
      rw [htext] at hpath
      exact (congrArg String.ofList (hf s.toList hpath)).trans String.ofList_toList
  simp only [Heading.avoids, List.all_cons, List.all_nil, Bool.and_true, Bool.and_eq_true,
    Bool.not_eq_true', ← Bool.not_eq_true, List.contains_iff_mem] at h
  obtain ⟨hversion, hkind, hspace, hname⟩ := h
  simp only [Manifest.heading, Manifest.id, Manifest.apiVersion, Manifest.kind,
    Manifest.namespaceName, Manifest.name] at *
  rw [hsame hversion, hsame hkind, hsame hspace, hsame hname]

theorem objectsOf_retext (hf : ∀ text, text ∉ names → f text = text) (path : String)
    {vs : List Json} {hs : List Heading} (h : vs.map Json.heading? = hs.map some)
    (havoids : ∀ h ∈ hs, h.avoids names = true) :
    ∃ objects, TemplateDirectory.objectsOf path (vs.map (Json.retext f)) = .ok objects ∧
      objects.map Manifest.heading = hs := by
  induction vs generalizing hs with
  | nil =>
    cases hs with
    | nil => exact ⟨[], rfl, rfl⟩
    | cons => cases h
  | cons v vs ih =>
    cases hs with
    | nil => cases h
    | cons first hs =>
      simp only [List.map_cons, List.cons.injEq] at h
      obtain ⟨hfirst, hrest⟩ := h
      obtain ⟨objects, hobjects, hheadings⟩ :=
        ih hrest fun h hh => havoids h (List.mem_cons_of_mem _ hh)
      cases v with
      | object fields =>
        cases hfirst
        have hsame := heading_retextFields hf (havoids _ List.mem_cons_self)
        refine ⟨⟨Json.retextFields f fields⟩ :: objects, ?_, ?_⟩
        · rw [List.map_cons, TemplateDirectory.objectsOf, if_neg (by simp [Json.retext]), hobjects]
          rfl
        · rw [List.map_cons, hsame, hheadings]
      | _ => cases hfirst

end Retext

theorem Text.trim_ne_nil {cs : List Char} {c : Char} (h : c ∈ cs) (hc : isBlank c = false) :
    trim cs ≠ [] := by
  have hkept {ds : List Char} (h : c ∈ ds) : c ∈ ds.dropWhile isBlank := by
    rw [← List.takeWhile_append_dropWhile (p := isBlank) (l := ds)] at h
    rcases List.mem_append.mp h with h | h
    · have hblank := List.all_eq_true.mp List.all_takeWhile c h
      rw [hc] at hblank
      cases hblank
    · exact h
  have hmem : c ∈ trim cs :=
    List.mem_reverse.mpr (hkept (List.mem_reverse.mpr (hkept h)))
  exact List.ne_nil_of_mem hmem

namespace Yaml.Layout

/-- The objects of the text with the names in its slots have these headings, every slot is one, and
no heading has a name in it. -/
def hasHeadings (names : List (List Char)) (hs : List Heading) (l : Layout) : Bool :=
  match l.values? names with
  | some vs => vs.map Json.heading? = hs.map some && hs.all (Heading.avoids names)
      && l.opening.any (!Text.isBlank ·)
  | none => false

variable {fill : List Char → List Char} {names : List (List Char)} {hs : List Heading} {l : Layout}

theorem mem_render_of_opening {c : Char} (h : c ∈ l.opening) : c ∈ l.render fill := by
  cases l <;> simp [opening] at h <;> simp [render, h]

theorem trim_render (h : l.hasHeadings names hs = true) (fill : List Char → List Char) :
    Text.trim (l.render fill) ≠ [] := by
  simp only [hasHeadings] at h
  split at h
  · simp only [Bool.and_eq_true, List.any_eq_true, Bool.not_eq_true'] at h
    obtain ⟨-, c, hc, hblank⟩ := h
    exact Text.trim_ne_nil (mem_render_of_opening hc) hblank
  · cases h

theorem parseDocuments_render (hfill : ∀ text, text ∉ names → fill text = text)
    (hfits : l.Fits fill) (h : l.hasHeadings names hs = true) (path : String) :
    ∃ objects, TemplateDirectory.parseDocuments path (l.render fill) = .ok objects ∧
      objects.map Manifest.heading = hs := by
  have htrim := trim_render h fill
  simp only [hasHeadings] at h
  split at h
  · next vs hvs =>
    simp only [Bool.and_eq_true, decide_eq_true_eq, List.all_eq_true] at h
    obtain ⟨⟨hheadings, havoids⟩, -⟩ := h
    obtain ⟨objects, hobjects, hmap⟩ := objectsOf_retext hfill path hheadings havoids
    refine ⟨objects, ?_, hmap⟩
    rw [TemplateDirectory.parseDocuments, if_neg (by simpa using htrim),
      values_render hfill hfits hvs]
    simp only [hobjects]
    rfl
  · cases h

/-- The names in the slots and the text around them, after a text that belongs in front. -/
def outputs (lead : List Char) : Layout → Template.Outputs
  | .text cs => ⟨[], lead ++ cs⟩
  | .line before name after =>
    ⟨(lead ++ before ++ lineOpening, String.ofList name) :: (after.outputs ['\n']).slots,
      (after.outputs ['\n']).last⟩
  | .lastLine before name => ⟨[(lead ++ before ++ lineOpening, String.ofList name)], []⟩
  | .image before name after =>
    ⟨(lead ++ before ++ imageOpening, String.ofList name) ::
      (after.outputs ['\x22', '\n']).slots, (after.outputs ['\x22', '\n']).last⟩

theorem text_outputs (fill : List Char → List Char) (l : Layout) (lead : List Char) :
    (l.outputs lead).text (fun s => fill s.toList) = lead ++ l.render fill := by
  induction l generalizing lead with
  | text cs => simp [outputs, render, Template.Outputs.text]
  | line before name after ih =>
    have hafter := ih ['\n']
    simp only [Template.Outputs.text] at hafter
    simp [outputs, render, Template.Outputs.text, hafter]
  | lastLine before name => simp [outputs, render, Template.Outputs.text]
  | image before name after ih =>
    have hafter := ih ['\x22', '\n']
    simp only [Template.Outputs.text] at hafter
    simp [outputs, render, Template.Outputs.text, hafter]

/-- The names in the slots are names of a template that the data have texts for. -/
def IsServed (fill : List Char → List Char) (data : Json) (l : Layout) : Prop :=
  ∀ p ∈ (l.outputs []).slots, Template.isName p.2 = true ∧
    Fields.get? p.2 (Template.dataFields data) = some (.text (fill p.2.toList))

variable {source : List Char} {data : Json}

theorem render_template (hserved : l.IsServed fill data)
    (htokens : Template.tokens source = (l.outputs []).tokens) :
    Template.render source data = .ok (l.render fill) := by
  have hrender : Template.render source data =
      .ok ((l.outputs []).text fun s => fill s.toList) :=
    Template.render_outputs (fun p hp => (hserved p hp).1) htokens fun p hp => (hserved p hp).2
  rwa [text_outputs, List.nil_append] at hrender

theorem render_templateIf {test : String} {holds : Bool} (hserved : l.IsServed fill data)
    (htest : Template.isName test = true)
    (hholds : Fields.get? test (Template.dataFields data) = some (.bool holds))
    (htokens : Template.tokens source = (l.outputs []).tokensIf test) :
    Template.render source data = .ok (if holds then l.render fill else []) := by
  have hrender : Template.render source data =
      .ok (if holds then (l.outputs []).text fun s => fill s.toList else []) :=
    Template.render_outputs_if (fun p hp => (hserved p hp).1) htest htokens hholds
      fun p hp => (hserved p hp).2
  rwa [text_outputs, List.nil_append] at hrender

end Yaml.Layout

end OverlayConfig
