import OverlayConfig.Proofs.Manifest.Checks
set_option autoImplicit false

namespace OverlayConfig

structure Heading where
  apiVersion : String
  id : ObjectId
  deriving DecidableEq, Repr

namespace Heading

def isNamespace (h : Heading) : Bool := h.id.kind = "Namespace"

/-- The heading of a complete object that is no deployment, which are looked into. -/
def isPlain (h : Heading) : Bool :=
  h.apiVersion ≠ "" && h.id.kind ≠ "" && h.id.name ≠ "" && h.id.kind ≠ "Deployment"

/-- The headings of a set that is accepted as it stands: one namespace in front, and after it plain
objects that all differ. -/
def areInOrder : List Heading → Bool
  | [] => false
  | first :: rest =>
    first.isNamespace && rest.all (!·.isNamespace) && (first :: rest).all isPlain
      && ((first :: rest).map id).Nodup

theorem areInOrder_of_ids {hs others : List Heading} (hids : hs.map id = others.map id)
    (hversions : ∀ h ∈ hs, h.apiVersion ≠ "") (hothers : areInOrder others = true) :
    areInOrder hs = true := by
  have hspace (l : List Heading) :
      (l.all fun h => !h.isNamespace) = (l.map id).all fun i => !decide (i.kind = "Namespace") := by
    rw [List.all_map]
    rfl
  have hplain (l : List Heading) : l.all isPlain = ((l.all fun h => h.apiVersion ≠ "") &&
      (l.map id).all fun i => i.kind ≠ "" && i.name ≠ "" && i.kind ≠ "Deployment") := by
    rw [List.all_map, Bool.eq_iff_iff]
    simp only [isPlain, List.all_eq_true, Bool.and_eq_true, Function.comp_apply, and_assoc,
      forall_and]
  cases hs with
  | nil =>
    obtain rfl : others = [] := List.map_eq_nil_iff.mp hids.symm
    cases hothers
  | cons first rest =>
    cases others with
    | nil => cases hothers
    | cons other more =>
      have hhead : first.id = other.id := (List.cons.inj hids).1
      have htail : rest.map id = more.map id := (List.cons.inj hids).2
      have hnamed : ((first :: rest).all fun h => decide (h.apiVersion ≠ "")) = true :=
        List.all_eq_true.mpr fun h hh => decide_eq_true (hversions h hh)
      simp only [areInOrder, hspace, hplain, Bool.and_eq_true] at hothers ⊢
      rw [hids, htail, isNamespace, hhead]
      exact ⟨⟨hothers.1.1, hnamed, hothers.1.2.2⟩, hothers.2⟩

end Heading

namespace Manifest

def heading (object : Manifest) : Heading := ⟨object.apiVersion, object.id⟩

theorem isNamespace_heading (object : Manifest) : object.heading.isNamespace = object.isNamespace :=
  rfl

end Manifest

namespace ManifestSet

theorem checkObjects_of_isPlain {seen : List ObjectId} {objects : List Manifest}
    (hplain : ∀ o ∈ objects, o.heading.isPlain = true) (hnodup : (objects.map Manifest.id).Nodup)
    (hseen : ∀ o ∈ objects, o.id ∉ seen) : checkObjects seen objects = .ok () := by
  have hparts (o : Manifest) (ho : o ∈ objects) :
      o.isComplete = true ∧ o.kind ≠ "Deployment" := by
    have hheading := hplain o ho
    simp only [Heading.isPlain, Bool.and_eq_true, decide_eq_true_eq] at hheading
    obtain ⟨⟨⟨hversion, hkind⟩, hname⟩, hdeployment⟩ := hheading
    exact ⟨Manifest.isComplete_iff.mpr ⟨hversion, hkind, hname⟩, hdeployment⟩
  exact checkObjects_eq_ok.mpr ⟨fun o ho => (hparts o ho).1, hnodup, hseen,
    fun o ho hkind => absurd hkind (hparts o ho).2⟩

theorem namespacesFirst_cons {first : Manifest} {rest : List Manifest}
    (hfirst : first.isNamespace = true) (hrest : ∀ o ∈ rest, o.isNamespace = false) :
    namespacesFirst (first :: rest) = first :: rest := by
  refine List.mergeSort_of_pairwise (List.pairwise_cons.mpr ⟨fun o _ => by simp [hfirst], ?_⟩)
  exact List.pairwise_of_forall_mem_list fun a _ b hb => by simp [hrest b hb]

theorem check_of_areInOrder {objects : List Manifest}
    (h : Heading.areInOrder (objects.map Manifest.heading) = true) :
    check objects = .ok objects := by
  cases objects with
  | nil => cases h
  | cons first rest =>
    simp only [List.map_cons, Heading.areInOrder, Bool.and_eq_true, decide_eq_true_eq] at h
    obtain ⟨⟨⟨hfirst, hrest⟩, hplain⟩, hnodup⟩ := h
    have horder : namespacesFirst (first :: rest) = first :: rest := by
      refine namespacesFirst_cons hfirst fun o ho => ?_
      have hother := List.all_eq_true.mp hrest o.heading (List.mem_map_of_mem ho)
      simpa [Manifest.isNamespace_heading] using hother
    have hall : ∀ o ∈ first :: rest, o.heading.isPlain = true := fun o ho =>
      List.all_eq_true.mp hplain o.heading (List.mem_map_of_mem (f := Manifest.heading) ho)
    have hids : ((first :: rest).map Manifest.id).Nodup := by
      simpa [Manifest.heading, Function.comp_def] using hnodup
    have hchecked : checkObjects [] (first :: rest) = .ok () :=
      checkObjects_of_isPlain hall hids fun _ _ => List.not_mem_nil
    have hany : (first :: rest).any Manifest.isNamespace = true := by
      rw [List.any_cons, ← Manifest.isNamespace_heading, hfirst, Bool.true_or]
    rw [check_eq, horder, hany, hchecked]
    rfl

theorem namespacesFirst_eq_self {first : Manifest} {rest : List Manifest}
    (hfirst : first.isNamespace = true)
    (h : ∀ i ∈ ((namespacesFirst (first :: rest)).map Manifest.id).tail, i.kind ≠ "Namespace") :
    namespacesFirst (first :: rest) = first :: rest := by
  refine namespacesFirst_cons hfirst fun o ho => Bool.eq_false_iff.mpr fun hspace => ?_
  have hmem : o.id ∈ ((namespacesFirst (first :: rest)).map Manifest.id).tail := by
    simp only [namespacesFirst_eq, List.filter_cons_of_pos hfirst, List.cons_append, List.map_cons,
      List.tail_cons]
    exact List.mem_map_of_mem (List.mem_append_left _ (List.mem_filter.mpr ⟨ho, hspace⟩))
  exact h o.id hmem (of_decide_eq_true hspace)

end ManifestSet

end OverlayConfig
