import OverlayConfig.Manifest.Set
import OverlayConfig.Proofs.Kubernetes.Deployment
set_option autoImplicit false

namespace OverlayConfig

namespace Manifest

open Kubernetes

theorem isComplete_iff {object : Manifest} :
    object.isComplete = true ↔ object.apiVersion ≠ "" ∧ object.kind ≠ "" ∧ object.name ≠ "" := by
  simp [isComplete, and_assoc]

/-- The path leads to a mapping if the record has a node selector, and to its texts. -/
theorem get?_nodeSelector {object : Manifest} {deployment : Deployment}
    (h : Deployment.ofJson object.toJson = .ok deployment) :
    (object.get? ["spec", "template", "spec", "nodeSelector"]).bind Json.fields? =
      deployment.nodeSelector.map Json.ofTexts := by
  rw [get?_eq_reach (by simp)]
  exact isReader_deployment.sees h

theorem checkPinned_eq_ok_iff_selects {object : Manifest} : object.checkPinned = .ok () ↔
    ∃ deployment, Deployment.ofJson object.toJson = .ok deployment ∧
      deployment.selects masterNodeLabel = true := by
  rw [checkPinned, bind_eq_ok]
  simp only [mapError_eq_ok]
  refine exists_congr fun deployment => and_congr_right fun _ => ?_
  split
  · next hselects => exact iff_of_true rfl hselects
  · next hselects => exact iff_of_false nofun hselects

theorem checkPinned_eq_error {object : Manifest} {e : RenderError} :
    object.checkPinned = .error e ↔
      (∃ cause, Shape.check object.toJson Kubernetes.deployment = .error cause ∧
        e = .deployment cause) ∨
      ∃ deployment, Deployment.ofJson object.toJson = .ok deployment ∧
        deployment.selects masterNodeLabel = false ∧
        e = .malformed (.unpinnedDeployment object.id) := by
  rw [checkPinned, bind_eq_error]
  simp only [mapError_eq_error, mapError_eq_ok, ofJson_eq_error]
  refine or_congr (exists_congr fun cause => and_congr_right fun _ => eq_comm)
    (exists_congr fun deployment => and_congr_right fun _ => ?_)
  cases deployment.selects masterNodeLabel <;> simp [eq_comm]

end Manifest

namespace ManifestSet

section Partition

variable {α : Type} {p q : α → Bool} {xs : List α}

theorem filter_mergeSort {le : α → α → Bool} (htrans : ∀ a b c, le a b → le b c → le a c)
    (htotal : ∀ a b, le a b || le b a) (h : (xs.filter q).Pairwise fun a b => le a b) :
    (xs.mergeSort le).filter q = xs.filter q := by
  have hsub : List.Sublist (xs.filter q) ((xs.mergeSort le).filter q) := by
    simpa using (List.sublist_mergeSort htrans htotal h List.filter_sublist).filter q
  exact (hsub.eq_of_length ((List.mergeSort_perm xs le).filter q).length_eq.symm).symm

theorem eq_filter_append_of_pairwise (h : xs.Pairwise fun a b => p a || !p b) :
    xs = xs.filter p ++ xs.filter fun a => !p a := by
  induction xs with
  | nil => rfl
  | cons a rest ih =>
    obtain ⟨hfirst, hrest⟩ := List.pairwise_cons.mp h
    cases ha : p a with
    | true => simpa [ha] using ih hrest
    | false =>
      have hnone : rest.filter p = [] := by simpa [ha, List.filter_eq_nil_iff] using hfirst
      have hall : rest.filter (fun b => !p b) = rest := by
        simpa [ha, List.filter_eq_self] using hfirst
      simp [ha, hnone, hall]

/-- To sort by a test in a stable way is to put what passes it before what does not. -/
theorem mergeSort_eq_filter_append (p : α → Bool) (xs : List α) :
    xs.mergeSort (fun a b => p a || !p b) = xs.filter p ++ xs.filter fun a => !p a := by
  have htrans : ∀ a b c, p a || !p b → p b || !p c → p a || !p c := by grind
  have htotal : ∀ a b, (p a || !p b) || (p b || !p a) := by grind
  have hkept (q : α → Bool) (hq : (xs.filter q).Pairwise fun a b => p a || !p b) :
      (xs.mergeSort fun a b => p a || !p b).filter q = xs.filter q :=
    filter_mergeSort htrans htotal hq
  rw [eq_filter_append_of_pairwise (List.pairwise_mergeSort htrans htotal xs), hkept, hkept]
  all_goals
    refine List.pairwise_of_forall_mem_list fun a ha b hb => ?_
    simp_all

end Partition

variable {seen : List ObjectId} {object : Manifest} {objects rest : List Manifest}

theorem namespacesFirst_eq (objects : List Manifest) : namespacesFirst objects =
    objects.filter Manifest.isNamespace ++ objects.filter fun o => !o.isNamespace :=
  mergeSort_eq_filter_append Manifest.isNamespace objects

theorem head?_namespacesFirst (objects : List Manifest) :
    (namespacesFirst objects).head?.any Manifest.isNamespace =
      objects.any Manifest.isNamespace := by
  rw [namespacesFirst_eq]
  cases hspaces : objects.filter Manifest.isNamespace with
  | nil =>
    have hnone : objects.any Manifest.isNamespace = false := by
      simpa [List.filter_eq_nil_iff] using hspaces
    rw [hnone, List.nil_append, Bool.eq_false_iff]
    intro hhead
    obtain ⟨o, ho, hspace⟩ := (Option.any_eq_true ..).mp hhead
    simpa [hspace] using (List.mem_filter.mp (List.mem_of_head? ho)).2
  | cons o rest =>
    obtain ⟨hmem, hspace⟩ := List.mem_filter.mp (hspaces ▸ List.mem_cons_self)
    rw [List.any_eq_true.mpr ⟨o, hmem, hspace⟩]
    exact hspace

/-- What one object goes through: it is complete, new, and pinned if it is a deployment. -/
theorem checkObjects_cons (seen : List ObjectId) (object : Manifest) (rest : List Manifest) :
    checkObjects seen (object :: rest) =
      if object.isComplete = false then .error (.malformed (.incompleteObject object.id))
      else if object.id ∈ seen then .error (.malformed (.duplicateObject object.id))
      else if object.kind = "Deployment" then
        object.checkPinned >>= fun _ => checkObjects (object.id :: seen) rest
      else checkObjects (object.id :: seen) rest := by
  rw [checkObjects]
  by_cases hcomplete : object.isComplete = true <;> by_cases hseen : object.id ∈ seen <;>
    by_cases hkind : object.kind = "Deployment" <;> simp [hcomplete, hseen, hkind] <;> rfl

theorem checkObjects_cons_eq_ok : checkObjects seen (object :: rest) = .ok () ↔
    object.isComplete = true ∧ object.id ∉ seen ∧
      (object.kind = "Deployment" → object.checkPinned = .ok ()) ∧
      checkObjects (object.id :: seen) rest = .ok () := by
  rw [checkObjects_cons]
  by_cases hcomplete : object.isComplete = true
  · by_cases hseen : object.id ∈ seen
    · simp [hcomplete, hseen]
    · have hunit : (∃ u, object.checkPinned = .ok u) ↔ object.checkPinned = .ok () :=
        ⟨fun ⟨(), h⟩ => h, fun h => ⟨(), h⟩⟩
      by_cases hkind : object.kind = "Deployment"
      · simp [hcomplete, hseen, hkind, bind_eq_ok, hunit]
      · simp [hcomplete, hseen, hkind]
  · simp [hcomplete]

theorem checkObjects_eq_ok : checkObjects seen objects = .ok () ↔
    (∀ o ∈ objects, o.isComplete = true) ∧ (objects.map Manifest.id).Nodup ∧
      (∀ o ∈ objects, o.id ∉ seen) ∧
      ∀ o ∈ objects, o.kind = "Deployment" → o.checkPinned = .ok () := by
  induction objects generalizing seen with
  | nil => simp [checkObjects]
  | cons o rest ih =>
    have hfresh : (∀ p ∈ rest, p.id ∉ o.id :: seen) ↔
        o.id ∉ rest.map Manifest.id ∧ ∀ p ∈ rest, p.id ∉ seen := by
      simp only [List.mem_cons, not_or, List.mem_map, not_exists, not_and, forall_and]
    rw [checkObjects_cons_eq_ok, ih, hfresh]
    simp only [List.forall_mem_cons, List.map_cons, List.nodup_cons]
    constructor
    · rintro ⟨hcomplete, hnew, hpinned, hcompletes, hnodup, ⟨hother, hfresh⟩, hpins⟩
      exact ⟨⟨hcomplete, hcompletes⟩, ⟨hother, hnodup⟩, ⟨hnew, hfresh⟩, hpinned, hpins⟩
    · rintro ⟨⟨hcomplete, hcompletes⟩, ⟨hother, hnodup⟩, ⟨hnew, hfresh⟩, hpinned, hpins⟩
      exact ⟨hcomplete, hnew, hpinned, hcompletes, hnodup, ⟨hother, hfresh⟩, hpins⟩

/-- What a set is refused for: for an object that does not fit in, or for a deployment that is none.
-/
inductive Refuses (objects : List Manifest) : RenderError → Prop where
  | malformed (cause : ManifestSetError) : Refuses objects (.malformed cause)
  | deployment {object : Manifest} {cause : DecodeError} (hmem : object ∈ objects)
      (hkind : object.kind = "Deployment")
      (hshape : Shape.check object.toJson Kubernetes.deployment = .error cause) :
      Refuses objects (.deployment cause)

theorem Refuses.mono {e : RenderError} (h : Refuses rest e) (hsub : rest ⊆ objects) :
    Refuses objects e := by
  cases h with
  | malformed cause => exact .malformed cause
  | deployment hmem hkind hshape => exact .deployment (hsub hmem) hkind hshape

theorem refuses_of_checkPinned {e : RenderError} (hmem : object ∈ objects)
    (hkind : object.kind = "Deployment") (h : object.checkPinned = .error e) :
    Refuses objects e := by
  rcases Manifest.checkPinned_eq_error.mp h with ⟨cause, hshape, rfl⟩ | ⟨-, -, -, rfl⟩
  · exact .deployment hmem hkind hshape
  · exact .malformed _

theorem refuses_of_checkObjects {e : RenderError} (h : checkObjects seen objects = .error e) :
    Refuses objects e := by
  induction objects generalizing seen with
  | nil => cases h
  | cons o rest ih =>
    rw [checkObjects_cons] at h
    split at h
    · cases h
      exact .malformed _
    split at h
    · cases h
      exact .malformed _
    split at h
    · next hkind =>
      rcases bind_eq_error.mp h with hpinned | ⟨_, -, hrest⟩
      · exact refuses_of_checkPinned List.mem_cons_self hkind hpinned
      · exact (ih hrest).mono (List.subset_cons_self o rest)
    · exact (ih h).mono (List.subset_cons_self o rest)

theorem namespacesFirst_perm (objects : List Manifest) : (namespacesFirst objects).Perm objects :=
  List.mergeSort_perm _ _

theorem mem_namespacesFirst : object ∈ namespacesFirst objects ↔ object ∈ objects :=
  (namespacesFirst_perm objects).mem_iff

theorem check_eq (objects : List Manifest) : check objects =
    if objects.any Manifest.isNamespace = false then .error (.malformed .noNamespace)
    else (checkObjects [] (namespacesFirst objects)).map fun _ => namespacesFirst objects := by
  rw [check, head?_namespacesFirst]
  cases objects.any Manifest.isNamespace with
  | false => rfl
  | true => cases checkObjects [] (namespacesFirst objects) <;> rfl

theorem check_eq_ok {result : List Manifest} : check objects = .ok result ↔
    result = namespacesFirst objects ∧ (∃ o ∈ result, o.isNamespace = true) ∧
      (∀ o ∈ result, o.isComplete = true) ∧ (result.map Manifest.id).Nodup ∧
      ∀ o ∈ result, o.kind = "Deployment" → o.checkPinned = .ok () := by
  have hchecked : checkObjects [] (namespacesFirst objects) = .ok () ↔ _ := checkObjects_eq_ok
  rw [check_eq, ← (namespacesFirst_perm objects).any_eq]
  split
  · next hnone =>
    constructor
    · nofun
    · rintro ⟨rfl, ⟨o, ho, hspace⟩, -⟩
      rw [List.any_eq_true.mpr ⟨o, ho, hspace⟩] at hnone
      cases hnone
  · next hsome =>
    rw [Bool.not_eq_false, List.any_eq_true] at hsome
    rw [map_eq_ok]
    constructor
    · rintro ⟨_, hok, rfl⟩
      obtain ⟨hcomplete, hnodup, -, hpinned⟩ := hchecked.mp hok
      exact ⟨rfl, hsome, hcomplete, hnodup, hpinned⟩
    · rintro ⟨rfl, -, hcomplete, hnodup, hpinned⟩
      exact ⟨(), hchecked.mpr ⟨hcomplete, hnodup, fun _ _ => List.not_mem_nil, hpinned⟩, rfl⟩

theorem refuses_of_check {e : RenderError} (h : check objects = .error e) : Refuses objects e := by
  rw [check_eq] at h
  split at h
  · cases h
    exact .malformed _
  · rw [map_eq_error] at h
    exact (refuses_of_checkObjects h).mono fun o ho => mem_namespacesFirst.mp ho

end ManifestSet

end OverlayConfig
