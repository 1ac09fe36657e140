import OverlayConfig.Proofs.Manifest.Checks
import OverlayConfig.Proofs.Manifest.Steady
/-!
Which sets of manifests are accepted, and for what the others are refused. A refused set has a first
object that does not fit to the ones before it, in the order in which the set would be applied, and
the first thing that is wrong with this object is the error.
-/
set_option autoImplicit false

namespace OverlayConfig

namespace Manifest

open Kubernetes

structure RunsOnMasters (object : Manifest) : Prop where
  inShape : Shape.check object.toJson Kubernetes.deployment = .ok ()
  selects : (object.get?
    ["spec", "template", "spec", "nodeSelector", "node-role.kubernetes.io/master"]).isSome

/-- What is wrong with an object that stands after objects with some identities: the first that
applies. -/
inductive Fault (seen : List ObjectId) (object : Manifest) : RenderError → Prop
  | incomplete (h : object.apiVersion = "" ∨ object.kind = "" ∨ object.name = "") :
      Fault seen object (.malformed (.incompleteObject object.id))
  | duplicate (hcomplete : object.isComplete = true) (h : object.id ∈ seen) :
      Fault seen object (.malformed (.duplicateObject object.id))
  | misshapen (hcomplete : object.isComplete = true) (hnew : object.id ∉ seen)
      (hkind : object.kind = "Deployment") {cause : DecodeError}
      (h : Shape.check object.toJson Kubernetes.deployment = .error cause) :
      Fault seen object (.deployment cause)
  | unpinned (hcomplete : object.isComplete = true) (hnew : object.id ∉ seen)
      (hkind : object.kind = "Deployment")
      (hshape : Shape.check object.toJson Kubernetes.deployment = .ok ())
      (h : object.get?
        ["spec", "template", "spec", "nodeSelector", "node-role.kubernetes.io/master"] = none) :
      Fault seen object (.malformed (.unpinnedDeployment object.id))

variable {object : Manifest} {seen seen' : List ObjectId} {e : RenderError}

theorem Fault.of_mem_iff (h : ∀ i, i ∈ seen ↔ i ∈ seen') (hfault : Fault seen object e) :
    Fault seen' object e := by
  cases hfault with
  | incomplete hlacks => exact .incomplete hlacks
  | duplicate hcomplete hseen => exact .duplicate hcomplete ((h _).mp hseen)
  | misshapen hcomplete hnew hkind hshape =>
    exact .misshapen hcomplete (mt (h _).mpr hnew) hkind hshape
  | unpinned hcomplete hnew hkind hshape hnone =>
    exact .unpinned hcomplete (mt (h _).mpr hnew) hkind hshape hnone

theorem isSome_get?_nodeSelector {deployment : Deployment}
    (h : Deployment.ofJson object.toJson = .ok deployment) (label : String) :
    (object.get? ["spec", "template", "spec", "nodeSelector", label]).isSome =
      deployment.selects label := by
  have hentry : object.get? ["spec", "template", "spec", "nodeSelector", label] =
      ((object.fields? ["spec", "template", "spec", "nodeSelector"]).getD []).get? label :=
    object.get?_concat (p := ["spec", "template", "spec", "nodeSelector"]) (by simp) label
  rw [hentry, fields?, get?_nodeSelector h, Deployment.selects]
  cases deployment.nodeSelector with
  | none => rfl
  | some texts =>
    rw [Option.map_some, Option.getD_some, Option.any_some, ← Fields.contains_keys,
      ← Json.keys_ofTexts, Fields.contains_keys]
    rfl

theorem checkPinned_eq_ok : object.checkPinned = .ok () ↔ object.RunsOnMasters := by
  rw [checkPinned_eq_ok_iff_selects]
  constructor
  · rintro ⟨deployment, hread, hselects⟩
    exact ⟨exists_ofJson.mp ⟨deployment, hread⟩, (isSome_get?_nodeSelector hread _).trans hselects⟩
  · rintro ⟨hshape, hlabel⟩
    obtain ⟨deployment, hread⟩ := exists_ofJson.mpr hshape
    exact ⟨deployment, hread, (isSome_get?_nodeSelector hread _).symm.trans hlabel⟩

/-- What an object needs to stand after objects with some identities. -/
structure Fits (seen : List ObjectId) (object : Manifest) : Prop where
  complete : object.isComplete = true
  new : object.id ∉ seen
  pinned (h : object.kind = "Deployment") : object.RunsOnMasters

theorem fault_of_checkPinned (hcomplete : object.isComplete = true) (hnew : object.id ∉ seen)
    (hkind : object.kind = "Deployment") (h : object.checkPinned = .error e) :
    Fault seen object e := by
  rcases checkPinned_eq_error.mp h with ⟨cause, hshape, rfl⟩ | ⟨deployment, hread, hselects, rfl⟩
  · exact .misshapen hcomplete hnew hkind hshape
  · refine .unpinned hcomplete hnew hkind (exists_ofJson.mp ⟨deployment, hread⟩) ?_
    rw [← isSome_get?_nodeSelector hread] at hselects
    exact Option.isNone_iff_eq_none.mp (Option.isSome_eq_false_iff.mp hselects)

theorem fits_or_fault (seen : List ObjectId) (object : Manifest) :
    object.Fits seen ∨ ∃ e, Fault seen object e := by
  by_cases hcomplete : object.isComplete = true
  · by_cases hseen : object.id ∈ seen
    · exact .inr ⟨_, .duplicate hcomplete hseen⟩
    · by_cases hkind : object.kind = "Deployment"
      · cases hpinned : object.checkPinned with
        | ok _ => exact .inl ⟨hcomplete, hseen, fun _ => checkPinned_eq_ok.mp hpinned⟩
        | error e => exact .inr ⟨e, fault_of_checkPinned hcomplete hseen hkind hpinned⟩
      · exact .inl ⟨hcomplete, hseen, fun h => absurd h hkind⟩
  · refine .inr ⟨_, .incomplete ?_⟩
    rw [isComplete_iff] at hcomplete
    grind

end Manifest

namespace ManifestSet

open Manifest

variable {seen : List ObjectId} {object : Manifest} {objects rest : List Manifest} {e : RenderError}

/-- What a set has to be like to be applied. -/
structure Sound (objects : List Manifest) : Prop where
  complete : ∀ o ∈ objects, o.apiVersion ≠ "" ∧ o.kind ≠ "" ∧ o.name ≠ ""
  distinct : (objects.map Manifest.id).Nodup
  pinned : ∀ o ∈ objects, o.kind = "Deployment" → o.RunsOnMasters

theorem sound_iff : checkObjects [] objects = .ok () ↔ Sound objects := by
  rw [checkObjects_eq_ok]
  simp only [isComplete_iff, checkPinned_eq_ok, List.not_mem_nil, not_false_eq_true, implies_true,
    true_and]
  exact ⟨fun ⟨hcomplete, hdistinct, hpinned⟩ => ⟨hcomplete, hdistinct, hpinned⟩,
    fun h => ⟨h.complete, h.distinct, h.pinned⟩⟩

theorem checkObjects_cons_of_fits (h : object.Fits seen) (rest : List Manifest) :
    checkObjects seen (object :: rest) = checkObjects (object.id :: seen) rest := by
  rw [checkObjects_cons, h.complete, if_neg (by decide), if_neg h.new]
  split
  · next hkind => rw [checkPinned_eq_ok.mpr (h.pinned hkind)]; rfl
  · rfl

theorem checkObjects_cons_of_fault (h : Fault seen object e) (rest : List Manifest) :
    checkObjects seen (object :: rest) = .error e := by
  rw [checkObjects_cons]
  cases h with
  | incomplete h =>
    refine if_pos (Bool.eq_false_iff.mpr fun hcomplete => ?_)
    have hparts := isComplete_iff.mp hcomplete
    grind
  | duplicate hcomplete h => rw [hcomplete, if_neg (by decide), if_pos h]
  | misshapen hcomplete hnew hkind h =>
    rw [hcomplete, if_neg (by decide), if_neg hnew, if_pos hkind,
      checkPinned_eq_error.mpr (.inl ⟨_, h, rfl⟩)]
    rfl
  | unpinned hcomplete hnew hkind hshape h =>
    obtain ⟨deployment, hread⟩ := Kubernetes.exists_ofJson.mpr hshape
    have hselects : deployment.selects masterNodeLabel = false := by
      rw [← isSome_get?_nodeSelector hread, masterNodeLabel, h]
      rfl
    rw [hcomplete, if_neg (by decide), if_neg hnew, if_pos hkind,
      checkPinned_eq_error.mpr (.inr ⟨deployment, hread, hselects, rfl⟩)]
    rfl

theorem checkObjects_eq_error : checkObjects seen objects = .error e ↔
    ∃ before object after, objects = before ++ object :: after ∧
      checkObjects seen before = .ok () ∧ Fault (before.map Manifest.id ++ seen) object e := by
  induction objects generalizing seen with
  | nil =>
    constructor
    · nofun
    · rintro ⟨before, object, after, h, -⟩
      simp at h
  | cons first rest ih =>
    simp only [List.cons_eq_append_iff]
    -- the first object stands before the one at fault, or it is that one
    rcases fits_or_fault seen first with hfits | ⟨e', hfault⟩
    · rw [checkObjects_cons_of_fits hfits, ih]
      constructor
      · rintro ⟨before, object, after, rfl, hok, hfault⟩
        refine ⟨first :: before, object, after, .inr ⟨before, rfl, rfl⟩, ?_, ?_⟩
        · rw [checkObjects_cons_of_fits hfits, hok]
        · exact hfault.of_mem_iff fun i => List.perm_middle.mem_iff
      · rintro ⟨_, object, after, ⟨rfl, h⟩ | ⟨before, rfl, rfl⟩, hok, hfault⟩
        · obtain ⟨rfl, rfl⟩ := List.cons.inj h
          rw [← ih, ← checkObjects_cons_of_fits hfits]
          exact checkObjects_cons_of_fault hfault _
        · rw [checkObjects_cons_of_fits hfits] at hok
          exact ⟨before, object, after, rfl, hok,
            hfault.of_mem_iff fun i => List.perm_middle.symm.mem_iff⟩
    · rw [checkObjects_cons_of_fault hfault]
      constructor
      · intro h
        obtain rfl := Except.error.inj h
        exact ⟨[], first, rest, .inl ⟨rfl, rfl⟩, rfl, hfault⟩
      · rintro ⟨_, object, after, ⟨rfl, h⟩ | ⟨before, rfl, rfl⟩, hok, hother⟩
        · obtain ⟨rfl, rfl⟩ := List.cons.inj h
          rw [← checkObjects_cons_of_fault hfault [], ← checkObjects_cons_of_fault hother []]
          rfl
        · rw [checkObjects_cons_of_fault hfault] at hok
          cases hok

theorem Sound.of_perm {others : List Manifest} (h : Sound objects) (hperm : objects.Perm others) :
    Sound others where
  complete o ho := h.complete o (hperm.mem_iff.mpr ho)
  distinct := (hperm.map Manifest.id).nodup_iff.mp h.distinct
  pinned o ho := h.pinned o (hperm.mem_iff.mpr ho)

theorem any_isNamespace_iff : objects.any Manifest.isNamespace = true ↔
    ∃ o ∈ objects, o.kind = "Namespace" := by
  simp [Manifest.isNamespace]

theorem check_of_namespace (h : ∃ o ∈ objects, o.kind = "Namespace") : check objects =
    (checkObjects [] (namespacesFirst objects)).map fun _ => namespacesFirst objects := by
  rw [check_eq, any_isNamespace_iff.mpr h, if_neg (by decide)]

theorem check_of_no_namespace (h : ∀ o ∈ objects, o.kind ≠ "Namespace") :
    check objects = .error (.malformed .noNamespace) := by
  have hnone : objects.any Manifest.isNamespace = false := by
    refine Bool.eq_false_iff.mpr fun hany => ?_
    obtain ⟨o, ho, hkind⟩ := any_isNamespace_iff.mp hany
    exact h o ho hkind
  rw [check_eq, if_pos hnone]

/-- A set is accepted if it has a namespace and is sound, and comes out with its namespaces first,
every object once. If it has none that is the error, and else the fault of the first object that has
one. -/
theorem check_outcomes (objects : List Manifest) :
    ∃ ordered, ordered = objects.filter (fun o => o.kind = "Namespace") ++
        objects.filter (fun o => o.kind ≠ "Namespace") ∧ ordered.Perm objects ∧
      (∀ result, check objects = .ok result ↔
        ((∃ o ∈ objects, o.kind = "Namespace") ∧ Sound objects) ∧ result = ordered) ∧
      (∀ e, check objects = .error e ↔
        ((∀ o ∈ objects, o.kind ≠ "Namespace") ∧ e = .malformed .noNamespace) ∨
        ((∃ o ∈ objects, o.kind = "Namespace") ∧ ∃ before object after,
          ordered = before ++ object :: after ∧ Sound before ∧
            Fault (before.map Manifest.id) object e)) ∧
      ManifestSetError.noNamespace.message = "no Namespace object" := by
  have hperm := namespacesFirst_perm objects
  have hspelled : namespacesFirst objects = objects.filter (fun o => o.kind = "Namespace") ++
      objects.filter (fun o => o.kind ≠ "Namespace") := by
    rw [namespacesFirst_eq]
    simp only [decide_not]
    rfl
  by_cases hspace : ∃ o ∈ objects, o.kind = "Namespace"
  · have hsome : ¬ ∀ o ∈ objects, o.kind ≠ "Namespace" := by simpa using hspace
    refine ⟨_, hspelled, hperm, fun result => ?_, fun e => ?_, rfl⟩
    · rw [check_of_namespace hspace, map_eq_ok]
      constructor
      · rintro ⟨_, hok, rfl⟩
        exact ⟨⟨hspace, (sound_iff.mp hok).of_perm hperm⟩, rfl⟩
      · rintro ⟨⟨-, hsound⟩, rfl⟩
        exact ⟨(), sound_iff.mpr (hsound.of_perm hperm.symm), rfl⟩
    · rw [check_of_namespace hspace, map_eq_error, checkObjects_eq_error]
      simp only [List.append_nil, sound_iff, hspace, hsome, false_and, true_and, false_or]
  · have hnone : ∀ o ∈ objects, o.kind ≠ "Namespace" := by simpa using hspace
    refine ⟨_, hspelled, hperm, fun result => ?_, fun e => ?_, rfl⟩
    · simp [check_of_no_namespace hnone, hspace]
    · rw [check_of_no_namespace hnone, Except.error.injEq, eq_comm]
      simp only [hspace, false_and, or_false]
      exact ⟨fun h => ⟨hnone, h⟩, fun h => h.2⟩

end ManifestSet

end OverlayConfig
