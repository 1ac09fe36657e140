import OverlayConfig.Proofs.Manifest.Steady
/-!
What updates make of a live object. Each one merges the live object into a desired one, and the
result is the live object of the next; one with an object of another identity changes nothing. What
a single merge takes from either object is stated path by path.
-/
set_option autoImplicit false

namespace OverlayConfig

namespace Manifest

variable {live desired merged : Manifest} {p q : KeyPath}

section Steps

theorem get?_keepLive_same (hp : p ≠ []) :
    (keepLive p live desired).get? p = (live.get? p).or (desired.get? p) := by
  unfold keepLive
  split
  · next v hv => simp [get?_set_same hp, hv]
  · next hnone => simp [hnone]

theorem get?_matchLive_same (hp : p ≠ []) :
    (matchLive p live desired).get? p = live.get? p := by
  unfold matchLive
  split
  · next v hv => rw [get?_set_same hp, hv]
  · next hnone => rw [get?_remove_same, hnone]

theorem get?_matchLive_apart (h : p.Apart q) :
    (matchLive p live desired).get? q = desired.get? q := by
  unfold matchLive
  split
  · exact get?_set_apart h
  · exact get?_remove_apart h

theorem get?_uniteLive_apart (h : p.Apart q) :
    (uniteLive p live desired).get? q = desired.get? q := by
  unfold uniteLive
  split
  · rfl
  · rfl
  · exact get?_set_apart h

theorem get?_uniteLive_concat (hp : p ≠ []) (key : String) :
    (uniteLive p live desired).get? (p ++ [key]) =
      (desired.get? (p ++ [key])).or (live.get? (p ++ [key])) := by
  simp only [get?_concat _ hp]
  unfold uniteLive
  split
  · next hnone => simp [hnone]
  · next hnil => simp [hnil]
  · next fields hne hfields =>
    rw [fields?_eq_some.mpr (get?_set_same hp), hfields, Option.getD_some, Option.getD_some,
      Fields.get?_union]

/-- Taking over the metadata under some keys makes it what the live object has there. -/
theorem get?_foldl_matchLive (keys : List String) (key : String) :
    (keys.foldl (fun d k => matchLive ["metadata", k] live d) desired).get? ["metadata", key] =
      if key ∈ keys then live.get? ["metadata", key] else desired.get? ["metadata", key] := by
  induction keys generalizing desired with
  | nil => simp
  | cons k keys ih =>
    rw [List.foldl_cons, ih]
    by_cases hk : key = k
    · simp [hk, get?_matchLive_same]
    · have hapart : KeyPath.Apart ["metadata", k] ["metadata", key] := by
        simp [KeyPath.apart_cons_cons, Ne.symm hk]
      simp [hk, get?_matchLive_apart hapart]

theorem get?_foldl_matchLive_apart {keys : List String}
    (h : ∀ key ∈ keys, KeyPath.Apart ["metadata", key] q) :
    (keys.foldl (fun d k => matchLive ["metadata", k] live d) desired).get? q =
      desired.get? q := by
  induction keys generalizing desired with
  | nil => rfl
  | cons k keys ih =>
    obtain ⟨hk, hkeys⟩ := List.forall_mem_cons.mp h
    rw [List.foldl_cons, ih hkeys, get?_matchLive_apart hk]

theorem get?_keepOwned_same (h : ownedPath? desired.kind = some p) :
    (keepOwned live desired).get? p = (live.get? p).or (desired.get? p) := by
  have hp : p ≠ [] := by rcases ownedPath?_cases h with rfl | rfl | rfl <;> simp
  rw [keepOwned, h]
  exact get?_keepLive_same hp

theorem get?_keepOwned_apart (h : ∀ p, ownedPath? desired.kind = some p → p.Apart q) :
    (keepOwned live desired).get? q = desired.get? q := by
  unfold keepOwned
  split
  · next p hp => exact get?_keepLive_apart (h p hp)
  · rfl

end Steps

section Merge

theorem get?_mergeMetadata_runtime {key : String} (h : key ∈ runtimeMetadata) :
    (mergeMetadata live desired).get? ["metadata", key] = live.get? ["metadata", key] := by
  have hapart {field : String} (hfield : field = "labels" ∨ field = "annotations") :
      KeyPath.Apart ["metadata", field] ["metadata", key] := by
    simp [KeyPath.apart_cons_cons, (runtime_ne_united h hfield).symm]
  rw [mergeMetadata, get?_uniteLive_apart (hapart (.inr rfl)),
    get?_uniteLive_apart (hapart (.inl rfl)), get?_foldl_matchLive, if_pos h]

theorem get?_mergeMetadata_united {field : String} (key : String)
    (hfield : field = "labels" ∨ field = "annotations") :
    (mergeMetadata live desired).get? ["metadata", field, key] =
      (desired.get? ["metadata", field, key]).or (live.get? ["metadata", field, key]) := by
  have hruntime : ∀ k ∈ runtimeMetadata, KeyPath.Apart ["metadata", k] ["metadata", field, key] :=
    fun k hk => by simp [KeyPath.apart_cons_cons, runtime_ne_united hk hfield]
  have hapart {other : String} (hother : other ≠ field) :
      KeyPath.Apart ["metadata", other] ["metadata", field, key] := by
    simp [KeyPath.apart_cons_cons, hother]
  have hsame (object : Manifest) :
      (uniteLive ["metadata", field] live object).get? ["metadata", field, key] =
        (object.get? ["metadata", field, key]).or (live.get? ["metadata", field, key]) :=
    get?_uniteLive_concat (List.cons_ne_nil "metadata" [field]) key
  rw [mergeMetadata]
  rcases hfield with rfl | rfl
  · rw [get?_uniteLive_apart (hapart (by decide)), hsame, get?_foldl_matchLive_apart hruntime]
  · rw [hsame, get?_uniteLive_apart (hapart (by decide)), get?_foldl_matchLive_apart hruntime]

theorem get?_mergeMetadata_apart
    (hruntime : ∀ key ∈ runtimeMetadata, KeyPath.Apart ["metadata", key] q)
    (hlabels : KeyPath.Apart ["metadata", "labels"] q)
    (hannotations : KeyPath.Apart ["metadata", "annotations"] q) :
    (mergeMetadata live desired).get? q = desired.get? q := by
  rw [mergeMetadata, get?_uniteLive_apart hannotations, get?_uniteLive_apart hlabels,
    get?_foldl_matchLive_apart hruntime]

/-- What a merge makes of two objects: which values are the live object's, which are the desired
object's, and where one gives way to the other. -/
structure Merges (live desired merged : Manifest) : Prop where
  runtime {key : String} (h : key ∈ runtimeMetadata) :
    merged.get? ["metadata", key] = live.get? ["metadata", key]
  owned {p : KeyPath} (h : ownedPath? desired.kind = some p) :
    merged.get? p = (live.get? p).or (desired.get? p)
  united {field key : String} (hfield : field = "labels" ∨ field = "annotations")
    (h : ownedPath? desired.kind ≠ some ["metadata", field, key]) :
    merged.get? ["metadata", field, key] =
      (desired.get? ["metadata", field, key]).or (live.get? ["metadata", field, key])
  beyond {q : KeyPath} (hruntime : ∀ key ∈ runtimeMetadata, KeyPath.Apart ["metadata", key] q)
    (hlabels : KeyPath.Apart ["metadata", "labels"] q)
    (hannotations : KeyPath.Apart ["metadata", "annotations"] q)
    (howned : ∀ p, ownedPath? desired.kind = some p → p.Apart q) :
    merged.get? q = desired.get? q

theorem merges (live desired : Manifest) :
    Merges live desired (mergeMetadata live (keepOwned live desired)) where
  runtime h := get?_mergeMetadata_runtime h
  owned {p} h := by
    have hsame : (keepOwned live desired).get? p = (live.get? p).or (desired.get? p) :=
      get?_keepOwned_same h
    rcases ownedPath?_cases h with rfl | rfl | rfl
    · rw [get?_mergeMetadata_united deploymentRevisionKey (.inr rfl), hsame]
      cases live.get? ["metadata", "annotations", deploymentRevisionKey] <;> simp
    all_goals
      rw [get?_mergeMetadata_apart (by simp [KeyPath.apart_cons_cons])
        (by simp [KeyPath.apart_cons_cons]) (by simp [KeyPath.apart_cons_cons]), hsame]
  united {field key} hfield h := by
    have hapart : ∀ p, ownedPath? desired.kind = some p →
        p.Apart ["metadata", field, key] := by
      intro p hp
      have hne : p ≠ ["metadata", field, key] := fun heq => h (heq ▸ hp)
      rcases ownedPath?_cases hp with rfl | rfl | rfl <;>
        simp_all [KeyPath.apart_cons_cons]
    rw [get?_mergeMetadata_united key hfield, get?_keepOwned_apart hapart]
  beyond hruntime hlabels hannotations howned := by
    rw [get?_mergeMetadata_apart hruntime hlabels hannotations, get?_keepOwned_apart howned]

theorem merge_eq_ok :
    merge live desired = .ok merged ↔
      live.id = desired.id ∧ mergeMetadata live (keepOwned live desired) = merged := by
  rw [merge_eq]
  split <;> simp_all

theorem Merges.id_eq (h : Merges live desired merged) : merged.id = desired.id := by
  have hkind : merged.get? ["kind"] = desired.get? ["kind"] := by
    refine h.beyond (by simp [KeyPath.apart_cons_cons]) (by decide) (by decide) fun p hp => ?_
    rcases ownedPath?_cases hp with rfl | rfl | rfl <;> simp [KeyPath.apart_cons_cons]
  have hname {key : String} (hkey : key = "namespace" ∨ key = "name") :
      merged.get? ["metadata", key] = desired.get? ["metadata", key] := by
    rcases hkey with rfl | rfl
    all_goals
      refine h.beyond (by decide) (by decide) (by decide) fun p hp => ?_
      rcases ownedPath?_cases hp with rfl | rfl | rfl <;> simp [KeyPath.apart_cons_cons]
  simp [id, kind, namespaceName, name, text?, hkind, hname]

end Merge

section Updates

/-- The live object after an update. A merge that fails leaves it as it was. -/
def update (live desired : Manifest) : Manifest :=
  match merge live desired with
  | .ok merged => merged
  | .error _ => live

def updates (live : Manifest) (objects : List Manifest) : Manifest := objects.foldl update live

structure Keeps (earlier later : Manifest) : Prop where
  kind : later.kind = earlier.kind
  namespaceName : later.namespaceName = earlier.namespaceName
  name : later.name = earlier.name
  runtime {key : String}
    (h : key ∈ ["creationTimestamp", "selfLink", "generation", "uid", "resourceVersion"]) :
    later.get? ["metadata", key] = earlier.get? ["metadata", key]
  united {field key : String} (hfield : field = "labels" ∨ field = "annotations")
    (h : (earlier.get? ["metadata", field, key]).isSome) :
    (later.get? ["metadata", field, key]).isSome
  revision {v : Json} (hkind : earlier.kind = "Deployment")
    (h : earlier.get? ["metadata", "annotations", "deployment.kubernetes.io/revision"] = some v) :
    later.get? ["metadata", "annotations", "deployment.kubernetes.io/revision"] = some v
  clusterIP {v : Json} (hkind : earlier.kind = "Service")
    (h : earlier.get? ["spec", "clusterIP"] = some v) : later.get? ["spec", "clusterIP"] = some v
  secrets {v : Json} (hkind : earlier.kind = "ServiceAccount")
    (h : earlier.get? ["secrets"] = some v) : later.get? ["secrets"] = some v

structure IsUpdate (before desired after : Manifest) : Prop where
  refused (h : before.id ≠ desired.id) :
    merge before desired = .error (.unsupported desired.id ("cannot merge with " ++ before.id.text)) ∧
      after = before
  merged (h : before.id = desired.id) : merge before desired = .ok after
  /-- Labels and annotations of the desired object win, but for the revision of a deployment. -/
  takes {field key : String} {v : Json} (h : before.id = desired.id)
    (hfield : field = "labels" ∨ field = "annotations")
    (hfree : ¬ (desired.kind = "Deployment" ∧ field = "annotations" ∧
      key = "deployment.kubernetes.io/revision"))
    (hv : desired.get? ["metadata", field, key] = some v) :
    after.get? ["metadata", field, key] = some v

theorem Keeps.refl (object : Manifest) : Keeps object object :=
  ⟨rfl, rfl, rfl, fun _ => rfl, fun _ h => h, fun _ h => h, fun _ h => h, fun _ h => h⟩

theorem Keeps.trans {a b c : Manifest} (hab : Keeps a b) (hbc : Keeps b c) : Keeps a c where
  kind := hbc.kind.trans hab.kind
  namespaceName := hbc.namespaceName.trans hab.namespaceName
  name := hbc.name.trans hab.name
  runtime h := (hbc.runtime h).trans (hab.runtime h)
  united hfield h := hbc.united hfield (hab.united hfield h)
  revision hkind h := hbc.revision (hab.kind.trans hkind) (hab.revision hkind h)
  clusterIP hkind h := hbc.clusterIP (hab.kind.trans hkind) (hab.clusterIP hkind h)
  secrets hkind h := hbc.secrets (hab.kind.trans hkind) (hab.secrets hkind h)

theorem Merges.owned_of_live {v : Json} (h : Merges live desired merged)
    (howned : ownedPath? desired.kind = some p) (hv : live.get? p = some v) :
    merged.get? p = some v := by
  rw [h.owned howned, hv, Option.some_or]

theorem Merges.isSome_united {field key : String} (h : Merges live desired merged)
    (hfield : field = "labels" ∨ field = "annotations")
    (hlive : (live.get? ["metadata", field, key]).isSome) :
    (merged.get? ["metadata", field, key]).isSome := by
  by_cases howned : ownedPath? desired.kind = some ["metadata", field, key]
  · simp [h.owned howned, hlive]
  · simp [h.united hfield howned, hlive]

theorem Merges.keeps (h : Merges live desired merged) (hid : live.id = desired.id) :
    Keeps live merged := by
  have hmerged : merged.id = live.id := h.id_eq.trans hid.symm
  have hkind : desired.kind = live.kind := (congrArg ObjectId.kind hid).symm
  refine ⟨congrArg ObjectId.kind hmerged, congrArg ObjectId.namespaceName hmerged,
    congrArg ObjectId.name hmerged, h.runtime, h.isSome_united, ?_, ?_, ?_⟩
  all_goals
    intro v hlive
    exact h.owned_of_live (by simp [hkind, hlive, ownedPath?, deploymentRevisionKey])

theorem keeps_update (live desired : Manifest) : Keeps live (live.update desired) := by
  unfold update
  split
  · next merged hmerge =>
    obtain ⟨hid, rfl⟩ := merge_eq_ok.mp hmerge
    exact (merges live desired).keeps hid
  · exact .refl live

theorem isUpdate_update (live desired : Manifest) : IsUpdate live desired (live.update desired) where
  refused h := by simp [update, merge_eq, h]
  merged h := by simp [update, merge_eq, h]
  takes {field key v} h hfield hfree hv := by
    have howned : ownedPath? desired.kind ≠ some ["metadata", field, key] := by
      intro howned
      unfold ownedPath? at howned
      split at howned
      · next hkind => exact hfree (by simpa [hkind, deploymentRevisionKey, eq_comm] using howned)
      · grind
    have hupdate : live.update desired = mergeMetadata live (keepOwned live desired) := by
      simp [update, merge_eq, h]
    rw [hupdate, (merges live desired).united hfield howned, hv, Option.some_or]

/-- Over any updates of a live object, each one merges or is refused, and what it is and what the
cluster and others have set in it does not get lost. -/
theorem keeps_updates (live : Manifest) (earlier : List Manifest) :
    (∀ later, Keeps (live.updates earlier) (live.updates (earlier ++ later))) ∧
      ∀ desired,
        IsUpdate (live.updates earlier) desired (live.updates (earlier ++ [desired])) := by
  have hrun (object : Manifest) (objects : List Manifest) :
      Keeps object (object.updates objects) := by
    induction objects generalizing object with
    | nil => exact .refl object
    | cons desired rest ih => exact (keeps_update object desired).trans (ih (object.update desired))
  refine ⟨fun later => ?_, fun desired => ?_⟩
  · rw [updates, updates, List.foldl_append]
    exact hrun _ later
  · rw [updates, updates, List.foldl_append]
    exact isUpdate_update _ desired

def storedDeployment : Manifest :=
  ⟨[("kind", .string "Deployment"),
    ("metadata", .object
      [("annotations", .object [("deployment.kubernetes.io/revision", .string "7")]),
        ("labels", .object [("app", .string "sdn"), ("tier", .string "node")]),
        ("name", .string "x"), ("uid", .string "42")])]⟩

def staleDeployment : Manifest :=
  ⟨[("kind", .string "Deployment"),
    ("metadata", .object
      [("annotations", .object [("deployment.kubernetes.io/revision", .string "1")]),
        ("labels", .object [("app", .string "ovn")]),
        ("name", .string "x"), ("uid", .string "9")])]⟩

theorem keeps_updates_deployment :
    (storedDeployment.updates [staleDeployment, bareService]).get?
        ["metadata", "annotations", "deployment.kubernetes.io/revision"] = some (.string "7") ∧
      (storedDeployment.updates [staleDeployment, bareService]).get? ["metadata", "uid"] =
        some (.string "42") ∧
      (storedDeployment.updates [staleDeployment]).get? ["metadata", "labels", "app"] =
        some (.string "ovn") ∧
      storedDeployment.updates [staleDeployment, bareService] =
        storedDeployment.updates [staleDeployment] := by
  have hkeeps := (keeps_updates storedDeployment []).1 [staleDeployment, bareService]
  have hfirst := (keeps_updates storedDeployment []).2 staleDeployment
  have hsecond := (keeps_updates storedDeployment [staleDeployment]).2 bareService
  exact ⟨hkeeps.revision (by decide) (by decide), hkeeps.runtime (by simp),
    hfirst.takes (by decide) (.inl rfl) (by decide) (by decide),
    (hsecond.refused (by decide)).2⟩

end Updates

end Manifest

end OverlayConfig
