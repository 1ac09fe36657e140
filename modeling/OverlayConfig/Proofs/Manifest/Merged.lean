import OverlayConfig.Proofs.Manifest.Updates
/-!
Where the values of a merged object come from, over all paths: the metadata of the cluster, the
labels and annotations as whole mappings, what belongs to the cluster in objects of the kind, and
everything else, which is the desired object's.
-/
set_option autoImplicit false

namespace OverlayConfig

namespace Manifest

variable {live desired merged : Manifest} {p : KeyPath} {field : String}

theorem uniteLive_eq (p : KeyPath) (live desired : Manifest) : uniteLive p live desired =
    if Json.children (live.get? p) = [] then desired
    else desired.set p (.object
      (Fields.union (Json.children (live.get? p)) (Json.children (desired.get? p)))) := by
  have hlive : Json.children (live.get? p) = (live.fields? p).getD [] := rfl
  rw [hlive]
  unfold uniteLive
  split
  · next hnone => simp [hnone]
  · next hnil => simp [hnil]
  · next fields hne hfields =>
    rw [hfields, Option.getD_some, if_neg hne]
    rfl

theorem get?_uniteLive_same (hp : p ≠ []) : (uniteLive p live desired).get? p =
    if Json.children (live.get? p) = [] then desired.get? p
    else some (.object
      (Fields.union (Json.children (live.get? p)) (Json.children (desired.get? p)))) := by
  rw [uniteLive_eq]
  split
  · rfl
  · exact get?_set_same hp

theorem get?_mergeMetadata_same (hfield : field = "labels" ∨ field = "annotations") :
    (mergeMetadata live desired).get? ["metadata", field] =
      (uniteLive ["metadata", field] live desired).get? ["metadata", field] := by
  have hruntime : ∀ k ∈ runtimeMetadata, KeyPath.Apart ["metadata", k] ["metadata", field] :=
    fun k hk => by simp [KeyPath.apart_cons_cons, runtime_ne_united hk hfield]
  have hsame {object : Manifest}
      (h : object.get? ["metadata", field] = desired.get? ["metadata", field]) :
      (uniteLive ["metadata", field] live object).get? ["metadata", field] =
        (uniteLive ["metadata", field] live desired).get? ["metadata", field] := by
    rw [get?_uniteLive_same (by simp), get?_uniteLive_same (by simp), h]
  have hapart {other : String} (hother : other ≠ field) :
      KeyPath.Apart ["metadata", other] ["metadata", field] := by
    simp [KeyPath.apart_cons_cons, hother]
  rw [mergeMetadata]
  rcases hfield with rfl | rfl
  · rw [get?_uniteLive_apart (hapart (by decide)), hsame (get?_foldl_matchLive_apart hruntime)]
  · refine hsame ?_
    rw [get?_uniteLive_apart (hapart (by decide)), get?_foldl_matchLive_apart hruntime]

/-- Where the live object has no labels, or no annotations, none belong to the cluster. -/
theorem get?_keepOwned_field (hfield : field = "labels" ∨ field = "annotations")
    (hempty : Json.children (live.get? ["metadata", field]) = []) :
    (keepOwned live desired).get? ["metadata", field] = desired.get? ["metadata", field] := by
  have hnone (key : String) : live.get? ["metadata", field, key] = none := by
    have hconcat := live.get?_concat (p := ["metadata", field]) (by simp) key
    exact hconcat.trans (congrArg (Fields.get? key) hempty)
  unfold keepOwned
  split
  · next p hp =>
    by_cases hsame : p = ["metadata", field, deploymentRevisionKey]
    · rw [keepLive, hsame, hnone]
    · refine get?_keepLive_apart ?_
      rcases ownedPath?_cases hp with rfl | rfl | rfl <;>
        rcases hfield with rfl | rfl <;> simp_all [KeyPath.apart_cons_cons]
  · rfl

inductive Written (kind : String) : KeyPath → Prop
  | runtime {key : String}
      (h : key ∈ ["creationTimestamp", "selfLink", "generation", "uid", "resourceVersion"]) :
      Written kind ["metadata", key]
  | labels : Written kind ["metadata", "labels"]
  | annotations : Written kind ["metadata", "annotations"]
  | clusterIP (h : kind = "Service") : Written kind ["spec", "clusterIP"]
  | secrets (h : kind = "ServiceAccount") : Written kind ["secrets"]

structure Outcome (live desired merged : Manifest) : Prop where
  runtime {key : String}
    (h : key ∈ ["creationTimestamp", "selfLink", "generation", "uid", "resourceVersion"]) :
    merged.get? ["metadata", key] = live.get? ["metadata", key]
  /-- The desired entries stand over the live ones, but for the revision of a deployment. -/
  united {field : String} (hfield : field = "labels" ∨ field = "annotations")
    (hlive : Json.children (live.get? ["metadata", field]) ≠ []) :
    ∃ entries, merged.get? ["metadata", field] = some (.object entries) ∧
      (Fields.Sorted (Json.children (live.get? ["metadata", field])) → Fields.Sorted entries) ∧
      ∀ key, Fields.get? key entries =
        if desired.kind = "Deployment" ∧ field = "annotations" ∧
            key = "deployment.kubernetes.io/revision" then
          (live.get? ["metadata", field, key]).or (desired.get? ["metadata", field, key])
        else (desired.get? ["metadata", field, key]).or (live.get? ["metadata", field, key])
  untouched {field : String} (hfield : field = "labels" ∨ field = "annotations")
    (hlive : Json.children (live.get? ["metadata", field]) = []) :
    merged.get? ["metadata", field] = desired.get? ["metadata", field]
  clusterIP (h : desired.kind = "Service") : merged.get? ["spec", "clusterIP"] =
    (live.get? ["spec", "clusterIP"]).or (desired.get? ["spec", "clusterIP"])
  secrets (h : desired.kind = "ServiceAccount") :
    merged.get? ["secrets"] = (live.get? ["secrets"]).or (desired.get? ["secrets"])
  beyond {q : KeyPath} (h : ∀ p, Written desired.kind p → p.Apart q) :
    merged.get? q = desired.get? q
  id_eq : merged.id = desired.id
  apiVersion_eq : merged.apiVersion = desired.apiVersion

theorem ownedPath?_eq_field {kind key : String} :
    ownedPath? kind = some ["metadata", field, key] ↔ kind = "Deployment" ∧
      field = "annotations" ∧ key = "deployment.kubernetes.io/revision" := by
  unfold ownedPath?
  split
  · next hkind => simp [hkind, deploymentRevisionKey, eq_comm]
  · next hkind => split <;> simp [hkind]

theorem written_of_ownedPath? {kind : String} (h : ownedPath? kind = some p) :
    ∃ q, Written kind q ∧ q <+: p := by
  unfold ownedPath? at h
  split at h
  · cases h
    exact ⟨_, .annotations, [deploymentRevisionKey], rfl⟩
  split at h
  · next hkind =>
    cases h
    exact ⟨_, .clusterIP hkind, List.prefix_rfl⟩
  split at h
  · next hkind =>
    cases h
    exact ⟨_, .secrets hkind, List.prefix_rfl⟩
  · cases h

theorem Merges.get?_of_unwritten {q : KeyPath} (h : Merges live desired merged)
    (hq : ∀ p, Written desired.kind p → p.Apart q) : merged.get? q = desired.get? q := by
  refine h.beyond (fun key hkey => hq _ (.runtime hkey)) (hq _ .labels) (hq _ .annotations)
    fun p hp => ?_
  obtain ⟨r, hwritten, hprefix⟩ := written_of_ownedPath? hp
  exact (hq r hwritten).extend hprefix

theorem outcome (live desired : Manifest) :
    Outcome live desired (mergeMetadata live (keepOwned live desired)) where
  runtime h := (merges live desired).runtime h
  united {field} hfield hlive := by
    have hmerges := merges live desired
    have hmapping : (mergeMetadata live (keepOwned live desired)).get? ["metadata", field] = _ :=
      get?_mergeMetadata_same hfield
    rw [get?_uniteLive_same (by simp), if_neg hlive] at hmapping
    refine ⟨_, hmapping, fun hsorted => Fields.sorted_union hsorted _, fun key => ?_⟩
    have hentry := (mergeMetadata live (keepOwned live desired)).get?_concat
      (p := ["metadata", field]) (by simp) key
    rw [fields?_eq_some.mpr hmapping, Option.getD_some] at hentry
    rw [← hentry]
    split
    · next hrevision => exact hmerges.owned (ownedPath?_eq_field.mpr hrevision)
    · next hother => exact hmerges.united hfield (mt ownedPath?_eq_field.mp hother)
  untouched {field} hfield hlive := by
    rw [get?_mergeMetadata_same hfield, get?_uniteLive_same (by simp), if_pos hlive,
      get?_keepOwned_field hfield hlive]
  clusterIP h := (merges live desired).owned (by simp [h, ownedPath?])
  secrets h := (merges live desired).owned (by simp [h, ownedPath?])
  beyond h := (merges live desired).get?_of_unwritten h
  id_eq := (merges live desired).id_eq
  apiVersion_eq := by
    have hget := (merges live desired).get?_of_unwritten (q := ["apiVersion"]) fun p hp => by
      cases hp <;> simp [KeyPath.apart_cons_cons]
    rw [apiVersion, apiVersion, text?, text?, hget]

/-- A merge refuses an object with another identity, and leaves it alone; it merges every other one,
and then each value of the result is accounted for. -/
theorem mergeInto_cases (live desired : Manifest) :
    (live.id ≠ desired.id ∧ (mergeInto live).run desired =
      (.error (.unsupported desired.id ("cannot merge with " ++ live.id.text)), desired)) ∨
      (live.id = desired.id ∧ ∃ merged, (mergeInto live).run desired = (.ok (), merged) ∧
        Outcome live desired merged) := by
  by_cases hid : live.id = desired.id
  · exact .inr ⟨hid, _, by rw [run_mergeInto, if_pos hid], outcome live desired⟩
  · exact .inl ⟨hid, by rw [run_mergeInto, if_neg hid]⟩

end Manifest

end OverlayConfig
