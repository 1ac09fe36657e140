import OverlayConfig.Proofs.Manifest.Merged
/-!
Merging again. A merged object has taken in all that the live object has to give, and it gives all
of that back when it is the live object itself. Each step of a merge has both laws at its path.
-/
set_option autoImplicit false

namespace OverlayConfig

namespace Manifest

variable {live object desired merged : Manifest} {p : KeyPath}

section Taken

theorem keepLive_of_get? (h : ∀ v, live.get? p = some v → object.get? p = some v) :
    keepLive p live object = object := by
  unfold keepLive
  split
  · next v hv => exact set_of_get? (h v hv)
  · rfl

theorem matchLive_of_get? (h : object.get? p = live.get? p) : matchLive p live object = object := by
  unfold matchLive
  split
  · next v hv => exact set_of_get? (h.trans hv)
  · next hnone => exact remove_of_get?_none (h.trans hnone)

theorem foldl_matchLive_of_get? {keys : List String}
    (h : ∀ key ∈ keys, object.get? ["metadata", key] = live.get? ["metadata", key]) :
    keys.foldl (fun d key => matchLive ["metadata", key] live d) object = object := by
  induction keys with
  | nil => rfl
  | cons key keys ih =>
    obtain ⟨hkey, hkeys⟩ := List.forall_mem_cons.mp h
    rw [List.foldl_cons, matchLive_of_get? hkey, ih hkeys]

theorem uniteLive_of_get? (hp : p ≠ []) (h : object.get? p = (uniteLive p live desired).get? p) :
    uniteLive p live object = object := by
  rw [get?_uniteLive_same hp] at h
  rw [uniteLive_eq]
  split
  · rfl
  · next hlive =>
    rw [if_neg hlive] at h
    rw [h, Json.children_object, Fields.union_union]
    exact set_of_get? h

end Taken

section Given

/-- A merged object gives the value that the live object gave, or else the one that was there. -/
theorem keepLive_of_merged (h : merged.get? p = (live.get? p).or (object.get? p)) :
    keepLive p merged object = keepLive p live object := by
  cases hlive : live.get? p with
  | some v =>
    rw [hlive, Option.some_or] at h
    rw [keepLive, keepLive, h, hlive]
  | none =>
    rw [hlive, Option.none_or] at h
    rw [keepLive_of_get? fun v hv => h.symm.trans hv, keepLive, hlive]

theorem foldl_matchLive_of_merged {keys : List String}
    (h : ∀ key ∈ keys, merged.get? ["metadata", key] = live.get? ["metadata", key])
    (object : Manifest) :
    keys.foldl (fun d key => matchLive ["metadata", key] merged d) object =
      keys.foldl (fun d key => matchLive ["metadata", key] live d) object := by
  induction keys generalizing object with
  | nil => rfl
  | cons key keys ih =>
    obtain ⟨hkey, hkeys⟩ := List.forall_mem_cons.mp h
    have hsame : matchLive ["metadata", key] merged object =
        matchLive ["metadata", key] live object := by
      rw [matchLive, matchLive, hkey]
    rw [List.foldl_cons, List.foldl_cons, hsame, ih hkeys]

/-- The union with a live mapping is the same as the union with that union. Where there is no live
mapping the object has its own one united with itself. -/
theorem uniteLive_of_merged (hp : p ≠ []) (h : merged.get? p = (uniteLive p live object).get? p) :
    uniteLive p merged object = uniteLive p live object := by
  rw [get?_uniteLive_same hp] at h
  by_cases hlive : Json.children (live.get? p) = []
  · rw [if_pos hlive] at h
    rw [uniteLive_eq p live, if_pos hlive, uniteLive_eq, h]
    split
    · rfl
    · next hobject =>
      rw [Fields.union_of_get? fun _ _ hk => hk]
      refine set_of_get? ?_
      cases hget : object.get? p with
      | none => simp [hget] at hobject
      | some v => cases v <;> simp_all [Json.children, Json.fields?]
  · rw [if_neg hlive] at h
    rw [uniteLive_eq p live, if_neg hlive, uniteLive_eq, h, Json.children_object,
      if_neg (mt Fields.union_eq_nil hlive), Fields.union_union_self]

end Given

section Metadata

theorem mergeMetadata_mergeMetadata (live object : Manifest) :
    mergeMetadata live (mergeMetadata live object) = mergeMetadata live object := by
  have hruntime : ∀ key ∈ runtimeMetadata, (mergeMetadata live object).get? ["metadata", key] =
      live.get? ["metadata", key] := fun key hkey => get?_mergeMetadata_runtime hkey
  rw [mergeMetadata, foldl_matchLive_of_get? hruntime,
    uniteLive_of_get? (by simp) (get?_mergeMetadata_same (.inl rfl)),
    uniteLive_of_get? (by simp) (get?_mergeMetadata_same (.inr rfl))]

theorem mergeMetadata_of_merged (live object : Manifest) :
    mergeMetadata (mergeMetadata live object) object = mergeMetadata live object := by
  have hruntime : ∀ key ∈ runtimeMetadata, (mergeMetadata live object).get? ["metadata", key] =
      live.get? ["metadata", key] := fun key hkey => get?_mergeMetadata_runtime hkey
  have hlabels : (mergeMetadata live object).get? ["metadata", "labels"] =
      (uniteLive ["metadata", "labels"] live
        (runtimeMetadata.foldl (fun d key => matchLive ["metadata", key] live d) object)).get?
          ["metadata", "labels"] := get?_uniteLive_apart (by decide)
  rw [mergeMetadata.eq_1 (mergeMetadata live object), foldl_matchLive_of_merged hruntime,
    uniteLive_of_merged (by simp) hlabels]
  exact uniteLive_of_merged (by simp) rfl

end Metadata

theorem keepOwned_of_merges (h : Merges live desired merged) : keepOwned live merged = merged := by
  have hkind : merged.kind = desired.kind := congrArg ObjectId.kind h.id_eq
  unfold keepOwned
  split
  · next p hp => exact keepLive_of_get? fun v hv => h.owned_of_live (hkind ▸ hp) hv
  · rfl

theorem keepOwned_of_merged (h : Merges live desired merged) :
    keepOwned merged desired = keepOwned live desired := by
  unfold keepOwned
  split
  · next p hp => exact keepLive_of_merged (h.owned hp)
  · rfl

/-- A merge is done after one step: to merge its result with the live object again, or to merge the
desired object into its result, gives that result. -/
theorem merge_again (h : live.id = desired.id) :
    ∃ merged, merge live desired = .ok merged ∧ merge live merged = .ok merged ∧
      merge merged desired = .ok merged := by
  have hmerges := merges live desired
  refine ⟨mergeMetadata live (keepOwned live desired), merge_eq_ok.mpr ⟨h, rfl⟩,
    merge_eq_ok.mpr ⟨h.trans hmerges.id_eq.symm, ?_⟩, merge_eq_ok.mpr ⟨hmerges.id_eq, ?_⟩⟩
  · rw [keepOwned_of_merges hmerges, mergeMetadata_mergeMetadata]
  · rw [keepOwned_of_merged hmerges, mergeMetadata_of_merged]

theorem merge_again_deployment :
    storedDeployment.id = staleDeployment.id ∧
      (merge storedDeployment staleDeployment).toOption ≠ some staleDeployment ∧
      ∃ merged, merge storedDeployment staleDeployment = .ok merged ∧
        merge storedDeployment merged = .ok merged ∧ merge merged staleDeployment = .ok merged :=
  ⟨by decide, by decide, merge_again (by decide)⟩

end Manifest

end OverlayConfig
