import OverlayConfig.Manifest.Merge
import OverlayConfig.Proofs.Manifest.Path
/-!
Merging back what the cluster has set. A live object that differs from the desired one only where
the cluster owns the values is left as it is by the merge. The merge visits the places of the
cluster one after the other, and each visit takes over the changes made at and under its place.
-/
set_option autoImplicit false

namespace OverlayConfig

namespace Manifest

def setAll (edits : List (KeyPath × Json)) (object : Manifest) : Manifest :=
  edits.foldl (fun o e => o.set e.1 e.2) object

/-- The places whose values the cluster may set: runtime metadata, labels and annotations that the
object does not have itself, and what belongs to the cluster in objects of its kind. -/
inductive ServerOwned (object : Manifest) : KeyPath → Prop
  | runtime {key : String}
      (h : key ∈ ["creationTimestamp", "selfLink", "generation", "uid", "resourceVersion"]) :
      ServerOwned object ["metadata", key]
  | label {key : String} (h : object.get? ["metadata", "labels", key] = none) :
      ServerOwned object ["metadata", "labels", key]
  | annotation {key : String} (h : object.get? ["metadata", "annotations", key] = none) :
      ServerOwned object ["metadata", "annotations", key]
  | revision (h : object.kind = "Deployment") :
      ServerOwned object ["metadata", "annotations", "deployment.kubernetes.io/revision"]
  | clusterIP (h : object.kind = "Service") : ServerOwned object ["spec", "clusterIP"]
  | secrets (h : object.kind = "ServiceAccount") : ServerOwned object ["secrets"]

inductive Added (object : Manifest) : KeyPath → Prop
  | runtime {key : String} (h : key ∈ runtimeMetadata) : Added object ["metadata", key]
  | united {field key : String} (hfield : field = "labels" ∨ field = "annotations")
      (h : object.get? ["metadata", field, key] = none) : Added object ["metadata", field, key]

theorem ServerOwned.owned_or_added {object : Manifest} {path : KeyPath}
    (h : object.ServerOwned path) : ownedPath? object.kind = some path ∨ object.Added path := by
  cases h with
  | runtime h => exact .inr (.runtime h)
  | label h => exact .inr (.united (.inl rfl) h)
  | annotation h => exact .inr (.united (.inr rfl) h)
  | revision h => exact .inl (by simp [ownedPath?, h, deploymentRevisionKey])
  | clusterIP h => exact .inl (by simp [ownedPath?, h])
  | secrets h => exact .inl (by simp [ownedPath?, h])

section SetAll

variable {object : Manifest} {p : KeyPath} {edits : List (KeyPath × Json)}

@[simp] theorem setAll_cons (e : KeyPath × Json) :
    object.setAll (e :: edits) = (object.set e.1 e.2).setAll edits := rfl

def beyond (p : KeyPath) (edits : List (KeyPath × Json)) : List (KeyPath × Json) :=
  edits.filter fun e => ¬ p <+: e.1

theorem mem_beyond {e : KeyPath × Json} : e ∈ beyond p edits ↔ e ∈ edits ∧ ¬ p <+: e.1 := by
  simp [beyond]

def NoneAbove (p : KeyPath) (edits : List (KeyPath × Json)) : Prop :=
  ∀ e ∈ edits, p <+: e.1 ∨ p.Apart e.1

theorem get?_setAll_apart (h : ∀ e ∈ edits, p.Apart e.1) :
    (object.setAll edits).get? p = object.get? p := by
  induction edits generalizing object with
  | nil => rfl
  | cons e rest ih =>
    rw [setAll_cons, ih fun e he => h e (.tail _ he), get?_set_apart (h e (.head _)).symm]

theorem isSome_get?_setAll (hp : p ≠ []) (h : NoneAbove p edits) (hsome : (object.get? p).isSome) :
    ((object.setAll edits).get? p).isSome := by
  induction edits generalizing object with
  | nil => exact hsome
  | cons e rest ih =>
    refine ih (fun e he => h e (.tail _ he)) ?_
    rcases h e (.head _) with hpre | hapart
    · have he : e.1 ≠ [] := fun h0 => hp (List.prefix_nil.mp (h0 ▸ hpre))
      exact isSome_get?_above hpre hp (by simp [get?_set_same he])
    · rwa [get?_set_apart hapart.symm]

theorem isSome_get?_of_mem (object : Manifest) (hp : p ≠ []) (h : NoneAbove p edits)
    {e : KeyPath × Json} (he : e ∈ edits) (hpre : p <+: e.1) :
    ((object.setAll edits).get? p).isSome := by
  induction edits generalizing object with
  | nil => cases he
  | cons first rest ih =>
    have hrest : NoneAbove p rest := fun e he => h e (.tail _ he)
    rw [setAll_cons]
    rcases List.mem_cons.mp he with heq | he
    · rw [heq] at hpre
      have hne : first.1 ≠ [] := fun h0 => hp (List.prefix_nil.mp (h0 ▸ hpre))
      exact isSome_get?_setAll hp hrest (isSome_get?_above hpre hp (by simp [get?_set_same hne]))
    · exact ih _ hrest he

/-- A value set last at a path could as well be set first, before the changes beyond it. -/
theorem set_setAll (v : Json) (hp : p ≠ []) (h : NoneAbove p edits) :
    (object.setAll edits).set p v = (object.set p v).setAll (beyond p edits) := by
  induction edits generalizing object with
  | nil => rfl
  | cons e rest ih =>
    rw [setAll_cons, ih fun e he => h e (.tail _ he)]
    rcases h e (.head _) with hpre | hapart
    · rw [set_set_under hpre hp, beyond, beyond, List.filter_cons_of_neg (by simpa using hpre)]
    · rw [set_comm hapart, beyond, beyond, List.filter_cons_of_pos (by simpa using hapart.1),
        setAll_cons]

theorem setAll_keepLive (hp : p ≠ []) (h : NoneAbove p edits) :
    (keepLive p (object.setAll edits) object).setAll (beyond p edits) = object.setAll edits := by
  unfold keepLive
  split
  · next v hv => rw [← set_setAll v hp h, set_of_get? hv]
  · next hnone =>
    have hall : beyond p edits = edits := by
      refine List.filter_eq_self.mpr fun e he => decide_eq_true fun hpre => ?_
      have hsome := isSome_get?_of_mem object hp h he hpre
      simp [hnone] at hsome
    rw [hall]

theorem get?_keepLive_apart {live : Manifest} {q : KeyPath} (h : p.Apart q) :
    (keepLive p live object).get? q = object.get? q := by
  unfold keepLive
  split
  · exact get?_set_apart h
  · rfl

end SetAll

section Added

variable {object : Manifest} {path other : KeyPath}

theorem runtime_ne_united {key field : String} (hkey : key ∈ runtimeMetadata)
    (hfield : field = "labels" ∨ field = "annotations") : key ≠ field := by
  rintro rfl
  rcases hfield with rfl | rfl <;> simp [runtimeMetadata] at hkey

theorem Added.keepLive {live : Manifest} {p : KeyPath} (h : object.Added path)
    (hapart : p.Apart path) : (keepLive p live object).Added path := by
  cases h with
  | runtime hkey => exact .runtime hkey
  | united hfield hnone => exact .united hfield (by rwa [get?_keepLive_apart hapart])

theorem Added.eq_or_apart (h : object.Added path) (h' : object.Added other) :
    path = other ∨ path.Apart other := by
  cases h with
  | @runtime key hkey =>
    cases h' with
    | @runtime key' hkey' => by_cases hk : key = key' <;> simp [KeyPath.apart_cons_cons, hk]
    | united hfield => simp [KeyPath.apart_cons_cons, runtime_ne_united hkey hfield]
  | @united field key hfield =>
    cases h' with
    | runtime hkey => simp [KeyPath.apart_cons_cons, (runtime_ne_united hkey hfield).symm]
    | @united field' key' hfield' =>
      by_cases hf : field = field' <;> by_cases hk : key = key' <;>
        simp [KeyPath.apart_cons_cons, hf, hk]

theorem Added.under_or_apart {field : String} (h : object.Added path)
    (hfield : field = "labels" ∨ field = "annotations") :
    (∃ key, path = ["metadata", field, key]) ∨ KeyPath.Apart ["metadata", field] path := by
  cases h with
  | runtime hkey => simp [KeyPath.apart_cons_cons, (runtime_ne_united hkey hfield).symm]
  | @united field' key hfield' =>
    by_cases hf : field = field' <;> simp [KeyPath.apart_cons_cons, hf]

theorem Added.apart_united {field key : String} {v : Json} (h : object.Added path)
    (hfield : field = "labels" ∨ field = "annotations")
    (hv : object.get? ["metadata", field, key] = some v) :
    KeyPath.Apart ["metadata", field, key] path := by
  cases h with
  | runtime hkey => simp [KeyPath.apart_cons_cons, (runtime_ne_united hkey hfield).symm]
  | @united field' key' hfield' hnone =>
    have hk : field = field' → key ≠ key' := by
      rintro rfl rfl
      simp [hv] at hnone
    simpa [KeyPath.apart_cons_cons] using hk

end Added

theorem get?_concat (object : Manifest) {p : KeyPath} (hp : p ≠ []) (k : String) :
    object.get? (p ++ [k]) = ((object.fields? p).getD []).get? k := by
  rw [get?_eq_reach (by simp), Json.reach_append, ← get?_eq_reach hp]
  rfl

theorem fields?_eq_some {object : Manifest} {p : KeyPath} {fields : Fields Json} :
    object.fields? p = some fields ↔ object.get? p = some (.object fields) := by
  rw [fields?]
  cases object.get? p with
  | none => simp
  | some v => cases v <;> simp [Json.fields?]

/-- The live object comes from the desired one by changes at the places of the cluster. -/
structure Pending (live desired : Manifest) (edits : List (KeyPath × Json)) : Prop where
  setAll_eq : desired.setAll edits = live
  added : ∀ e ∈ edits, desired.Added e.1

namespace Pending

variable {live desired : Manifest} {edits : List (KeyPath × Json)}

theorem keepLive {p : KeyPath} (h : Pending live desired edits) (hp : p ≠ [])
    (habove : NoneAbove p edits) :
    Pending live (keepLive p live desired) (beyond p edits) := by
  refine ⟨?_, fun e he => ?_⟩
  · rw [← h.setAll_eq]
    exact setAll_keepLive hp habove
  · obtain ⟨hmem, hpre⟩ := mem_beyond.mp he
    exact (h.added e hmem).keepLive ((habove e hmem).resolve_left hpre)

theorem noneAbove_added {path : KeyPath} (h : Pending live desired edits)
    (hpath : desired.Added path) : NoneAbove path edits :=
  fun e he => (hpath.eq_or_apart (h.added e he)).imp_left fun heq => by simp [heq]

theorem matchLive {key : String} (h : Pending live desired edits) (hkey : key ∈ runtimeMetadata) :
    Pending live (matchLive ["metadata", key] live desired) (beyond ["metadata", key] edits) := by
  have habove := h.noneAbove_added (.runtime hkey)
  have heq : Manifest.matchLive ["metadata", key] live desired =
      Manifest.keepLive ["metadata", key] live desired := by
    unfold Manifest.matchLive Manifest.keepLive
    split
    · rfl
    · next hnone =>
      refine remove_of_get?_none (Option.not_isSome_iff_eq_none.mp fun hsome => ?_)
      have hlive := isSome_get?_setAll (by simp) habove hsome
      simp [h.setAll_eq, hnone] at hlive
  rw [heq]
  exact h.keepLive (by simp) habove

theorem foldl_matchLive {keys : List String} (h : Pending live desired edits)
    (hkeys : keys ⊆ runtimeMetadata) :
    ∃ rest, Pending live
        (keys.foldl (fun d key => Manifest.matchLive ["metadata", key] live d) desired) rest ∧
      ∀ e ∈ rest, e ∈ edits ∧ ∀ key ∈ keys, ¬ ["metadata", key] <+: e.1 := by
  induction keys generalizing desired edits with
  | nil => exact ⟨edits, h, by simp⟩
  | cons key keys ih =>
    obtain ⟨hkey, hkeys⟩ := List.cons_subset.mp hkeys
    obtain ⟨rest, hrest, hleft⟩ := ih (h.matchLive hkey) hkeys
    refine ⟨rest, hrest, fun e he => ?_⟩
    obtain ⟨hmem, hnone⟩ := hleft e he
    obtain ⟨hmem, hfirst⟩ := mem_beyond.mp hmem
    exact ⟨hmem, List.forall_mem_cons.mpr ⟨hfirst, hnone⟩⟩

section Unite

variable {field : String}

theorem get?_united {key : String} {v : Json} (h : Pending live desired edits)
    (hfield : field = "labels" ∨ field = "annotations")
    (hv : desired.get? ["metadata", field, key] = some v) :
    live.get? ["metadata", field, key] = some v := by
  rw [← h.setAll_eq, get?_setAll_apart fun e he => (h.added e he).apart_united hfield hv, hv]

theorem apart_of_fields?_empty (h : Pending live desired edits)
    (hfield : field = "labels" ∨ field = "annotations")
    (hempty : (live.fields? ["metadata", field]).getD [] = []) :
    ∀ e ∈ edits, KeyPath.Apart ["metadata", field] e.1 := by
  intro e he
  refine ((h.added e he).under_or_apart hfield).resolve_left ?_
  rintro ⟨key, hkey⟩
  have hsome := isSome_get?_of_mem desired (by simp [hkey])
    (h.noneAbove_added (h.added e he)) he List.prefix_rfl
  rw [h.setAll_eq, hkey] at hsome
  have hnone := live.get?_concat (p := ["metadata", field]) (by simp) key
  simp [hempty] at hnone
  simp [hnone] at hsome

theorem uniteLive_eq_keepLive (h : Pending live desired edits)
    (hfield : field = "labels" ∨ field = "annotations") :
    uniteLive ["metadata", field] live desired =
      Manifest.keepLive ["metadata", field] live desired := by
  have hsame (hempty : (live.fields? ["metadata", field]).getD [] = []) :
      Manifest.keepLive ["metadata", field] live desired = desired := by
    have hget : live.get? ["metadata", field] = desired.get? ["metadata", field] := by
      rw [← h.setAll_eq]
      exact get?_setAll_apart (h.apart_of_fields?_empty hfield hempty)
    unfold Manifest.keepLive
    split
    · next v hv => exact set_of_get? (hget ▸ hv)
    · rfl
  unfold uniteLive
  split
  · next hnone => exact (hsame (by simp [hnone])).symm
  · next hnil => exact (hsame (by simp [hnil])).symm
  · next fields hne hfields =>
    have hunion : Fields.union fields ((desired.fields? ["metadata", field]).getD []) = fields := by
      refine Fields.union_of_get? fun k v hk => ?_
      rw [← get?_concat desired (by simp)] at hk
      have hlive := h.get?_united hfield hk
      have hconcat := live.get?_concat (p := ["metadata", field]) (by simp) k
      rw [hfields] at hconcat
      exact hconcat.symm.trans hlive
    rw [hunion, Manifest.keepLive, fields?_eq_some.mp hfields]

theorem uniteLive (h : Pending live desired edits)
    (hfield : field = "labels" ∨ field = "annotations") :
    Pending live (uniteLive ["metadata", field] live desired)
      (beyond ["metadata", field] edits) := by
  rw [h.uniteLive_eq_keepLive hfield]
  refine h.keepLive (by simp) fun e he => ?_
  refine ((h.added e he).under_or_apart hfield).imp_left ?_
  rintro ⟨key, hkey⟩
  simp [hkey]

end Unite

theorem mergeMetadata_eq (h : Pending live desired edits) : mergeMetadata live desired = live := by
  obtain ⟨rest, hrest, hruntime⟩ := h.foldl_matchLive (List.Subset.refl runtimeMetadata)
  have hlabels := hrest.uniteLive (.inl rfl)
  have hall := hlabels.uniteLive (.inr rfl)
  have hnil : beyond ["metadata", "annotations"] (beyond ["metadata", "labels"] rest) = [] := by
    refine List.eq_nil_iff_forall_not_mem.mpr fun e he => ?_
    obtain ⟨he, hannotations⟩ := mem_beyond.mp he
    obtain ⟨he, hlabels⟩ := mem_beyond.mp he
    rcases e with ⟨path, v⟩
    cases hrest.added _ he with
    | runtime hkey => exact (hruntime _ he).2 _ hkey List.prefix_rfl
    | united hfield hnone => rcases hfield with rfl | rfl <;> simp_all
  rw [hnil] at hall
  exact hall.setAll_eq

end Pending

section ServerOwned

variable {object : Manifest} {edits : List (KeyPath × Json)}

theorem ownedPath?_cases {kind : String} {p : KeyPath} (h : ownedPath? kind = some p) :
    p = ["metadata", "annotations", deploymentRevisionKey] ∨ p = ["spec", "clusterIP"] ∨
      p = ["secrets"] := by
  unfold ownedPath? at h
  grind

theorem ServerOwned.owned_or_apart {path p : KeyPath} (h : object.ServerOwned path)
    (howned : ownedPath? object.kind = some p) : p = path ∨ p.Apart path := by
  rcases h.owned_or_added with heq | hadded
  · exact .inl (Option.some.inj (howned.symm.trans heq))
  · cases hadded with
    | runtime hkey =>
      have hk := runtime_ne_united hkey (.inr rfl)
      rcases ownedPath?_cases howned with rfl | rfl | rfl <;>
        simp [KeyPath.apart_cons_cons, hk.symm]
    | @united field key =>
      by_cases hf : "annotations" = field <;> by_cases hk : deploymentRevisionKey = key <;>
        rcases ownedPath?_cases howned with rfl | rfl | rfl <;>
        simp [KeyPath.apart_cons_cons, hf, hk]

/-- The first step of a merge takes over what belongs to the cluster in objects of the kind. -/
theorem keepOwned_pending (h : ∀ e ∈ edits, object.ServerOwned e.1) :
    ∃ rest, Pending (object.setAll edits) (keepOwned (object.setAll edits) object) rest := by
  unfold keepOwned
  -- the edits under the path that the kind keeps are done by this step, all others are left
  split
  · next p howned =>
    have hp : p ≠ [] := by rcases ownedPath?_cases howned with rfl | rfl | rfl <;> simp
    have habove : NoneAbove p edits := fun e he =>
      ((h e he).owned_or_apart howned).imp_left fun heq => by simp [heq]
    refine ⟨beyond p edits, setAll_keepLive hp habove, fun e he => ?_⟩
    obtain ⟨hmem, hpre⟩ := mem_beyond.mp he
    have hadded := (h e hmem).owned_or_added.resolve_left fun heq =>
      hpre (by simp [Option.some.inj (howned.symm.trans heq)])
    exact hadded.keepLive ((habove e hmem).resolve_left hpre)
  · next hnone =>
    exact ⟨edits, rfl, fun e he => (h e he).owned_or_added.resolve_left (by simp [hnone])⟩

theorem ServerOwned.apart_id {path p : KeyPath} (h : object.ServerOwned path)
    (hp : p ∈ [["kind"], ["metadata", "namespace"], ["metadata", "name"]]) : p.Apart path := by
  simp only [List.mem_cons, List.not_mem_nil, or_false] at hp
  cases h with
  | @runtime key hkey =>
    have hns : "namespace" ≠ key := by rintro rfl; simp at hkey
    have hname : "name" ≠ key := by rintro rfl; simp at hkey
    rcases hp with rfl | rfl | rfl <;> simp [KeyPath.apart_cons_cons, hns, hname]
  | _ => rcases hp with rfl | rfl | rfl <;> simp [KeyPath.apart_cons_cons]

theorem id_setAll (h : ∀ e ∈ edits, object.ServerOwned e.1) :
    (object.setAll edits).id = object.id := by
  have hget {p : KeyPath} (hp : p ∈ [["kind"], ["metadata", "namespace"], ["metadata", "name"]]) :
      (object.setAll edits).get? p = object.get? p :=
    get?_setAll_apart fun e he => (h e he).apart_id hp
  simp [id, kind, namespaceName, name, text?, hget]

end ServerOwned

/-- Merging a live object into the desired one gives the live object back, when they differ by
changes at places of the cluster only; so an object merged with itself stays what it is. -/
theorem merge_setAll (desired : Manifest) :
    (∀ edits : List (KeyPath × Json), (∀ e ∈ edits, desired.ServerOwned e.1) →
      merge (desired.setAll edits) desired = .ok (desired.setAll edits)) ∧
      merge desired desired = .ok desired := by
  have hmerge (edits : List (KeyPath × Json)) (h : ∀ e ∈ edits, desired.ServerOwned e.1) :
      merge (desired.setAll edits) desired = .ok (desired.setAll edits) := by
    obtain ⟨rest, hrest⟩ := keepOwned_pending h
    rw [merge_eq, if_pos (id_setAll h), hrest.mergeMetadata_eq]
  exact ⟨hmerge, hmerge [] (by simp)⟩

def bareService : Manifest :=
  ⟨[("kind", .string "Service"), ("metadata", .object [("labels", .null)])]⟩

def serviceChanges : List (KeyPath × Json) :=
  [(["metadata", "uid"], .string "42"), (["spec", "clusterIP"], .string "10.0.0.1"),
    (["metadata", "labels", "app"], .null)]

theorem merge_setAll_service :
    (∀ e ∈ serviceChanges, bareService.ServerOwned e.1) ∧
      bareService.setAll serviceChanges ≠ bareService ∧
      merge (bareService.setAll serviceChanges) bareService =
        .ok (bareService.setAll serviceChanges) := by
  have howned : ∀ e ∈ serviceChanges, bareService.ServerOwned e.1 := by
    simp only [serviceChanges, List.forall_mem_cons, List.not_mem_nil, false_implies, implies_true,
      and_true]
    exact ⟨.runtime (by simp), .clusterIP (by decide), .label (by decide)⟩
  exact ⟨howned, by decide, (merge_setAll bareService).1 serviceChanges howned⟩

end Manifest

end OverlayConfig
