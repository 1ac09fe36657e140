import OverlayConfig.Manifest.Object
import OverlayConfig.Proofs.Fields
/-!
Laws of paths. Two paths are apart when neither is a prefix of the other. What is set at a path is
found there and under every prefix, and is not seen at the paths apart from it. What is removed at a
path is gone there, and all else stays.
-/
set_option autoImplicit false

namespace OverlayConfig

/-- Neither of two paths is a prefix of the other. -/
def KeyPath.Apart (p q : KeyPath) : Prop := ¬ p <+: q ∧ ¬ q <+: p

theorem KeyPath.Apart.symm {p q : KeyPath} (h : p.Apart q) : q.Apart p := ⟨h.2, h.1⟩

instance (p q : KeyPath) : Decidable (p.Apart q) := inferInstanceAs (Decidable (_ ∧ _))

@[simp] theorem KeyPath.not_apart_nil (p : KeyPath) : ¬ p.Apart [] := fun h => h.2 p.nil_prefix

@[simp] theorem KeyPath.not_nil_apart (p : KeyPath) : ¬ KeyPath.Apart [] p :=
  fun h => h.1 p.nil_prefix

theorem KeyPath.apart_cons_cons {k j : String} {p q : KeyPath} :
    KeyPath.Apart (k :: p) (j :: q) ↔ (k = j → p.Apart q) := by
  by_cases h : k = j
  · simp [Apart, h, List.cons_prefix_cons]
  · simp [Apart, h, Ne.symm h, List.cons_prefix_cons]

theorem KeyPath.Apart.extend {p q r : KeyPath} (h : p.Apart q) (hr : p <+: r) : r.Apart q := by
  refine ⟨fun hrq => h.1 (hr.trans hrq), fun hqr => ?_⟩
  rcases List.prefix_or_prefix_of_prefix hr hqr with hpq | hqp
  · exact h.1 hpq
  · exact h.2 hqp

namespace Json

def children (place : Option Json) : Fields Json := (place.bind fields?).getD []

@[simp] theorem children_object (fields : Fields Json) :
    children (some (.object fields)) = fields := rfl

@[simp] theorem children_none : children none = [] := rfl

def reach : KeyPath → Option Json → Option Json
  | [], place => place
  | k :: rest, place => reach rest ((children place).get? k)

/-- The value of a place after a value has been set at a path from it. -/
def graft (v : Json) : KeyPath → Option Json → Json
  | [], _ => v
  | k :: rest, place =>
    .object ((children place).insert k (graft v rest ((children place).get? k)))

@[simp] theorem reach_none (path : KeyPath) : reach path none = none := by
  induction path with
  | nil => rfl
  | cons k rest ih => exact ih

theorem reach_append (p q : KeyPath) (place : Option Json) :
    reach (p ++ q) place = reach q (reach p place) := by
  induction p generalizing place with
  | nil => rfl
  | cons k rest ih => exact ih _

theorem reach_graft (v : Json) (path : KeyPath) (place : Option Json) :
    reach path (some (graft v path place)) = some v := by
  induction path generalizing place with
  | nil => rfl
  | cons k rest ih => simp [reach, graft, Fields.get?_insert, ih]

theorem reach_graft_apart (v : Json) {p q : KeyPath} (h : p.Apart q) (place : Option Json) :
    reach q (some (graft v p place)) = reach q place := by
  induction p generalizing q place with
  | nil => simp at h
  | cons k rest ih =>
    cases q with
    | nil => simp at h
    | cons j q =>
      simp only [reach, graft, children_object, Fields.get?_insert]
      split
      · next hjk =>
        subst hjk
        exact ih (KeyPath.apart_cons_cons.mp h rfl) _
      · rfl

theorem isSome_reach_above {p q : KeyPath} (h : p <+: q) {place : Option Json}
    (hq : (reach q place).isSome) : (reach p place).isSome := by
  obtain ⟨r, rfl⟩ := h
  rw [reach_append] at hq
  cases hp : reach p place with
  | none => simp [hp] at hq
  | some v => rfl

theorem graft_graft_under (v w : Json) {p q : KeyPath} (h : p <+: q) (place : Option Json) :
    graft v p (some (graft w q place)) = graft v p place := by
  obtain ⟨r, rfl⟩ := h
  induction p generalizing place with
  | nil => rfl
  | cons k rest ih => simp [graft, Fields.get?_insert, Fields.insert_insert, ih]

theorem graft_comm (v w : Json) {p q : KeyPath} (h : p.Apart q) (place : Option Json) :
    graft v p (some (graft w q place)) = graft w q (some (graft v p place)) := by
  induction p generalizing q place with
  | nil => simp at h
  | cons k rest ih =>
    cases q with
    | nil => simp at h
    | cons j q =>
      by_cases hkj : k = j
      · subst hkj
        simp [graft, Fields.get?_insert, Fields.insert_insert,
          ih (KeyPath.apart_cons_cons.mp h rfl)]
      · simp [graft, Fields.get?_insert, hkj, Ne.symm hkj, Fields.insert_comm hkj]

theorem graft_of_reach {v w : Json} {path : KeyPath} (h : reach path (some w) = some v) :
    graft v path (some w) = w := by
  induction path generalizing w with
  | nil => exact (Option.some.inj h).symm
  | cons k rest ih =>
    rw [reach] at h
    cases hk : (children (some w)).get? k with
    | none => simp [hk] at h
    | some u =>
      rw [hk] at h
      rw [graft, hk, ih h, Fields.insert_of_get? hk]
      cases w <;> simp_all [children, fields?]

def prune (path : KeyPath) : Json → Json
  | .object fields => .object (Fields.detach path fields).2
  | v => v

end Json

namespace Fields

theorem lookup_eq_reach {path : KeyPath} (h : path ≠ []) (fields : Fields Json) :
    fields.lookup path = Json.reach path (some (.object fields)) := by
  induction path generalizing fields with
  | nil => exact absurd rfl h
  | cons k rest ih =>
    cases rest with
    | nil => rfl
    | cons j rest =>
      cases hk : fields.get? k with
      | none => simp [lookup, Json.reach, hk]
      | some v =>
        cases v with
        | object inner => simpa [lookup, Json.reach, hk, Json.fields?] using ih (by simp) inner
        | _ => simp [lookup, Json.reach, hk, Json.fields?, Json.children]

theorem assign_eq_graft (v : Json) {path : KeyPath} (h : path ≠ []) (fields : Fields Json) :
    .object (fields.assign v path) = Json.graft v path (some (.object fields)) := by
  induction path generalizing fields with
  | nil => exact absurd rfl h
  | cons k rest ih =>
    cases rest with
    | nil => rfl
    | cons j rest =>
      have hrest := ih (by simp) (fields.child k)
      simp only [assign, Json.graft, Json.children_object] at hrest ⊢
      rw [hrest]
      rfl

theorem detach_of_lookup_none {path : KeyPath} {fields : Fields Json}
    (h : fields.lookup path = none) : (fields.detach path).2 = fields := by
  induction path generalizing fields with
  | nil => rfl
  | cons k rest ih =>
    cases rest with
    | nil => exact erase_of_get?_none h
    | cons j rest =>
      cases hk : fields.get? k with
      | none => simp [detach, hk]
      | some v =>
        cases v with
        | object inner =>
          have hinner : lookup (j :: rest) inner = none := by
            simpa [lookup, hk, Json.fields?] using h
          simp only [detach, hk, ih hinner]
          exact insert_of_get? hk
        | _ => simp [detach, hk]

theorem detach_fst (path : KeyPath) (fields : Fields Json) :
    (fields.detach path).1 = fields.lookup path := by
  induction path generalizing fields with
  | nil => rfl
  | cons k rest ih =>
    cases rest with
    | nil => rfl
    | cons j rest =>
      cases hk : fields.get? k with
      | none => simp [detach, lookup, hk]
      | some v =>
        cases v with
        | object inner => simpa [detach, lookup, hk, Json.fields?] using ih inner
        | _ => simp [detach, lookup, hk, Json.fields?]

theorem lookup_detach_above {p q : KeyPath} (hp : p ≠ []) (hq : q ≠ []) (fields : Fields Json) :
    (fields.detach (p ++ q)).2.lookup p = (fields.lookup p).map (Json.prune q) := by
  obtain ⟨i, q, rfl⟩ := List.exists_cons_of_ne_nil hq
  induction p generalizing fields with
  | nil => exact absurd rfl hp
  | cons k rest ih =>
    cases hk : fields.get? k with
    | none => cases rest <;> simp [detach, lookup, hk]
    | some v =>
      cases rest with
      | nil => cases v <;> simp [detach, lookup, hk, get?_insert, Json.prune]
      | cons j rest =>
        cases v with
        | object inner =>
          simpa [detach, lookup, hk, get?_insert, Json.fields?] using ih (by simp) inner
        | _ => simp [detach, lookup, hk, Json.fields?]

theorem lookup_detach_same (path : KeyPath) (fields : Fields Json) :
    (fields.detach path).2.lookup path = none := by
  induction path generalizing fields with
  | nil => rfl
  | cons k rest ih =>
    cases rest with
    | nil => simp [detach, lookup, get?_erase]
    | cons j rest =>
      cases hk : fields.get? k with
      | none => simp [detach, lookup, hk]
      | some v =>
        cases v with
        | object inner => simpa [detach, lookup, hk, get?_insert, Json.fields?] using ih inner
        | _ => simp [detach, lookup, hk, Json.fields?]

theorem get?_detach_of_ne {i k : String} (h : i ≠ k) (rest : KeyPath) (fields : Fields Json) :
    get? i (fields.detach (k :: rest)).2 = get? i fields := by
  cases rest with
  | nil => simp [detach, get?_erase, h]
  | cons j rest =>
    cases hk : fields.get? k with
    | none => simp [detach, hk]
    | some v => cases v <;> simp [detach, hk, get?_insert, h]

theorem lookup_detach_apart {p q : KeyPath} (h : p.Apart q) (fields : Fields Json) :
    (fields.detach p).2.lookup q = fields.lookup q := by
  induction p generalizing q fields with
  | nil => simp at h
  | cons k rest ih =>
    cases q with
    | nil => simp at h
    | cons i q =>
      by_cases hki : i = k
      · subst hki
        have hrest := KeyPath.apart_cons_cons.mp h rfl
        -- two paths apart with the same first key both go on
        cases rest with
        | nil => simp at hrest
        | cons j rest =>
          cases q with
          | nil => simp at hrest
          | cons l q =>
            cases hk : fields.get? i with
            | none => simp [detach, hk]
            | some v =>
              cases v with
              | object inner =>
                simpa [detach, lookup, hk, get?_insert, Json.fields?] using ih hrest inner
              | _ => simp [detach, hk]
      · cases q <;> simp [lookup, get?_detach_of_ne hki]

end Fields

namespace Manifest

variable {object : Manifest} {p q : KeyPath} {v w : Json}

theorem toJson_inj {a b : Manifest} : a.toJson = b.toJson ↔ a = b := by
  cases a; cases b; simp [toJson]

theorem get?_eq_reach (h : p ≠ []) : object.get? p = Json.reach p (some object.toJson) :=
  Fields.lookup_eq_reach h object.fields

theorem toJson_set (h : p ≠ []) :
    (object.set p v).toJson = Json.graft v p (some object.toJson) :=
  Fields.assign_eq_graft v h object.fields

@[simp] theorem get?_nil : object.get? [] = none := rfl

theorem get?_set_same (h : p ≠ []) : (object.set p v).get? p = some v := by
  rw [get?_eq_reach h, toJson_set h, Json.reach_graft]

theorem get?_set_apart (h : p.Apart q) : (object.set p v).get? q = object.get? q := by
  have hp : p ≠ [] := by rintro rfl; simp at h
  have hq : q ≠ [] := by rintro rfl; simp at h
  rw [get?_eq_reach hq, toJson_set hp, Json.reach_graft_apart v h, ← get?_eq_reach hq]

theorem isSome_get?_above (h : p <+: q) (hp : p ≠ []) (hq : (object.get? q).isSome) :
    (object.get? p).isSome := by
  have hne : q ≠ [] := by rintro rfl; simp at hq
  rw [get?_eq_reach hne] at hq
  rw [get?_eq_reach hp]
  exact Json.isSome_reach_above h hq

theorem set_set_under (h : p <+: q) (hp : p ≠ []) :
    (object.set q w).set p v = object.set p v := by
  have hq : q ≠ [] := by rintro rfl; exact hp (List.prefix_nil.mp h)
  rw [← toJson_inj, toJson_set hp, toJson_set hq, Json.graft_graft_under v w h, ← toJson_set hp]

theorem set_comm (h : p.Apart q) : (object.set q w).set p v = (object.set p v).set q w := by
  have hp : p ≠ [] := by rintro rfl; simp at h
  have hq : q ≠ [] := by rintro rfl; simp at h
  rw [← toJson_inj, toJson_set hp, toJson_set hq, Json.graft_comm v w h, ← toJson_set hp,
    ← toJson_set hq]

theorem set_of_get? (h : object.get? p = some v) : object.set p v = object := by
  have hp : p ≠ [] := by rintro rfl; simp at h
  rw [get?_eq_reach hp] at h
  rw [← toJson_inj, toJson_set hp, Json.graft_of_reach h]

theorem get?_remove_same : (object.remove p).2.get? p = none :=
  Fields.lookup_detach_same p object.fields

theorem get?_remove_apart (h : p.Apart q) : (object.remove p).2.get? q = object.get? q :=
  Fields.lookup_detach_apart h object.fields

theorem remove_of_get?_none (h : object.get? p = none) : (object.remove p).2 = object := by
  rw [← toJson_inj]
  exact congrArg Json.object (Fields.detach_of_lookup_none h)

theorem remove_fst (object : Manifest) (p : KeyPath) : (object.remove p).1 = object.get? p :=
  Fields.detach_fst p object.fields

theorem get?_remove_above (hp : p ≠ []) (hq : q ≠ []) :
    (object.remove (p ++ q)).2.get? p = (object.get? p).map (Json.prune q) :=
  Fields.lookup_detach_above hp hq object.fields

theorem isSome_get?_remove_above (h : q <+: p) (hne : q ≠ p) :
    ((object.remove p).2.get? q).isSome = (object.get? q).isSome := by
  obtain ⟨rest, rfl⟩ := h
  by_cases hq : q = []
  · simp [hq]
  · have hrest : rest ≠ [] := by simpa using hne
    rw [get?_remove_above hq hrest, Option.isSome_map]

/-- What was set at a path is read there, the last of two settings counts, and setting what is there
changes nothing. Paths of which neither is a prefix of the other do not touch each other, whatever
stands on the way. What is removed is what was there; it is gone afterwards, the mappings on the way
to it stay, and where nothing was there nothing changes. -/
theorem path_laws (object : Manifest) {p : KeyPath} (hp : p ≠ []) (v : Json) :
    (object.set p v).get? p = some v ∧
      (∀ w, (object.set p v).set p w = object.set p w) ∧
      (object.get? p = some v → object.set p v = object) ∧
      (∀ q, ¬ p <+: q → ¬ q <+: p →
        (object.set p v).get? q = object.get? q ∧
        (object.remove p).2.get? q = object.get? q ∧
        ∀ w, (object.set p v).set q w = (object.set q w).set p v) ∧
      (object.remove p).1 = object.get? p ∧
      (object.remove p).2.get? p = none ∧
      (∀ q, q <+: p → q ≠ p → ((object.remove p).2.get? q).isSome = (object.get? q).isSome) ∧
      (object.get? p = none → (object.remove p).2 = object) := by
  refine ⟨get?_set_same hp, fun w => set_set_under List.prefix_rfl hp, set_of_get?, ?_,
    remove_fst object p, get?_remove_same, fun q => isSome_get?_remove_above, remove_of_get?_none⟩
  intro q hpq hqp
  have hapart : p.Apart q := ⟨hpq, hqp⟩
  exact ⟨get?_set_apart hapart, get?_remove_apart hapart, fun w => set_comm hapart.symm⟩

/-- An object in which a number stands where a path may go on. -/
def countedObject : Manifest :=
  ⟨[("metadata", .object [("name", .string "x")]),
    ("spec", .object [("paused", .bool true), ("replicas", .number (.int 2))])]⟩

theorem path_laws_number :
    (countedObject.set ["spec", "replicas", "low"] (.bool false)).get?
        ["spec", "replicas", "low"] = some (.bool false) ∧
      (countedObject.set ["spec", "replicas", "low"] (.bool false)).get? ["spec", "paused"] =
        some (.bool true) ∧
      countedObject.set ["spec", "paused"] (.bool true) = countedObject ∧
      (countedObject.remove ["spec", "replicas", "low"]).2 = countedObject ∧
      ((countedObject.remove ["spec", "paused"]).2.get? ["spec"]).isSome = true := by
  obtain ⟨hread, -, -, hapart, -, -, -, hnone⟩ :=
    path_laws countedObject (p := ["spec", "replicas", "low"]) (by decide) (.bool false)
  obtain ⟨-, -, hsame, -, -, -, habove, -⟩ :=
    path_laws countedObject (p := ["spec", "paused"]) (by decide) (.bool true)
  exact ⟨hread, (hapart ["spec", "paused"] (by decide) (by decide)).1, hsame (by decide),
    hnone (by decide), habove ["spec"] (by decide) (by decide)⟩

end Manifest

end OverlayConfig
