import OverlayConfig.Json.Decode
import OverlayConfig.Proofs.Json.RoundTrip
import OverlayConfig.Proofs.Results
set_option autoImplicit false

namespace OverlayConfig.Json

section Decoding

variable {α : Type} {f : Json → Except DecodeError α} {fields : Fields Json} {key : String}

theorem decodeField_of_get? {v : Json} {x : α} (hget : fields.get? key = some v)
    (hv : f v = .ok x) : decodeField fields key f = .ok (some x) := by
  simp [decodeField, hget, hv, Except.map]

theorem decodeField_optional {β : Type} {o : Option β} {g : β → Json} {t : Json → Json} {x : β → α}
    (hget : fields.get? key = (o.map g).map t) (hg : ∀ b ∈ o, f (t (g b)) = .ok (x b)) :
    decodeField fields key f = .ok (o.map x) := by
  cases o with
  | none => simp [decodeField, hget]
  | some b => exact decodeField_of_get? hget (hg b rfl)

theorem ne_null_of_ok {v : Json} {x : α} (h : f v = .ok x) (hnull : ¬ f .null = .ok x) :
    v ≠ .null := by
  rintro rfl
  exact hnull h

theorem decodeOption_eq_map {v : Json} (hne : v ≠ .null) :
    decodeOption f v = (f v).map some := by
  cases v with
  | null => exact absurd rfl hne
  | _ => rfl

theorem decodeOption_of_ne {v : Json} {x : α} (hne : v ≠ .null) (hv : f v = .ok x) :
    decodeOption f v = .ok (some x) := by
  rw [decodeOption_eq_map hne, hv]
  rfl

theorem of_decodeField {P : α → Prop} {o : Option α} (h : decodeField fields key f = .ok o)
    (hf : ∀ v x, fields.get? key = some v → f v = .ok x → P x) : ∀ x ∈ o, P x := by
  unfold decodeField at h
  split at h
  · cases h
    nofun
  · next v hv =>
    obtain ⟨x, hx, rfl⟩ := map_eq_ok.mp h
    rintro _ ⟨⟩
    exact hf v x hv hx

theorem of_decodeItem {P : α → Prop} {items : List Json} {index : Nat} {o : Option α}
    (h : decodeItem items index f = .ok o) (hf : ∀ v x, v ∈ items → f v = .ok x → P x) :
    ∀ x ∈ o, P x := by
  unfold decodeItem at h
  split at h
  · cases h
    nofun
  · next v hv =>
    obtain ⟨x, hx, rfl⟩ := map_eq_ok.mp h
    rintro _ ⟨⟩
    exact hf v x (List.mem_of_getElem? hv) hx

theorem of_decodeOption {P : α → Prop} {v : Json} {o : Option α} (h : decodeOption f v = .ok o)
    (hf : ∀ x, f v = .ok x → P x) : ∀ x ∈ o, P x := by
  unfold decodeOption at h
  split at h
  · cases h
    nofun
  · obtain ⟨x, hx, rfl⟩ := map_eq_ok.mp h
    rintro _ ⟨⟩
    exact hf x hx

/-- What holds of a value that is set and of the one for an unset field holds of what is taken. -/
theorem of_getD {P : α → Prop} {o : Option α} {unset : α} (hset : ∀ x ∈ o, P x)
    (hunset : P unset) : P (o.getD unset) := by
  cases o with
  | none => exact hunset
  | some x => exact hset x rfl

theorem required_eq_ok {o : Option α} {x : α} : required key o = .ok x ↔ o = some x := by
  cases o <;> simp [required]

theorem requiredItem_eq_ok {record : String} {size index : Nat} {o : Option α} {x : α} :
    requiredItem record size index o = .ok x ↔ o = some x := by
  cases o <;> simp [requiredItem]

theorem keys_of_decodeValues {read : Fields α} (h : decodeValues f fields = .ok read) :
    read.map Prod.fst = fields.map Prod.fst := by
  induction fields generalizing read with
  | nil =>
    cases h
    rfl
  | cons p rest ih =>
    simp only [decodeValues, bind_eq_ok] at h
    obtain ⟨x, -, xs, hxs, h⟩ := h
    cases h
    simp [ih hxs]

end Decoding

section Reads

variable {α β : Type} {f : Json → Except DecodeError α} {fields : Fields Json} {key : String}

def Reads (f : Json → Except DecodeError α) (v : Json) : Prop := ∃ x, f v = .ok x

theorem reads_map {g : α → β} {v : Json} : Reads (fun v => (f v).map g) v ↔ Reads f v := by
  simp only [Reads, map_eq_ok]
  exact ⟨fun ⟨_, x, hx, _⟩ => ⟨x, hx⟩, fun ⟨x, hx⟩ => ⟨g x, x, hx, rfl⟩⟩

theorem exists_decodeItems {items : List Json} :
    (∃ xs, decodeItems f items = .ok xs) ↔ ∀ w ∈ items, Reads f w := by
  induction items with
  | nil => simp [decodeItems]
  | cons w rest ih =>
    rw [List.forall_mem_cons, ← ih]
    simp only [decodeItems, bind_eq_ok, Reads]
    exact ⟨fun ⟨_, x, hx, xs, hxs, _⟩ => ⟨⟨x, hx⟩, xs, hxs⟩,
      fun ⟨⟨x, hx⟩, xs, hxs⟩ => ⟨_, x, hx, xs, hxs, rfl⟩⟩

theorem exists_decodeValues :
    (∃ xs, decodeValues f fields = .ok xs) ↔ ∀ p ∈ fields, Reads f p.2 := by
  induction fields with
  | nil => simp [decodeValues]
  | cons p rest ih =>
    rw [List.forall_mem_cons, ← ih]
    simp only [decodeValues, bind_eq_ok, Reads]
    exact ⟨fun ⟨_, x, hx, xs, hxs, _⟩ => ⟨⟨x, hx⟩, xs, hxs⟩,
      fun ⟨⟨x, hx⟩, xs, hxs⟩ => ⟨_, x, hx, xs, hxs, rfl⟩⟩

theorem exists_decodeField : (∃ o, decodeField fields key f = .ok o) ↔
    ∀ w, fields.get? key = some w → Reads f w := by
  cases hget : fields.get? key with
  | none => simp [decodeField, hget]
  | some w =>
    simp only [decodeField, hget, Option.some.injEq, forall_eq']
    exact reads_map

theorem exists_required {name : String} :
    (∃ o, decodeField fields key f = .ok o ∧ ∃ x, required name o = .ok x) ↔
      ∃ w, fields.get? key = some w ∧ Reads f w := by
  simp only [required_eq_ok]
  cases hget : fields.get? key with
  | none => simp [decodeField, hget]
  | some w =>
    simp only [decodeField, hget, map_eq_ok, Option.some.injEq, exists_eq_left']
    exact ⟨fun ⟨_, ⟨x, hx, _⟩, _⟩ => ⟨x, hx⟩, fun ⟨x, hx⟩ => ⟨some x, ⟨x, hx, rfl⟩, x, rfl⟩⟩

end Reads

section Distinct

mutual
def isDistinct : Json → Bool
  | .array items => areDistinct items
  | .object fields => decide (fields.map Prod.fst).Nodup && haveDistinct fields
  | _ => true

def areDistinct : List Json → Bool
  | [] => true
  | v :: rest => v.isDistinct && areDistinct rest

def haveDistinct : List (String × Json) → Bool
  | [] => true
  | (_, v) :: rest => v.isDistinct && haveDistinct rest
end

theorem isDistinct_array {items : List Json} (h : (array items).isDistinct = true) :
    ∀ v ∈ items, v.isDistinct = true := by
  rw [isDistinct] at h
  induction items with
  | nil => nofun
  | cons v rest ih =>
    rw [areDistinct, Bool.and_eq_true] at h
    exact List.forall_mem_cons.mpr ⟨h.1, ih h.2⟩

theorem isDistinct_object {fields : Fields Json} (h : (object fields).isDistinct = true) :
    (fields.map Prod.fst).Nodup ∧ ∀ p ∈ fields, p.2.isDistinct = true := by
  simp only [isDistinct, Bool.and_eq_true, decide_eq_true_eq] at h
  refine ⟨h.1, ?_⟩
  replace h := h.2
  induction fields with
  | nil => nofun
  | cons p rest ih =>
    rw [haveDistinct, Bool.and_eq_true] at h
    exact List.forall_mem_cons.mpr ⟨h.1, ih h.2⟩

end Distinct

/-- A change of values that changes nothing but the order of fields. -/
structure Reorders (t : Json → Json) : Prop where
  string (s : String) : t (.string s) = .string s
  bool (b : Bool) : t (.bool b) = .bool b
  number (n : Number) : t (.number n) = .number n
  array (items : List Json) : t (.array items) = .array (items.map t)
  object (fields : Fields Json) (hkeys : (fields.map Prod.fst).Nodup) :
    ∃ fields' : Fields Json, t (.object fields) = .object fields' ∧
      ∀ k, fields'.get? k = (fields.get? k).map t

theorem reorders_id : Reorders id where
  string _ := rfl
  bool _ := rfl
  number _ := rfl
  array items := by simp
  object fields _ := ⟨fields, rfl, by simp⟩

theorem reorders_ordered : Reorders ordered where
  string _ := rfl
  bool _ := rfl
  number _ := rfl
  array items := by rw [ordered, orderedItems_eq_map]
  object fields hkeys := ⟨_, rfl, get?_ofList_orderedFields hkeys⟩

end OverlayConfig.Json
