import OverlayConfig.Fields
set_option autoImplicit false

namespace OverlayConfig

namespace Fields

variable {α : Type}

theorem contains_iff {k : String} {fields : Fields α} :
    contains k fields = true ↔ ∃ v, get? k fields = some v := by
  simp [contains, Option.isSome_iff_exists]

theorem contains_insert (k j : String) (v : α) (fields : Fields α) :
    contains j (insert k v fields) = (j = k || contains j fields) := by
  unfold contains
  rw [get?_insert]
  split <;> simp_all

theorem replace_replace (k : String) (v w : α) (fields : Fields α) :
    replace k v (replace k w fields) = replace k v fields := by
  induction fields with
  | nil => rfl
  | cons p rest ih => grind [replace]

theorem replace_insertNew (k : String) (v w : α) (fields : Fields α)
    (h : get? k fields = none) :
    replace k v (insertNew k w fields) = insertNew k v fields := by
  induction fields with
  | nil => simp [insertNew, replace]
  | cons p rest ih => grind [replace, insertNew, get?]

theorem insert_insert (k : String) (v w : α) (fields : Fields α) :
    insert k v (insert k w fields) = insert k v fields := by
  have hk : contains k (insert k w fields) = true := by simp [contains_insert]
  rw [insert, if_pos hk]
  unfold insert
  split
  · exact replace_replace k v w fields
  · next h => exact replace_insertNew k v w fields (by simpa [contains] using h)

theorem replace_comm {k j : String} (h : k ≠ j) (v w : α) (fields : Fields α) :
    replace k v (replace j w fields) = replace j w (replace k v fields) := by
  induction fields with
  | nil => rfl
  | cons p rest ih => grind [replace]

theorem replace_insertNew_comm {k j : String} (h : k ≠ j) (v w : α) (fields : Fields α) :
    replace k v (insertNew j w fields) = insertNew j w (replace k v fields) := by
  induction fields with
  | nil => simp [insertNew, replace, h.symm]
  | cons p rest ih => grind [replace, insertNew]

theorem insertNew_comm {k j : String} (h : k ≠ j) (v w : α) (fields : Fields α) :
    insertNew k v (insertNew j w fields) = insertNew j w (insertNew k v fields) := by
  have hlt : ¬(k < j ∧ j < k) := fun h => String.lt_asymm h.1 h.2
  have hle : k < j ∨ j < k := by
    by_cases hkj : k < j
    · exact .inl hkj
    · by_cases hjk : j < k
      · exact .inr hjk
      · exact absurd (String.le_antisymm (String.not_lt.mp hjk) (String.not_lt.mp hkj)) h
  induction fields with
  | nil => grind [insertNew]
  | cons p rest ih => grind [insertNew, String.lt_trans]

theorem insert_comm {k j : String} (h : k ≠ j) (v w : α) (fields : Fields α) :
    insert k v (insert j w fields) = insert j w (insert k v fields) := by
  have hk : contains k (insert j w fields) = contains k fields := by simp [contains_insert, h]
  have hj : contains j (insert k v fields) = contains j fields := by simp [contains_insert, h.symm]
  rw [insert, hk, insert.eq_1 j w (insert k v fields), hj]
  unfold insert
  split <;> split
  · exact replace_comm h v w fields
  · exact replace_insertNew_comm h v w fields
  · exact (replace_insertNew_comm h.symm w v fields).symm
  · exact insertNew_comm h v w fields

theorem replace_of_get? {k : String} {v : α} {fields : Fields α} (h : get? k fields = some v) :
    replace k v fields = fields := by
  induction fields with
  | nil => rfl
  | cons p rest ih => grind [replace, get?]

theorem insert_of_get? {k : String} {v : α} {fields : Fields α} (h : get? k fields = some v) :
    insert k v fields = fields := by
  rw [insert, if_pos (contains_iff.mpr ⟨v, h⟩), replace_of_get? h]

theorem erase_of_get?_none {k : String} {fields : Fields α} (h : get? k fields = none) :
    erase k fields = fields := by
  induction fields with
  | nil => rfl
  | cons p rest ih => grind [erase, get?]

theorem length_erase_le (k : String) (fields : Fields α) :
    (erase k fields).length ≤ fields.length := by
  induction fields with
  | nil => simp [erase]
  | cons p rest ih => grind [erase]

theorem union_cons (base : Fields α) (p : String × α) (winner : Fields α) :
    union base (p :: winner) = insert p.1 p.2 (union base winner) := rfl

theorem get?_union (k : String) (base winner : Fields α) :
    get? k (union base winner) = (get? k winner).or (get? k base) := by
  induction winner with
  | nil => rfl
  | cons p rest ih =>
    rw [union_cons, get?_insert, ih, get?]
    by_cases hk : k = p.1
    · simp [hk]
    · simp [hk, Ne.symm hk]

theorem insert_union_erase (k : String) (v : α) (base winner : Fields α) :
    insert k v (union base (erase k winner)) = insert k v (union base winner) := by
  induction winner with
  | nil => rfl
  | cons p rest ih =>
    by_cases h : p.1 = k
    · rw [erase, if_pos h, ih, union_cons, h, insert_insert]
    · rw [erase, if_neg h, union_cons, union_cons, insert_comm (Ne.symm h), ih,
        insert_comm (Ne.symm h)]

theorem union_of_get? {base winner : Fields α}
    (h : ∀ k v, get? k winner = some v → get? k base = some v) : union base winner = base := by
  match winner with
  | [] => rfl
  | (k, v) :: rest =>
    have hrest : union base (erase k rest) = base := by
      refine union_of_get? fun j w hj => h j w ?_
      rw [get?_erase] at hj
      grind [get?]
    rw [union_cons, ← insert_union_erase, hrest]
    exact insert_of_get? (h k v (by simp [get?]))
termination_by winner.length
decreasing_by
  have := length_erase_le k rest
  simp only [List.length_cons]
  omega

section Unions

theorem union_replace {k : String} {winner : Fields α} (h : contains k winner = true) (v : α)
    (base : Fields α) : union base (replace k v winner) = insert k v (union base winner) := by
  induction winner with
  | nil => simp [contains] at h
  | cons p rest ih =>
    rw [replace, union_cons]
    split
    · next hk => rw [union_cons, hk, insert_insert]
    · next hk =>
      have hrest : contains k rest = true := by simpa [contains, get?, hk] using h
      rw [union_cons, ih hrest, insert_comm hk]

theorem union_insertNew {k : String} {winner : Fields α} (h : get? k winner = none) (v : α)
    (base : Fields α) : union base (insertNew k v winner) = insert k v (union base winner) := by
  induction winner with
  | nil => rfl
  | cons p rest ih =>
    have hk : p.1 ≠ k ∧ get? k rest = none := by grind [get?]
    rw [insertNew]
    split
    · rfl
    · rw [union_cons, union_cons, ih hk.2, insert_comm hk.1]

theorem union_insert (k : String) (v : α) (base winner : Fields α) :
    union base (insert k v winner) = insert k v (union base winner) := by
  rw [insert.eq_1 k v winner]
  split
  · next h => exact union_replace h v base
  · next h => exact union_insertNew (by simpa [contains] using h) v base

theorem union_union (base winner : Fields α) :
    union base (union base winner) = union base winner := by
  induction winner with
  | nil => exact union_of_get? fun _ _ h => h
  | cons p rest ih => rw [union_cons, union_insert, ih]

theorem union_union_self (base winner : Fields α) :
    union (union base winner) winner = union base winner :=
  union_of_get? fun k v h => by rw [get?_union, h, Option.some_or]

theorem union_eq_nil {base winner : Fields α} (h : union base winner = []) : base = [] := by
  cases base with
  | nil => rfl
  | cons p rest =>
    have hget := get?_union p.1 (p :: rest) winner
    rw [h, get?_nil, get?, if_pos rfl] at hget
    cases hwin : get? p.1 winner <;> simp [hwin] at hget

end Unions

section Lists

theorem get?_eq_none {k : String} {fields : Fields α} :
    get? k fields = none ↔ k ∉ fields.map Prod.fst := by
  induction fields with
  | nil => simp
  | cons p rest ih => grind [get?]

theorem contains_keys (k : String) (fields : Fields α) :
    fields.keys.contains k = fields.contains k := by
  rw [Bool.eq_iff_iff, List.contains_iff_mem, contains, ← Decidable.not_iff_not,
    Option.not_isSome_iff_eq_none, get?_eq_none]
  rfl

theorem mem_of_get? {k : String} {v : α} {fields : Fields α} (h : get? k fields = some v) :
    (k, v) ∈ fields := by
  induction fields with
  | nil => cases h
  | cons p rest ih => grind [get?]

theorem get?_of_mem {k : String} {v : α} {fields : Fields α} (h : (fields.map Prod.fst).Nodup)
    (hmem : (k, v) ∈ fields) : get? k fields = some v := by
  induction fields with
  | nil => cases hmem
  | cons p rest ih =>
    obtain ⟨hnew, hrest⟩ := List.nodup_cons.mp h
    rw [get?]
    rcases List.mem_cons.mp hmem with rfl | hlater
    · exact if_pos rfl
    · have hne : p.1 ≠ k := fun heq => hnew (heq ▸ List.mem_map_of_mem hlater)
      rw [if_neg hne, ih hrest hlater]

theorem get?_foldl_insert {pairs : List (String × α)} (h : (pairs.map Prod.fst).Nodup)
    (k : String) (fields : Fields α) :
    get? k (pairs.foldl (fun m p => insert p.1 p.2 m) fields) =
      (get? k pairs).or (get? k fields) := by
  induction pairs generalizing fields with
  | nil => rfl
  | cons p rest ih =>
    obtain ⟨hnew, hrest⟩ := List.nodup_cons.mp h
    rw [List.foldl_cons, ih hrest, get?_insert, get?]
    by_cases hk : k = p.1
    · subst hk
      have hnone : get? p.1 rest = none := get?_eq_none.mpr hnew
      simp [hnone]
    · simp [hk, Ne.symm hk]

theorem get?_ofList {pairs : List (String × α)} (h : (pairs.map Prod.fst).Nodup) (k : String) :
    get? k (ofList pairs) = get? k pairs := by
  rw [ofList, get?_foldl_insert h, get?_nil, Option.or_none]

theorem insert_of_lt {k : String} {fields : Fields α} (h : ∀ p ∈ fields, p.1 < k) (v : α) :
    insert k v fields = fields ++ [(k, v)] := by
  have hnew : contains k fields = false := by
    have hnone : get? k fields = none := by
      refine get?_eq_none.mpr fun hmem => ?_
      obtain ⟨p, hp, hk⟩ := List.mem_map.mp hmem
      exact String.lt_irrefl k (hk ▸ h p hp)
    rw [contains, hnone]
    rfl
  rw [insert, if_neg (Bool.eq_false_iff.mp hnew)]
  clear hnew
  induction fields with
  | nil => rfl
  | cons p rest ih =>
    obtain ⟨hp, hrest⟩ := List.forall_mem_cons.mp h
    rw [insertNew, if_neg (String.lt_asymm hp), ih hrest, List.cons_append]

theorem ofList_of_sorted {fields : Fields α} (h : Sorted fields) : ofList fields = fields := by
  have hfold (front back : Fields α) (h : Sorted (front ++ back)) :
      back.foldl (fun m p => insert p.1 p.2 m) front = front ++ back := by
    induction back generalizing front with
    | nil => rw [List.foldl_nil, List.append_nil]
    | cons p rest ih =>
      have hlast : ∀ q ∈ front, q.1 < p.1 := fun q hq =>
        (List.pairwise_append.mp h).2.2 q hq p List.mem_cons_self
      rw [List.append_cons] at h ⊢
      rw [List.foldl_cons, insert_of_lt hlast, ih _ h]
  exact hfold [] fields h

theorem get?_append (k : String) (front back : Fields α) :
    get? k (front ++ back) = (get? k front).or (get? k back) := by
  induction front with
  | nil => rfl
  | cons p rest ih =>
    rw [List.cons_append, get?, get?, ih]
    split <;> rfl

end Lists

section Order

theorem sorted_iff {fields : Fields α} :
    Sorted fields ↔ (fields.map Prod.fst).Pairwise (· < ·) := List.pairwise_map.symm

theorem keys_replace (k : String) (v : α) (fields : Fields α) :
    (replace k v fields).map Prod.fst = fields.map Prod.fst := by
  induction fields with
  | nil => rfl
  | cons p rest ih =>
    rw [replace]
    split
    · next h => simp [h]
    · simp [ih]

theorem mem_insertNew {k : String} {v : α} {fields : Fields α} {p : String × α} :
    p ∈ insertNew k v fields ↔ p = (k, v) ∨ p ∈ fields := by
  induction fields with
  | nil => simp [insertNew]
  | cons q rest ih => grind [insertNew]

theorem sorted_insertNew {k : String} {fields : Fields α} (h : Sorted fields)
    (hnew : get? k fields = none) (v : α) : Sorted (insertNew k v fields) := by
  induction fields with
  | nil => exact List.pairwise_singleton _ _
  | cons p rest ih =>
    obtain ⟨hfirst, hrest⟩ := List.pairwise_cons.mp h
    have hne : k ≠ p.1 ∧ get? k rest = none := by grind [get?]
    rw [insertNew]
    split
    · next hlt =>
      refine List.pairwise_cons.mpr ⟨List.forall_mem_cons.mpr ⟨hlt, fun q hq => ?_⟩, h⟩
      exact String.lt_trans hlt (hfirst q hq)
    · next hlt =>
      have hgt : p.1 < k := by
        by_cases hpk : p.1 < k
        · exact hpk
        · exact absurd (String.le_antisymm (String.not_lt.mp hpk) (String.not_lt.mp hlt)) hne.1
      refine List.pairwise_cons.mpr ⟨fun q hq => ?_, ih hrest hne.2⟩
      rcases mem_insertNew.mp hq with rfl | hq
      · exact hgt
      · exact hfirst q hq

theorem sorted_insert {fields : Fields α} (h : Sorted fields) (k : String) (v : α) :
    Sorted (insert k v fields) := by
  unfold insert
  split
  · rwa [sorted_iff, keys_replace, ← sorted_iff]
  · next hnew => exact sorted_insertNew h (by simpa [contains] using hnew) v

theorem mem_insert {k : String} {v : α} {fields : Fields α} {p : String × α}
    (h : p ∈ insert k v fields) : p = (k, v) ∨ p ∈ fields := by
  unfold insert at h
  split at h
  · induction fields with
    | nil => cases h
    | cons q rest ih => grind [replace, contains, get?]
  · exact mem_insertNew.mp h

theorem erase_sublist (k : String) (fields : Fields α) :
    List.Sublist (erase k fields) fields := by
  induction fields with
  | nil => exact .slnil
  | cons p rest ih =>
    rw [erase]
    split
    · exact ih.cons p
    · exact ih.cons_cons p

theorem sorted_union {base : Fields α} (h : Sorted base) (winner : Fields α) :
    Sorted (union base winner) := by
  induction winner with
  | nil => exact h
  | cons p rest ih => exact sorted_insert ih p.1 p.2

theorem sorted_ofList (pairs : List (String × α)) : Sorted (ofList pairs) := by
  have hfold (fields : Fields α) (h : Sorted fields) :
      Sorted (pairs.foldl (fun m p => insert p.1 p.2 m) fields) := by
    induction pairs generalizing fields with
    | nil => exact h
    | cons p rest ih => exact ih _ (sorted_insert h p.1 p.2)
  exact hfold [] .nil

end Order

section Map

variable {β : Type} (g : α → β)

theorem get?_map (k : String) (fields : Fields α) :
    get? k (fields.map fun p => (p.1, g p.2)) = (get? k fields).map g := by
  induction fields with
  | nil => rfl
  | cons p rest ih =>
    simp only [List.map_cons, get?, ih]
    split <;> rfl

theorem replace_map (k : String) (v : α) (fields : Fields α) :
    replace k (g v) (fields.map fun p => (p.1, g p.2)) =
      (replace k v fields).map fun p => (p.1, g p.2) := by
  induction fields with
  | nil => rfl
  | cons p rest ih =>
    simp only [List.map_cons, replace, ih]
    split <;> rfl

theorem insertNew_map (k : String) (v : α) (fields : Fields α) :
    insertNew k (g v) (fields.map fun p => (p.1, g p.2)) =
      (insertNew k v fields).map fun p => (p.1, g p.2) := by
  induction fields with
  | nil => rfl
  | cons p rest ih =>
    simp only [List.map_cons, insertNew, ih]
    split <;> rfl

theorem insert_map (k : String) (v : α) (fields : Fields α) :
    insert k (g v) (fields.map fun p => (p.1, g p.2)) =
      (insert k v fields).map fun p => (p.1, g p.2) := by
  simp only [insert, contains, get?_map, Option.isSome_map, replace_map, insertNew_map]
  exact (apply_ite _ _ _ _).symm

theorem ofList_map (pairs : List (String × α)) :
    ofList (pairs.map fun p => (p.1, g p.2)) = (ofList pairs).map fun p => (p.1, g p.2) := by
  have hfold (fields : Fields α) :
      (pairs.map fun p => (p.1, g p.2)).foldl (fun m p => insert p.1 p.2 m)
          (fields.map fun p => (p.1, g p.2)) =
        (pairs.foldl (fun m p => insert p.1 p.2 m) fields).map fun p => (p.1, g p.2) := by
    induction pairs generalizing fields with
    | nil => rfl
    | cons p rest ih => simp only [List.map_cons, List.foldl_cons, insert_map, ih]
  exact hfold []

end Map

end Fields

end OverlayConfig
