set_option autoImplicit false

namespace OverlayConfig

abbrev Fields (α : Type) := List (String × α)

namespace Fields

variable {α : Type}

def get? (k : String) : Fields α → Option α
  | [] => none
  | (k', v) :: rest => if k' = k then some v else get? k rest

def contains (k : String) (fields : Fields α) : Bool := (get? k fields).isSome

def replace (k : String) (v : α) : Fields α → Fields α
  | [] => []
  | (k', v') :: rest => if k' = k then (k, v) :: rest else (k', v') :: replace k v rest

/-- Puts a pair before the first greater key. -/
def insertNew (k : String) (v : α) : Fields α → Fields α
  | [] => [(k, v)]
  | (k', v') :: rest =>
    if k < k' then (k, v) :: (k', v') :: rest else (k', v') :: insertNew k v rest

def insert (k : String) (v : α) (fields : Fields α) : Fields α :=
  if fields.contains k then fields.replace k v else fields.insertNew k v

def erase (k : String) : Fields α → Fields α
  | [] => []
  | (k', v) :: rest => if k' = k then erase k rest else (k', v) :: erase k rest

def keys (fields : Fields α) : List String := fields.map Prod.fst

/-- Inserts pairs from left to right, so that the last value of a repeated key stays. -/
def ofList (pairs : List (String × α)) : Fields α := pairs.foldl (fun m p => insert p.1 p.2 m) []

def union (base winner : Fields α) : Fields α := winner.foldr (fun p m => insert p.1 p.2 m) base

/-- Ascending order of the keys, which makes two mappings with the same entries equal. -/
def Sorted (fields : Fields α) : Prop := fields.Pairwise (fun a b => a.1 < b.1)

@[simp] theorem get?_nil (k : String) : get? k ([] : Fields α) = none := rfl

theorem get?_replace (k j : String) (v : α) (fields : Fields α) :
    get? j (replace k v fields) =
      if j = k ∧ contains k fields then some v else get? j fields := by
  induction fields with
  | nil => simp [replace, contains]
  | cons p rest ih => grind [replace, get?, contains]

theorem get?_insertNew (k j : String) (v : α) (fields : Fields α) (h : get? k fields = none) :
    get? j (insertNew k v fields) = if j = k then some v else get? j fields := by
  induction fields with
  | nil => grind [insertNew, get?]
  | cons p rest ih => grind [insertNew, get?]

theorem get?_insert (k j : String) (v : α) (fields : Fields α) :
    get? j (insert k v fields) = if j = k then some v else get? j fields := by
  unfold insert
  split
  · next h => simp [get?_replace, h]
  · next h => exact get?_insertNew k j v fields (by simpa [contains] using h)

theorem get?_erase (k j : String) (fields : Fields α) :
    get? j (erase k fields) = if j = k then none else get? j fields := by
  induction fields with
  | nil => simp [erase]
  | cons p rest ih => grind [erase, get?]

end Fields

end OverlayConfig
