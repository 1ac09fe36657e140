import OverlayConfig.Template.Filters.Sequence
import OverlayConfig.Text.Casing
set_option autoImplicit false

namespace OverlayConfig.Template.Filters

def foldCase (v : Value) : Value :=
  match v.chars? with
  | some cs => .text (cs.map Char.toLower)
  | none => v

/-- Inserts a value among others that stand backwards: before the first one that it does not come
before. -/
def insertBackwards {α : Type} (before : α → α → Bool) (x : α) : List α → List α
  | [] => [x]
  | y :: ys => if before x y then y :: insertBackwards before x ys else x :: y :: ys

def maxInsertions : Nat := 20

/-- Sorts values and keeps the order of equal ones. Where the order of some values is not known, as
that of values without an attribute, few values go one by one as far forward as they come before the
value in front of them. -/
def sortValues {α : Type} (before : α → α → Bool) (xs : List α) : List α :=
  if xs.length ≤ maxInsertions then
    (xs.foldl (fun done x => insertBackwards before x done) []).reverse
  else xs.mergeSort fun a b => !before b a

def sortOrder (caseSensitive : Bool) (a b : Value) : Ordering :=
  if caseSensitive then Value.order a b else Value.order (foldCase a) (foldCase b)

def comesBefore (backwards : Bool) (o : Ordering) : Bool := o = (if backwards then .gt else .lt)

def step (v : Value) (name : List Char) : Option Value :=
  if v.isUndefined then none
  else
    let key := match Yaml.natural? 10 name with
      | some n => Value.ofNat n
      | none => Value.text name
    some (orUndefined (v.item? key))

def attributeAt? (path : List Char) (v : Value) : Option Value :=
  (Text.pieces '.' path).foldlM step v

def attributeOr (other : Value) (path : List Char) (v : Value) : Value :=
  match attributeAt? path v with
  | none | some (.undefined _) => other
  | some w => w

def sortKey? (paths : List Char) (v : Value) : Option Value :=
  match Text.pieces ',' paths with
  | [path] => attributeAt? path v
  | several => (several.mapM fun path => attributeAt? path v).map .list

/-- Sorts elements, by attributes if they are given. What a value cannot have does not matter. -/
def sort : Filter := fun v c => do
  c.atMostPlain 0
  let elements ← listOf v
  let sensitive ← c.flag "case_sensitive"
  let backwards ← c.flag "reverse"
  let paths ← c.textNamed? "attribute"
  c.knowing ["case_sensitive", "reverse", "attribute"]
  let compared (a b : Value) : Ordering := match paths with
    | none => sortOrder sensitive a b
    | some paths =>
      match sortKey? paths a, sortKey? paths b with
      | some x, some y => sortOrder sensitive x y
      | _, _ => .eq
  .ok (.list (sortValues (fun a b => comesBefore backwards (compared a b)) elements))

def dictsort : Filter := fun v c => do
  c.atMostPlain 0
  match v.entries? with
  | none => .error .invalidOperation
  | some entries =>
    let sensitive ← c.flag "case_sensitive"
    let backwards ← c.flag "reverse"
    let choice ← c.textNamed? "by"
    c.knowing ["case_sensitive", "reverse", "by"]
    let key (p : Value × Value) : Value := if choice = some "value".toList then p.2 else p.1
    let before (p q : Value × Value) : Bool :=
      comesBefore backwards (sortOrder sensitive (key p) (key q))
    .ok (.list ((sortValues before entries).map fun p => .list [p.1, p.2]))

/-- The least or the greatest element: the first of the least ones, the last of the greatest. -/
def extreme (greatest : Bool) (v : Value) : Except ErrorKind Value := do
  match ← listOf v with
  | [] => .ok (.undefined false)
  | x :: xs =>
    let better (a b : Value) : Bool :=
      if greatest then Value.order a b ≠ .lt else Value.order a b = .lt
    .ok (xs.foldl (fun best y => if better y best then y else best) x)

def joinGroup (same : Value → Value → Bool) (key v : Value) :
    List (Value × List Value) → List (Value × List Value)
  | (k, vs) :: rest => if same key k then (key, v :: vs) :: rest else (key, [v]) :: (k, vs) :: rest
  | [] => [(key, [v])]

/-- Groups of elements with the same value of an attribute, in the order of these values. The key of
a group is the one of its last element. -/
def groupby : Filter := fun v c => do
  c.atMostPlain 1
  let place ← (c.plain? 0).mapM charsOf
  let other := orUndefined (c.named? "default")
  let sensitive ← c.flag "case_sensitive"
  let path ← match place, c.named? "attribute" with
    | some path, _ => Except.ok path
    | none, some path => charsOf path
    | none, none => .error .missingArgument
  let elements ← elementsOf v
  c.knowing
    (["default", "case_sensitive"] ++ if place.isSome then [] else ["attribute"])
  let key := attributeOr other path
  let compared (a b : Value) : Ordering := sortOrder sensitive (key a) (key b)
  let sorted := sortValues (fun a b => compared a b = .lt) elements
  let same (a b : Value) : Bool := sortOrder sensitive a b = .eq
  let groups := sorted.foldl (fun done w => joinGroup same (key w) w done) []
  .ok (.list (groups.reverse.map fun p => .group p.1 p.2.reverse))

def unique : Filter := fun v c => do
  c.atMostPlain 0
  let path ← c.textNamed? "attribute"
  let sensitive ← c.flag "case_sensitive"
  c.knowing ["attribute", "case_sensitive"]
  let elements ← elementsOf v
  let key (w : Value) : Value :=
    let w := path.elim w fun path => attributeOr (.undefined false) path w
    match sensitive, w.chars? with
    | false, some cs => .text (Text.lower cs)
    | _, _ => w
  let kept := elements.foldl (fun (done : List Value × List Value) w =>
    if done.2.any fun k => Value.order k (key w) = .eq then done
    else (w :: done.1, key w :: done.2)) ([], [])
  .ok (.list kept.1.reverse)

def ofOrder : List (String × Filter) :=
  [("sort", sort), ("dictsort", dictsort), ("min", unary (extreme false)),
    ("max", unary (extreme true)), ("groupby", groupby), ("unique", unique)]

end OverlayConfig.Template.Filters
