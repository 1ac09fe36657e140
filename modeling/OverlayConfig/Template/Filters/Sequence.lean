import OverlayConfig.Template.Filters.Number
set_option autoImplicit false

namespace OverlayConfig.Template.Filters

/-- The elements of a value that is there. One that is not there has none, as a number has none. -/
def listOf (v : Value) : Except ErrorKind (List Value) :=
  match v, v.elements? with
  | .undefined false, _ | _, none => .error .invalidOperation
  | _, some items => .ok items

def orUndefined (v : Option Value) : Value := v.getD (.undefined false)

def length (v : Value) : Except ErrorKind Value :=
  match v.chars?, v.items?, v.entries? with
  | some cs, _, _ => .ok (.ofNat cs.length)
  | _, some items, _ => .ok (.ofNat items.length)
  | _, _, some entries => .ok (.ofNat entries.length)
  | _, _, _ => .error .invalidOperation

def first (v : Value) : Except ErrorKind Value :=
  match v.kind, v.elements? with
  | .undefined, _ | .none, _ | _, none => .error .invalidOperation
  | _, some items => .ok (orUndefined items.head?)

def last (v : Value) : Except ErrorKind Value :=
  match v.chars?, v.items? with
  | some cs, _ => .ok (orUndefined (cs.getLast?.map fun c => .text [c]))
  | _, some items => .ok (orUndefined items.getLast?)
  | _, _ => .error .invalidOperation

def reverse (v : Value) : Except ErrorKind Value :=
  match v with
  | .undefined _ | .none => .ok v
  | .table entries => .ok (.series (entries.map Prod.fst))
  | v =>
    match v.chars?, v.items?, v.entries? with
    | some cs, _, _ => .ok (.text cs.reverse)
    | _, some items, _ => .ok (.series items.reverse)
    | _, _, some entries => .ok (.series (entries.map Prod.fst).reverse)
    | _, _, _ => .error .invalidOperation

def items (v : Value) : Except ErrorKind Value :=
  match v.entries? with
  | some entries => .ok (.list (entries.map fun p => .list [p.1, p.2]))
  | none => .error .invalidOperation

def join : Filter := fun v c => do
  let joiner ← c.text? 0
  c.atMost 1
  match v.elements? with
  | some items =>
    .ok (.text ((items.map Value.display).intersperse (joiner.getD [])).flatten)
  | none => .error .invalidOperation

/-- The value, or another one in place of a value that is not there; the second argument says that
also a false value is to be replaced. -/
def default : Filter := fun v c => do
  c.atMost 2
  let other := (c.argument? 0).getD (.text [])
  if v.isUndefined then .ok other
  else
    let lax ← ((c.argument? 1).getD (.bool false)).truth
    .ok (if lax && !v.isTrue then other else v)

def attr : Filter := fun v c => do
  let key ← c.argument 0
  c.atMost 1
  if v.isUndefined then .error .undefinedError else .ok (orUndefined (v.item? key))

def chunks {α : Type} (size : Nat) : (fuel : Nat) → List α → List (List α)
  | 0, _ => []
  | _ + 1, [] => []
  | fuel + 1, x :: xs => (x :: xs).take size :: chunks size fuel ((x :: xs).drop size)

def batch : Filter := fun v c => do
  let size ← countOf (← c.argument 0)
  let filler := given? (c.argument? 1)
  c.atMost 2
  if size = 0 then .error .invalidOperation
  else
    let elements ← elementsOf v
    let filled (part : List Value) : List Value := match filler with
      | some w => part ++ List.replicate (size - part.length) w
      | none => part
    .ok (.list ((chunks size elements.length elements).map fun part => .list (filled part)))

/-- The elements in so many lists, of which the first ones are longer by one where the number of
elements is no multiple. A filler makes the others as long, and all of them longer otherwise. -/
def slice : Filter := fun v c => do
  let count ← countOf (← c.argument 0)
  let filler := given? (c.argument? 1)
  c.atMost 2
  if count = 0 then .error .invalidOperation
  else
    let elements ← elementsOf v
    let size := elements.length / count
    let longer := elements.length % count
    let part (i : Nat) : List Value :=
      let start := i * size + min i longer
      let taken := (elements.drop start).take (if i < longer then size + 1 else size)
      if i < longer then taken else taken ++ filler.toList
    .ok (.list ((List.range count).map fun i => .list (part i)))

def rows (columns : List (List Value)) : (fuel : Nat) → List (List Value)
  | 0 => []
  | fuel + 1 =>
    if columns.any List.isEmpty then []
    else columns.filterMap List.head? :: rows (columns.map List.tail) fuel

def zip : Filter := fun v c =>
  match (v :: c.all).mapM Value.elements? with
  | some columns =>
    .ok (.series ((rows columns (columns.headD []).length).map .list))
  | none => .error .invalidOperation

/-- Tables as one table, in which the last value of a key counts, or the elements of all values in a
row. -/
def chain : Filter := fun v c =>
  let values := v :: c.all
  match values.mapM Value.entries?, values.mapM Value.elements? with
  | some tables, _ => .ok (.table (Value.sortedEntries tables.flatten))
  | _, some elements =>
    .ok (if values.all (·.kind = .list) then .list elements.flatten else .series elements.flatten)
  | _, _ => .error .invalidOperation

def ofElements : List (String × Filter) :=
  [("length", unary length), ("count", unary length), ("first", unary first), ("last", unary last),
    ("reverse", unary reverse), ("items", unary items), ("list", unary fun v => do
      .ok (.list (← listOf v))), ("join", join), ("default", default), ("d", default),
    ("attr", attr), ("batch", batch), ("slice", slice), ("zip", zip), ("chain", chain)]

end OverlayConfig.Template.Filters
