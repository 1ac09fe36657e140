import OverlayConfig.Template.Value
set_option autoImplicit false

namespace OverlayConfig.Template.Value

inductive Pair where
  | ints (a b : Int)
  | doubles (a b : Double)

/-- Two values as the operands of arithmetic, if both are numbers. Two unsigned integers of 128 bits
are taken as signed ones. -/
def pair? : Value → Value → Option Pair
  | .int .unsigned128 m, .int .unsigned128 n =>
    some (.ints (Int.bmod m (Nat.pow 2 128)) (Int.bmod n (Nat.pow 2 128)))
  | .double x, b => b.double?.map (.doubles x)
  | a, .double y => a.double?.map (.doubles · y)
  | a, b =>
    match a.int?, b.int? with
    | some m, some n => some (.ints m n)
    | _, _ => Option.none

/-- A number or a truth value as a floating-point number, if nothing gets lost. The greatest integer
of a size counts as the power of two after it. -/
def sameDouble? : Value → Option Double
  | .int size n =>
    let d := Double.ofInt n
    if d.toInt? = some n ∨ n = size.greatest then some d else Option.none
  | v => v.double?

def samePair? : Value → Value → Option Pair
  | .int _ m, .int _ n => some (.ints m n)
  | .double x, b => b.sameDouble?.map (.doubles x)
  | a, .double y => a.sameDouble?.map (.doubles · y)
  | a, b => pair? a b

/-- The order of an integer and a floating-point number that are no pair: by their exact values. -/
def compareExact : Value → Value → Ordering
  | .double x, b => (b.integer?.map fun n => (Double.compareInt n x).swap).getD .eq
  | a, .double y => (a.integer?.map fun m => Double.compareInt m y).getD .eq
  | _, _ => .eq

def compareText : List Char → List Char → Ordering
  | [], [] => .eq
  | [], _ :: _ => .lt
  | _ :: _, [] => .gt
  | a :: as, b :: bs => (compare a.toNat b.toNat).then (compareText as bs)

def compareScalar (a b : Value) : Ordering :=
  match compare a.kind.rank b.kind.rank, a.chars?, b.chars? with
  | .eq, some as, some bs => compareText as bs
  | .eq, _, _ =>
    match a, b with
    | .function f, .function g => compareText f.toList g.toList
    | a, b =>
      match samePair? a b with
      | some (.ints m n) => compare m n
      | some (.doubles x y) => Double.order x y
      | Option.none => compareExact a b
  | o, _, _ => o

mutual
def order : Value → Value → Ordering
  | .list as, .list bs => orderItems as bs
  | .series as, .series bs => orderItems as bs
  | .group k as, .group l bs => (order k l).then (orderItems as bs)
  | .table as, .table bs => orderEntries as bs
  | .table as, .record _ bs => orderEntries as bs
  | .record _ as, .table bs => orderEntries as bs
  | .record _ as, .record _ bs => orderEntries as bs
  | a, b => compareScalar a b

def orderItems : List Value → List Value → Ordering
  | [], [] => .eq
  | [], _ :: _ => .lt
  | _ :: _, [] => .gt
  | a :: as, b :: bs => (order a b).then (orderItems as bs)

def orderEntries : List (Value × Value) → List (Value × Value) → Ordering
  | [], [] => .eq
  | [], _ :: _ => .lt
  | _ :: _, [] => .gt
  | (k, a) :: as, (l, b) :: bs => ((order k l).then (order a b)).then (orderEntries as bs)
end

/-- Equality of values that hold no others: numbers and truth values are equal as numbers. -/
def equalScalar (a b : Value) : Bool :=
  match a, b with
  | .none, .none | .undefined _, .undefined _ => true
  | .function f, .function g => f = g
  | .procedure i .., .procedure j .. => i = j
  | a, b =>
    match a.chars?, b.chars?, samePair? a b with
    | some as, some bs, _ => as = bs
    | _, _, some (.ints m n) => m = n
    | _, _, some (.doubles x y) => Double.compare? x y = some .eq
    | _, _, Option.none => false

mutual
/-- Equality of values. A list and a series are equal by their items, tables by their values at
equal keys. -/
def equal : Value → Value → Bool
  | .list as, .list bs => equalItems as bs
  | .list as, .series bs => equalItems as bs
  | .series as, .list bs => equalItems as bs
  | .series as, .series bs => equalItems as bs
  | .group k as, .group l bs => equal k l && equalItems as bs
  | .table as, .table bs => equalEntries as bs
  | .table as, .record _ bs => equalEntries as bs
  | .record _ as, .table bs => equalEntries as bs
  | .record _ as, .record _ bs => equalEntries as bs
  | .loop _ _ _ as, .loop _ _ _ bs => equalEntries as bs
  | a, b => equalScalar a b

def equalItems : List Value → List Value → Bool
  | [], [] => true
  | a :: as, b :: bs => equal a b && equalItems as bs
  | _, _ => false

def equalEntries : List (Value × Value) → List (Value × Value) → Bool
  | [], [] => true
  | (k, a) :: as, (l, b) :: bs => order k l = .eq && equal a b && equalEntries as bs
  | _, _ => false
end

def lookup? (key : Value) : List (Value × Value) → Option Value
  | [] => Option.none
  | (k, v) :: rest => if order k key = .eq then some v else lookup? key rest

def setEntry (key v : Value) : List (Value × Value) → List (Value × Value)
  | [] => [(key, v)]
  | (k, w) :: rest =>
    match order k key with
    | .eq => (k, v) :: rest
    | .lt => (k, w) :: setEntry key v rest
    | .gt => (key, v) :: (k, w) :: rest

def sortedEntries (entries : List (Value × Value)) : List (Value × Value) :=
  entries.foldl (fun done p => setEntry p.1 p.2 done) []

def place? (key : Value) (length : Nat) : Option Nat := do
  let n ← key.word?
  if 0 ≤ n then some n.toNat else if -n ≤ length then some (length - (-n).toNat) else Option.none

def attribute? (name : String) : Value → Option Value
  | .group key items =>
    if name = "grouper" then some key
    else if name = "list" then some (.series items)
    else Option.none
  | v => v.entries?.bind (lookup? (ofString name))

def itemAt? (items : List Value) (key : Value) : Option Value := do
  let n ← place? key items.length
  items[n]?

def item? (v key : Value) : Option Value :=
  match v, v.chars?, v.items? with
  | .group key' items', _, _ =>
    match key.chars? with
    | some name => attribute? (String.ofList name) (.group key' items')
    | Option.none => itemAt? [key', .series items'] key
  | _, some cs, _ => do
    let n ← place? key cs.length
    let c ← cs[n]?
    some (.text [c])
  | _, _, some items => itemAt? items key
  | v, _, _ => v.entries?.bind (lookup? key)

end OverlayConfig.Template.Value
