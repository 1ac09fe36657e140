import OverlayConfig.Decimal.Double
import OverlayConfig.Template.Comparison
import OverlayConfig.Template.Value
set_option autoImplicit false

namespace OverlayConfig.Template

inductive UnaryOperator where
  | not
  | negate
  deriving DecidableEq, Repr

inductive BinaryOperator where
  | add
  | subtract
  | concatenate
  | multiply
  | divide
  | quotient
  | modulo
  | power
  deriving DecidableEq, Repr

inductive Relation where
  | equal
  | unequal
  | less
  | lessEqual
  | greater
  | greaterEqual
  | contained
  | absent
  deriving DecidableEq, Repr

namespace Value

def boundedInt (n : Int) : Except ErrorKind Value :=
  if -(Int.pow 2 127) ≤ n ∧ n < Int.pow 2 127 then .ok (ofInt n) else .error .invalidOperation

def arithmetic (ints : Int → Int → Option Int) (doubles : Double → Double → Option Double)
    (a b : Value) : Except ErrorKind Value :=
  match pair? a b with
  | some (.ints m n) =>
    match ints m n with
    | some k => boundedInt k
    | Option.none => .error .invalidOperation
  | some (.doubles x y) =>
    match doubles x y with
    | some z => .ok (.double z)
    | Option.none => .error .invalidOperation
  | Option.none => .error .invalidOperation

def addition (a b : Value) : Except ErrorKind Value :=
  match a.chars?, b.chars?, a.items?, b.items? with
  | some as, some bs, _, _ => .ok (.text (as ++ bs))
  | _, _, some as, some bs => .ok (.series (as ++ bs))
  | _, _, _, _ => arithmetic (fun m n => some (m + n)) (fun x y => some (x.add y)) a b

def copiesOnto {α : Type} (items : List α) : Nat → List α → List α
  | 0, rest => rest
  | n + 1, rest => copiesOnto items n (items ++ rest)

/-- Repeats characters or items; nothing stays nothing however often it is repeated. -/
def repeated {α : Type} (items : List α) (n : Nat) : List α :=
  if items.isEmpty then [] else copiesOnto items n []

def maxRepeatedBytes : Nat := 100000000

def repeatedText (cs : List Char) (v : Value) : Except ErrorKind Value :=
  match v.count? with
  | some n =>
    if maxRepeatedBytes < n * (cs.foldl (fun sum c => sum + c.utf8Size) 0) then
      .error .invalidOperation
    else .ok (.text (repeated cs n))
  | Option.none => .error .invalidOperation

def repeatedItems (items : List Value) (v : Value) : Except ErrorKind Value :=
  match v.count? with
  | some n => .ok (.series (repeated items n))
  | Option.none => .error .invalidOperation

def multiplication (a b : Value) : Except ErrorKind Value :=
  match a.chars?, b.chars?, a.items?, b.items? with
  | some cs, _, _, _ => repeatedText cs b
  | _, some cs, _, _ => repeatedText cs a
  | _, _, some items, _ => repeatedItems items b
  | _, _, _, some items => repeatedItems items a
  | _, _, _, _ => arithmetic (fun m n => some (m * n)) (fun x y => some (x.mul y)) a b

def division (a b : Value) : Except ErrorKind Value :=
  match a.double?, b.double? with
  | some x, some y => .ok (.double (x.div y))
  | _, _ => .error .invalidOperation

/-- Powers with an exponent of 32 bits. A power that is sure to need more than 128 bits is not
computed. -/
def integerPower (m n : Int) : Option Int :=
  if n < 0 ∨ Int.pow 2 32 ≤ n then Option.none
  else if m = 0 then some (if n = 0 then 1 else 0)
  else if m = 1 ∨ (m = -1 ∧ n % 2 = 0) then some 1
  else if m = -1 then some (-1)
  else if n ≤ 127 then some (Int.pow m n.toNat) else Option.none

def containsText (part : List Char) : List Char → Bool
  | [] => part.isEmpty
  | c :: cs => part.isPrefixOf (c :: cs) || containsText part cs

def containedIn (v container : Value) : Except ErrorKind Bool :=
  match container with
  | .undefined _ | .function _ => .ok false
  | container =>
    match container.chars?, container.items?, container.entries? with
    | some cs, _, _ => .ok (containsText v.display cs)
    | _, some items, _ => .ok (items.any (equal · v))
    | _, _, some entries => .ok (lookup? v entries).isSome
    | _, _, _ => .error .invalidOperation

end Value

def BinaryOperator.apply (op : BinaryOperator) (a b : Value) : Except ErrorKind Value :=
  match op with
  | .add => Value.addition a b
  | .subtract => Value.arithmetic (fun m n => some (m - n)) (fun x y => some (x.sub y)) a b
  | .concatenate => do
    let a ← a.defined
    let b ← b.defined
    .ok (.text (a.display ++ b.display))
  | .multiply => Value.multiplication a b
  | .divide => Value.division a b
  | .quotient =>
    Value.arithmetic (fun m n => if n = 0 then none else some (m / n))
      (fun x y => some (x.quotient y)) a b
  | .modulo =>
    Value.arithmetic (fun m n => if n = 0 then none else some (m % n))
      (fun x y => some (x.modulo y)) a b
  | .power => Value.arithmetic Value.integerPower (fun x y => some (x.power y)) a b

def Relation.holds (r : Relation) (a b : Value) : Except ErrorKind Bool := do
  let a ← a.defined
  let b ← b.defined
  match r with
  | .equal => .ok (Value.equal a b)
  | .unequal => .ok !(Value.equal a b)
  | .less => .ok (Value.order a b = .lt)
  | .lessEqual => .ok (Value.order a b ≠ .gt)
  | .greater => .ok (Value.order a b = .gt)
  | .greaterEqual => .ok (Value.order a b ≠ .lt)
  | .contained => Value.containedIn a b
  | .absent => (Value.containedIn a b).map (!·)

def UnaryOperator.apply (op : UnaryOperator) (v : Value) : Except ErrorKind Value :=
  match op, v with
  | .not, v => v.truth.map fun b => .bool !b
  | .negate, .int .unsigned128 n =>
    if n = Int.pow 2 127 then .ok v
    else if n < Int.pow 2 127 then .ok (Value.ofInt (-n)) else .error .invalidOperation
  | .negate, .int _ n => Value.boundedInt (-n)
  | .negate, .double d => .ok (.double d.neg)
  | .negate, _ => .error .invalidOperation

namespace Value

def bound (v : Value) : Except ErrorKind (Option Int) :=
  match v with
  | .none => .ok Option.none
  | v =>
    match v.word? with
    | some n => .ok (some n)
    | Option.none => .error .invalidOperation

def everyNth {α : Type} (step : Nat) : (skip : Nat) → List α → List α
  | _, [] => []
  | 0, x :: xs => x :: everyNth step (step - 1) xs
  | n + 1, _ :: xs => everyNth step n xs

def forwardPlace (length : Nat) (n : Int) : Nat :=
  if 0 ≤ n then min n.toNat length else (length + n).toNat

def sliceForward {α : Type} (items : List α) (start stop : Option Int) (step : Nat) : List α :=
  let length := items.length
  let first := forwardPlace length (start.getD 0)
  let last := forwardPlace length (stop.getD length)
  everyNth step 0 ((items.take last).drop first)

/-- The places of a slice that goes backwards. It ends after the place of the second bound, but at
the first item if that place is the first one. -/
def backwardPlaces (length : Nat) (start stop : Option Int) (step : Nat) : List Nat :=
  let first : Nat := match start with
    | some n => if n < 0 then (length + n).toNat else min n.toNat (length - 1)
    | Option.none => length - 1
  let last : Nat := match stop with
    | some n => if n < 0 then (length + n).toNat else n.toNat
    | Option.none => 0
  if first < last then []
  else
    let n := if last = 0 then (first + step) / step else (first - last + step - 1) / step
    (List.range n).map fun i => first - i * step

def sliceBackward {α : Type} (items : List α) (start stop : Option Int) (step : Nat) : List α :=
  let all := items.toArray
  (backwardPlaces items.length start stop step).filterMap fun i => all[i]?

def sliceList {α : Type} (items : List α) (start stop : Option Int) (step : Int) : List α :=
  if 0 < step then sliceForward items start stop step.toNat
  else sliceBackward items start stop step.natAbs

def slice (v start stop step : Value) : Except ErrorKind Value := do
  if v.isUndefined then throw ErrorKind.undefinedError
  let start ← start.bound
  let stop ← stop.bound
  let step ← step.bound
  let step := step.getD 1
  if step = 0 then .error .invalidOperation
  else
    match v, v.chars?, v.items? with
    | .none, _, _ => .ok (.list [])
    | _, some cs, _ => .ok (.text (sliceList cs start stop step))
    | _, _, some items => .ok (.series (sliceList items start stop step))
    | _, _, _ => .error .invalidOperation

end Value

end OverlayConfig.Template
