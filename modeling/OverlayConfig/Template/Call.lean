import OverlayConfig.Template.Comparison
import OverlayConfig.Template.Value
set_option autoImplicit false

namespace OverlayConfig.Template

/-- The arguments of a call. Those with names are the entries of a table, in ascending order; a call
may have such a table without entries. -/
structure Call where
  values : List Value
  named : Option (List (Value × Value))

abbrev Filter := Value → Call → Except ErrorKind Value

abbrev Test := Value → Call → Except ErrorKind Bool

def readAs {α : Type} (read : Value → Option α) (v : Value) : Except ErrorKind α :=
  match v, read v with
  | .undefined false, _ => .error .undefinedError
  | _, some a => .ok a
  | _, none => .error .invalidOperation

def textOf (v : Value) : Except ErrorKind (List Char) := readAs (fun v => some v.display) v

def wordOf (v : Value) : Except ErrorKind Int := readAs Value.word? v

def countOf (v : Value) : Except ErrorKind Nat := readAs Value.count? v

def charsOf (v : Value) : Except ErrorKind (List Char) := readAs Value.chars? v

def flagOf (v : Value) : Except ErrorKind Bool :=
  match v with
  | .bool b => .ok b
  | _ => .error .invalidOperation

def elementsOf (v : Value) : Except ErrorKind (List Value) := readAs Value.elements? v

def given? (v : Option Value) : Option Value :=
  match v with
  | some .none | some (.undefined _) => none
  | v => v

namespace Call

def entries (c : Call) : List (Value × Value) := c.named.getD []

def isTableAt (c : Call) (n : Nat) : Bool := n = c.values.length && c.named.isSome

def all (c : Call) : List Value := c.values ++ (c.named.map Value.table).toList

def argument? (c : Call) (n : Nat) : Option Value := c.all[n]?

def argument (c : Call) (n : Nat) : Except ErrorKind Value :=
  match c.argument? n with
  | some v => .ok v
  | none => .error .missingArgument

def atMost (c : Call) (n : Nat) : Except ErrorKind Unit :=
  if c.all.length ≤ n then .ok () else .error .tooManyArguments

def noArguments (c : Call) : Except ErrorKind Unit := c.atMost 0

def atMostPlain (c : Call) (n : Nat) : Except ErrorKind Unit :=
  if c.values.length ≤ n then .ok () else .error .tooManyArguments

def text (c : Call) (n : Nat) : Except ErrorKind (List Char) := do
  let v ← c.argument n
  if c.isTableAt n then .error .invalidOperation else textOf v

def text? (c : Call) (n : Nat) : Except ErrorKind (Option (List Char)) :=
  match given? (c.argument? n) with
  | none => .ok none
  | some v => if c.isTableAt n then .error .invalidOperation else .ok (some v.display)

def named? (c : Call) (name : String) : Option Value :=
  given? (Value.lookup? (Value.ofString name) c.entries)

def flag (c : Call) (name : String) : Except ErrorKind Bool :=
  match c.named? name with
  | some v => flagOf v
  | none => .ok false

def textNamed? (c : Call) (name : String) : Except ErrorKind (Option (List Char)) :=
  match c.named? name with
  | some v => (charsOf v).map some
  | none => .ok none

def plain? (c : Call) (n : Nat) : Option Value := given? c.values[n]?

def either? (c : Call) (n : Nat) (name : String) : Option Value := (c.plain? n).or (c.named? name)

def knowing (c : Call) (names : List String) : Except ErrorKind Unit :=
  if c.entries.all fun p => (names.map Value.ofString).any (Value.equal p.1) then .ok ()
  else .error .tooManyArguments

/-- Refuses names that are not known, and those whose place is taken by an argument without name. -/
def knowingInOrder (c : Call) (names : List String) : Except ErrorKind Unit :=
  c.knowing (names.zipIdx.filterMap fun p => if (c.plain? p.2).isSome then none else some p.1)

end Call

def functionNames : List String := ["debug", "dict", "namespace", "range"]

def stepsBetween (lower upper step : Int) : Nat :=
  let distance := if 0 < step then upper - lower else lower - upper
  if distance ≤ 0 then 0 else (distance.toNat + step.natAbs - 1) / step.natAbs

def maxRange : Nat := 100000

def rangeFunction (c : Call) : Except ErrorKind Value := do
  let first ← wordOf (← c.argument 0)
  let second ← (given? (c.argument? 1)).mapM wordOf
  let step ← (given? (c.argument? 2)).mapM wordOf
  c.atMost 3
  let step := step.getD 1
  let (lower, upper) := match second with
    | none => (0, first)
    | some upper => (first, upper)
  if step = 0 then .error .invalidOperation
  else
    let n := stepsBetween lower upper step
    if maxRange < n then .error .invalidOperation
    else .ok (.series ((List.range n).map fun i : Nat => .ofInt (lower + i * step)))

def dictFunction (c : Call) : Except ErrorKind Value := do
  c.atMostPlain 1
  let base ← match c.plain? 0 with
    | none => Except.ok []
    | some v =>
      match v.entries? with
      | some entries => .ok entries
      | none => .error .invalidOperation
  .ok (.table (Value.sortedEntries (base ++ c.entries)))

def namespaceEntries (c : Call) : Except ErrorKind (List (Value × Value)) := do
  let base := given? (c.argument? 0)
  c.atMost 1
  match base with
  | none => .ok []
  | some v =>
    match v.entries? with
    | some entries => .ok (entries.filter fun p => p.1.kind = .text)
    | none => .error .invalidOperation

def debugFunction (c : Call) : Except ErrorKind Value :=
  match c.all with
  | [] => .error .invalidOperation
  | [v] => .ok (.text (v.layOut 0))
  | vs => .ok (.text ((Value.list vs).layOut 0))

def applyFunction (name : String) (c : Call) : Except ErrorKind Value :=
  if name = "range" then rangeFunction c
  else if name = "dict" then dictFunction c
  else if name = "debug" then debugFunction c
  else .error .invalidOperation

end OverlayConfig.Template
