import OverlayConfig.Template.Call
import OverlayConfig.Template.Operators
import OverlayConfig.Yaml.PlainValue
set_option autoImplicit false

namespace OverlayConfig.Template.Filters

def unary (f : Value → Except ErrorKind Value) : Filter := fun v c => do
  c.noArguments
  f v

def clampedInt (d : Double) : Value :=
  match d with
  | .notANumber => .int .signed128 0
  | .infinite negative => .int .signed128 (if negative then -(Int.pow 2 127) else Int.pow 2 127 - 1)
  | d =>
    .int .signed128 (max (-(Int.pow 2 127)) (min (d.truncate?.getD 0) (Int.pow 2 127 - 1)))

def signed (cs : List Char) : Bool × List Char :=
  match cs with
  | '-' :: rest => (true, rest)
  | '+' :: rest => (false, rest)
  | cs => (false, cs)

/-- The floating-point number that a text stands for. Infinity and what is not a number have names,
in any case. -/
def readDouble? (cs : List Char) : Option Double :=
  let (negative, digits) := signed cs
  let name := digits.map Char.toLower
  if name = "inf".toList ∨ name = "infinity".toList then some (.infinite negative)
  else if name = "nan".toList then some .notANumber
  else Yaml.decimal? negative digits

def readInt? (cs : List Char) : Option Int := do
  let (negative, digits) := signed cs
  let n ← Yaml.natural? 10 digits
  let n : Int := if negative then -n else n
  if -(Int.pow 2 127) ≤ n ∧ n < Int.pow 2 127 then some n else none

def int (v : Value) : Except ErrorKind Value :=
  match v with
  | .undefined false => .error .undefinedError
  | .undefined true | .none => .ok (.ofInt 0)
  | .bool b => .ok (.ofInt (if b then 1 else 0))
  | .int size n => .ok (.int size n)
  | .double d => .ok (clampedInt d)
  | v =>
    match v.chars? with
    | none => .error .invalidOperation
    | some cs =>
      match readInt? cs, readDouble? cs with
      | some n, _ => .ok (.int .signed128 n)
      | none, some d => .ok (clampedInt d)
      | none, none => .error .invalidOperation

def float (v : Value) : Except ErrorKind Value :=
  match v with
  | .undefined false => .error .undefinedError
  | .undefined true | .none => .ok (.double .zero)
  | v =>
    match v.double?.or (v.chars?.bind readDouble?) with
    | some d => .ok (.double d)
    | none => .error .invalidOperation

def abs : Value → Except ErrorKind Value
  | .int .unsigned64 n => .ok (.int .unsigned64 n)
  | .int .unsigned128 n => .ok (.int .unsigned128 n)
  | .int _ n => Value.boundedInt n.natAbs
  | .double d => .ok (.double d.abs)
  | _ => .error .invalidOperation

def round : Filter := fun v c => do
  let places ← (given? (c.argument? 0)).mapM wordOf
  c.atMost 1
  let places := places.getD 0
  match v with
  | .int .. => .ok v
  | .double d =>
    if -(Int.pow 2 31) ≤ places ∧ places < Int.pow 2 31 then
      let scale := Double.roundedPowerOfTen places
      .ok (.double ((scale.mul d).roundHalfAway.div scale))
    else .error .invalidOperation
  | _ => .error .invalidOperation

def sumOf (sum : Value) : List Value → Except ErrorKind Value
  | [] => .ok sum
  | v :: rest =>
    match v with
    | .undefined false => .error .undefinedError
    | .undefined true => sumOf sum rest
    | v =>
      if v.kind = .number then do
        let sum ← Value.addition sum v
        sumOf sum rest
      else .error .invalidOperation

def ofNumbers : List (String × Filter) :=
  [("int", unary int), ("float", unary float), ("abs", unary abs), ("round", round),
    ("bool", unary fun v => v.truth.map .bool),
    ("sum", unary fun v => do sumOf (.ofInt 0) (← elementsOf v))]

end OverlayConfig.Template.Filters
