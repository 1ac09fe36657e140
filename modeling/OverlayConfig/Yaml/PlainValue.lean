import OverlayConfig.Json.Value
set_option autoImplicit false

namespace OverlayConfig.Yaml

inductive PlainValue where
  | null
  | bool (value : Bool)
  | int (value : Int)
  | double (value : Double)
  | text
  deriving DecidableEq, Repr

def after? : (start cs : List Char) → Option (List Char)
  | [], cs => some cs
  | _ :: _, [] => none
  | s :: start, c :: cs => if s = c then after? start cs else none

def isNullWord (cs : List Char) : Bool :=
  cs = "null".toList || cs = "Null".toList || cs = "NULL".toList || cs = ['~']

def boolWord? (cs : List Char) : Option Bool :=
  if cs = "true".toList ∨ cs = "True".toList ∨ cs = "TRUE".toList then some true
  else if cs = "false".toList ∨ cs = "False".toList ∨ cs = "FALSE".toList then some false
  else none

def isZeroLed (cs : List Char) : Bool :=
  let cs := match cs with
    | '-' :: rest | '+' :: rest => rest
    | _ => cs
  match cs with
  | '0' :: c :: rest => (c :: rest).all Char.isDigit
  | _ => false

def digitValue? (base : Nat) (c : Char) : Option Nat :=
  let n :=
    if '0' ≤ c ∧ c ≤ '9' then c.toNat - 48
    else if 'a' ≤ c ∧ c ≤ 'f' then c.toNat - 87
    else if 'A' ≤ c ∧ c ≤ 'F' then c.toNat - 55
    else base
  if n < base then some n else none

def digitsValue? (base : Nat) : Nat → List Char → Option Nat
  | acc, [] => some acc
  | acc, c :: cs => do
    let d ← digitValue? base c
    digitsValue? base (acc * base + d) cs

def natural? (base : Nat) (cs : List Char) : Option Nat :=
  if cs.isEmpty then none else digitsValue? base 0 cs

def marked? (cs : List Char) : Option Nat :=
  match after? ['0', 'x'] cs with
  | some rest => natural? 16 rest
  | none =>
    match after? ['0', 'o'] cs with
    | some rest => natural? 8 rest
    | none =>
      match after? ['0', 'b'] cs with
      | some rest => natural? 2 rest
      | none => none

def integer? (cs : List Char) : Option Int :=
  if isZeroLed cs then none
  else
    match cs with
    | '-' :: rest => ((marked? rest).or (natural? 10 rest)).map fun n => -(n : Int)
    | '+' :: rest => ((marked? rest).or (natural? 10 rest)).map fun n => (n : Int)
    | cs => ((marked? cs).or (natural? 10 cs)).map fun n => (n : Int)

def exponent? : List Char → Option Int
  | [] => some 0
  | c :: rest =>
    if c = 'e' ∨ c = 'E' then
      match rest with
      | '-' :: digits => (natural? 10 digits).map fun n => -(n : Int)
      | '+' :: digits => (natural? 10 digits).map fun n => (n : Int)
      | digits => (natural? 10 digits).map fun n => (n : Int)
    else none

def decimal? (negative : Bool) (cs : List Char) : Option Double :=
  let whole := cs.takeWhile Char.isDigit
  let cs := cs.dropWhile Char.isDigit
  let (fraction, cs) := match cs with
    | '.' :: rest => (rest.takeWhile Char.isDigit, rest.dropWhile Char.isDigit)
    | _ => ([], cs)
  let digits := whole ++ fraction
  if digits.isEmpty then none
  else do
    let e ← exponent? cs
    let n ← digitsValue? 10 0 digits
    some (Double.ofDecimal negative n (e - fraction.length))

def double? (cs : List Char) : Option Double :=
  let unsigned := match cs with
    | '+' :: rest => rest
    | _ => cs
  if unsigned = ".inf".toList ∨ unsigned = ".Inf".toList ∨ unsigned = ".INF".toList then
    some (.infinite false)
  else if cs = "-.inf".toList ∨ cs = "-.Inf".toList ∨ cs = "-.INF".toList then
    some (.infinite true)
  else if cs = ".nan".toList ∨ cs = ".NaN".toList ∨ cs = ".NAN".toList then some .notANumber
  else
    let value := match cs with
      | '-' :: rest => decimal? true rest
      | '+' :: rest => decimal? false rest
      | _ => decimal? false cs
    value.bind fun d => if d.isFinite then some d else none

def fitsWide (n : Int) : Bool := -(Int.pow 2 127) ≤ n && n < Int.pow 2 128

def fitsWord (n : Int) : Bool := -(Int.pow 2 63) ≤ n && n < Int.pow 2 64

def plainValue (cs : List Char) : PlainValue :=
  if cs.isEmpty || isNullWord cs then .null
  else
    match boolWord? cs with
    | some b => .bool b
    | none =>
      match (integer? cs).bind (fun n => if fitsWide n then some n else none) with
      | some n => .int n
      | none =>
        if isZeroLed cs then .text
        else
          match double? cs with
          | some d => .double d
          | none => .text

end OverlayConfig.Yaml
