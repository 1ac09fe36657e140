import OverlayConfig.Json.Value
/-!
Reading JSON text. Integers from `-2 ^ 63` up to `2 ^ 64 - 1` stay exact, every other number is a
floating-point number; of a repeated key the last value stays.
-/
set_option autoImplicit false

namespace OverlayConfig.Json

def isBlank (c : Char) : Bool := c = ' ' || c = '\t' || c = '\n' || c = '\r'

def skipBlanks (cs : List Char) : List Char := cs.dropWhile isBlank

def hexValue? (c : Char) : Option Nat :=
  if '0' ≤ c ∧ c ≤ '9' then some (c.toNat - 48)
  else if 'a' ≤ c ∧ c ≤ 'f' then some (c.toNat - 87)
  else if 'A' ≤ c ∧ c ≤ 'F' then some (c.toNat - 55)
  else none

def hexFour? (a b c d : Char) : Option Nat := do
  some ((((← hexValue? a) * 16 + (← hexValue? b)) * 16 + (← hexValue? c)) * 16 + (← hexValue? d))

/-- The rest of a string after its opening quote: its characters and what follows the closing
quote. A pair of surrogate escapes is one character, and a lone surrogate is refused. -/
def readString : List Char → Option (List Char × List Char)
  | [] => none
  | '\x22' :: rest => some ([], rest)
  | '\\' :: 'u' :: a :: b :: c :: d :: rest => do
    let n ← hexFour? a b c d
    if 0xDC00 ≤ n ∧ n < 0xE000 then none
    else if 0xD800 ≤ n ∧ n < 0xDC00 then
      match rest with
      | '\\' :: 'u' :: e :: f :: g :: h :: rest => do
        let low ← hexFour? e f g h
        if 0xDC00 ≤ low ∧ low < 0xE000 then
          let (cs, rest) ← readString rest
          some (Char.ofNat (0x10000 + (n - 0xD800) * 0x400 + (low - 0xDC00)) :: cs, rest)
        else none
      | _ => none
    else
      let (cs, rest) ← readString rest
      some (Char.ofNat n :: cs, rest)
  | '\\' :: c :: rest => do
    let plain ← match c with
      | '\x22' => some '\x22'
      | '\\' => some '\\'
      | '/' => some '/'
      | 'b' => some '\x08'
      | 'f' => some '\x0c'
      | 'n' => some '\n'
      | 'r' => some '\r'
      | 't' => some '\t'
      | _ => none
    let (cs, rest) ← readString rest
    some (plain :: cs, rest)
  | c :: rest =>
    if c.toNat < 32 then none
    else do
      let (cs, rest) ← readString rest
      some (c :: cs, rest)

def digitsValue (cs : List Char) : Nat := cs.foldl (fun n c => n * 10 + (c.toNat - 48)) 0

/-- Reads as many leading digits as fit in 64 bits: their value and how many digits are left. -/
def fitDigits : Nat → List Char → Nat × Nat
  | acc, [] => (acc, 0)
  | acc, c :: cs =>
    if acc * 10 + (c.toNat - 48) < Nat.pow 2 64 then fitDigits (acc * 10 + (c.toNat - 48)) cs
    else (acc, cs.length + 1)

def scaleTen : Nat → Double → Int → Option Double
  | 0, _, _ => none
  | fuel + 1, d, e =>
    if e.natAbs ≤ 308 then
      let power := Double.ofDecimal false 1 e.natAbs
      if 0 ≤ e then
        let product := d.mul power
        if product.isFinite then some product else none
      else some (d.div power)
    else if d.isZero then some d
    else if 0 ≤ e then none
    else scaleTen fuel (d.div (Double.ofDecimal false 1 308)) (e + 308)

def decimalNumber (negative : Bool) (whole fraction : List Char) (exponent : Int) :
    Option Double := do
  let (n, dropped) := fitDigits 0 whole
  let (n, scale) :=
    if dropped = 0 then
      let (n, left) := fitDigits n fraction
      (n, (left : Int) - fraction.length)
    else (n, (dropped : Int))
  let d ← scaleTen 2000 (Double.ofInt n) (max (-400000) (min 400000 (exponent + scale)))
  some (if negative then d.neg else d)

def readNumber (cs : List Char) : Option (Number × List Char) := do
  let (negative, cs) := match cs with
    | '-' :: rest => (true, rest)
    | _ => (false, cs)
  let whole := cs.takeWhile Char.isDigit
  let cs := cs.dropWhile Char.isDigit
  if whole.isEmpty || (whole.length > 1 && whole.head? == some '0') then none
  else
    let (fraction, cs) ← match cs with
      | '.' :: rest =>
        let digits := rest.takeWhile Char.isDigit
        if digits.isEmpty then none else some (some digits, rest.dropWhile Char.isDigit)
      | _ => some (none, cs)
    let exponentOf (cs : List Char) : Option (Int × List Char) :=
      let (minus, cs) := match cs with
        | '-' :: rest => (true, rest)
        | '+' :: rest => (false, rest)
        | _ => (false, cs)
      let digits := cs.takeWhile Char.isDigit
      if digits.isEmpty then none
      else
        let n : Int := digitsValue digits
        some (if minus then -n else n, cs.dropWhile Char.isDigit)
    let (exponent, cs) ← match cs with
      | 'e' :: rest | 'E' :: rest => (exponentOf rest).map (fun (e, r) => (some e, r))
      | _ => some (none, cs)
    match fraction, exponent with
    | none, none =>
      let n := digitsValue whole
      if negative then
        if n = 0 then some (.double (Double.zero.neg), cs)
        else if n ≤ Nat.pow 2 63 then some (.int (-n), cs)
        else (decimalNumber negative whole [] 0).map (fun d => (.double d, cs))
      else if n < Nat.pow 2 64 then some (.int n, cs)
      else (decimalNumber negative whole [] 0).map (fun d => (.double d, cs))
    | fraction, exponent =>
      (decimalNumber negative whole (fraction.getD []) (exponent.getD 0)).map
        (fun d => (.double d, cs))

mutual
def readValue : Nat → List Char → Option (Json × List Char)
  | 0, _ => none
  | fuel + 1, cs =>
    match skipBlanks cs with
    | 'n' :: 'u' :: 'l' :: 'l' :: rest => some (.null, rest)
    | 't' :: 'r' :: 'u' :: 'e' :: rest => some (.bool true, rest)
    | 'f' :: 'a' :: 'l' :: 's' :: 'e' :: rest => some (.bool false, rest)
    | '\x22' :: rest => (readString rest).map (fun (s, r) => (.string (String.ofList s), r))
    | '[' :: rest =>
      match skipBlanks rest with
      | ']' :: rest => some (.array [], rest)
      | rest => (readItems fuel rest []).map (fun (items, r) => (.array items, r))
    | '{' :: rest =>
      match skipBlanks rest with
      | '}' :: rest => some (.object [], rest)
      | rest => (readFields fuel rest []).map (fun (fields, r) => (.object fields, r))
    | rest => (readNumber rest).map (fun (n, r) => (.number n, r))

def readItems : Nat → List Char → List Json → Option (List Json × List Char)
  | 0, _, _ => none
  | fuel + 1, cs, done => do
    let (v, rest) ← readValue fuel cs
    match skipBlanks rest with
    | ',' :: rest => readItems fuel rest (v :: done)
    | ']' :: rest => some ((v :: done).reverse, rest)
    | _ => none

def readFields : Nat → List Char → Fields Json → Option (Fields Json × List Char)
  | 0, _, _ => none
  | fuel + 1, cs, done =>
    match skipBlanks cs with
    | '\x22' :: rest => do
      let (k, rest) ← readString rest
      match skipBlanks rest with
      | ':' :: rest =>
        let (v, rest) ← readValue fuel rest
        let done := Fields.insert (String.ofList k) v done
        match skipBlanks rest with
        | ',' :: rest => readFields fuel rest done
        | '}' :: rest => some (done, rest)
        | _ => none
      | _ => none
    | _ => none
end

def read? (cs : List Char) : Option Json := do
  let (v, rest) ← readValue (2 * cs.length + 2) cs
  if (skipBlanks rest).isEmpty then some v else none

end OverlayConfig.Json
