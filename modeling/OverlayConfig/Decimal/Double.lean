/-!
Binary floating-point numbers of 64 bits, as exact values. A finite number is a sign, a mantissa
and a power of two; every operation computes the exact rational result and rounds it once, to the
nearest number and to the even mantissa on a tie.
-/
set_option autoImplicit false

namespace OverlayConfig

/-- A floating-point number. In `finite negative mantissa exponent` the value is
`mantissa * 2 ^ exponent`, with `mantissa < 2 ^ 53`, `-1074 ≤ exponent ≤ 971`, and
`2 ^ 52 ≤ mantissa` unless the exponent is the least one. -/
inductive Double where
  | finite (negative : Bool) (mantissa : Nat) (exponent : Int)
  | infinite (negative : Bool)
  | notANumber
  deriving DecidableEq, Repr, Inhabited

namespace Double

def minExponent : Int := -1074

def maxExponent : Int := 971

def roundQuotient (num den : Nat) : Nat :=
  let q := num / den
  let r := num % den
  if 2 * r < den then q
  else if den < 2 * r then q + 1
  else if q % 2 = 0 then q else q + 1

/-- Multiplies the quotient `num / den` by `2 ^ k`, as a pair of numerator and denominator. -/
def scaleTwo (num den : Nat) (k : Int) : Nat × Nat :=
  if 0 ≤ k then (num * Nat.pow 2 k.toNat, den) else (num, den * Nat.pow 2 (-k).toNat)

/-- The exponent of the greatest power of two that is at most the positive quotient. -/
def floorLog2 (num den : Nat) : Int :=
  let l : Int := (Nat.log2 num : Int) - Nat.log2 den
  let (n, d) := scaleTwo num den (-l)
  if d ≤ n then l else l - 1

def ofRatio (negative : Bool) (num den : Nat) : Double :=
  if num = 0 then .finite negative 0 minExponent
  else
    let e := max (floorLog2 num den - 52) minExponent
    let (n, d) := scaleTwo num den (-e)
    let m := roundQuotient n d
    let (m, e) := if m = Nat.pow 2 53 then (Nat.pow 2 52, e + 1) else (m, e)
    if maxExponent < e then .infinite negative else .finite negative m e

def zero : Double := .finite false 0 minExponent

def ofInt (n : Int) : Double := ofRatio (n < 0) n.natAbs 1

/-- The number nearest to `digits * 10 ^ exponent`. Exponents beyond the range of floating-point
numbers are settled without computing the power. -/
def ofDecimal (negative : Bool) (digits : Nat) (exponent : Int) : Double :=
  if digits = 0 then .finite negative 0 minExponent
  else
    let magnitude : Int := (Nat.log2 digits : Int) * 3 / 10 + exponent
    if 400 < magnitude then .infinite negative
    else if magnitude < -500 then .finite negative 0 minExponent
    else if 0 ≤ exponent then ofRatio negative (digits * Nat.pow 10 exponent.toNat) 1
    else ofRatio negative digits (Nat.pow 10 (-exponent).toNat)

def isFinite : Double → Bool
  | .finite .. => true
  | _ => false

def isZero : Double → Bool
  | .finite _ 0 _ => true
  | _ => false

def isNegative : Double → Bool
  | .finite s _ _ | .infinite s => s
  | .notANumber => false

def neg : Double → Double
  | .finite s m e => .finite (!s) m e
  | .infinite s => .infinite (!s)
  | .notANumber => .notANumber

def abs : Double → Double
  | .finite _ m e => .finite false m e
  | .infinite _ => .infinite false
  | .notANumber => .notANumber

/-- A signed mantissa over a common power of two: the exact value of a finite number is
`units * 2 ^ exponent` with the given exponent, which must not exceed its own. -/
def unitsAt (negative : Bool) (mantissa : Nat) (exponent target : Int) : Int :=
  let m : Int := (mantissa * Nat.pow 2 (exponent - target).toNat : Nat)
  if negative then -m else m

/-- The number nearest to `units * 2 ^ exponent`; `negativeZero` is the sign of a zero result. -/
def ofUnits (units exponent : Int) (negativeZero : Bool) : Double :=
  if units = 0 then .finite negativeZero 0 minExponent
  else
    let (n, d) := scaleTwo units.natAbs 1 exponent
    ofRatio (units < 0) n d

def add : Double → Double → Double
  | .notANumber, _ | _, .notANumber => .notANumber
  | .infinite s, .infinite t => if s = t then .infinite s else .notANumber
  | .infinite s, _ | _, .infinite s => .infinite s
  | .finite s m e, .finite t n f =>
    let x := min e f
    ofUnits (unitsAt s m e x + unitsAt t n f x) x (s && t)

def sub (a b : Double) : Double := add a b.neg

def mul : Double → Double → Double
  | .notANumber, _ | _, .notANumber => .notANumber
  | .infinite s, .infinite t => .infinite (s != t)
  | .infinite s, .finite t n _ | .finite t n _, .infinite s =>
    if n = 0 then .notANumber else .infinite (s != t)
  | .finite s m e, .finite t n f =>
    let (p, q) := scaleTwo (m * n) 1 (e + f)
    ofRatio (s != t) p q

def div : Double → Double → Double
  | .notANumber, _ | _, .notANumber => .notANumber
  | .infinite _, .infinite _ => .notANumber
  | .infinite s, .finite t _ _ => .infinite (s != t)
  | .finite s _ _, .infinite t => .finite (s != t) 0 minExponent
  | .finite s m e, .finite t n f =>
    if n = 0 then (if m = 0 then .notANumber else .infinite (s != t))
    else
      let (p, q) := scaleTwo m n (e - f)
      ofRatio (s != t) p q

/-- The remainder of the division whose quotient is rounded toward zero; it has the sign of the
dividend. -/
def modulo : Double → Double → Double
  | .finite s m e, .finite _ n f =>
    if n = 0 then .notANumber
    else
      let x := min e f
      ofUnits (Int.tmod (unitsAt s m e x) (unitsAt false n f x)) x s
  | .finite s m e, .infinite _ => .finite s m e
  | _, _ => .notANumber

def compare? : Double → Double → Option Ordering
  | .notANumber, _ | _, .notANumber => none
  | .infinite s, .infinite t =>
    some (if s = t then .eq else if s then .lt else .gt)
  | .infinite s, .finite .. => some (if s then .lt else .gt)
  | .finite .., .infinite t => some (if t then .gt else .lt)
  | .finite s m e, .finite t n f =>
    let x := min e f
    some (compare (unitsAt s m e x) (unitsAt t n f x))

/-- The order of all numbers: the zero with a sign stands before the one without, and a value that
is not a number before all others. -/
def order : Double → Double → Ordering
  | .notANumber, .notANumber => .eq
  | .notANumber, _ => .lt
  | _, .notANumber => .gt
  | a, b =>
    match compare? a b with
    | some .eq => if a.isNegative = b.isNegative then .eq else if a.isNegative then .lt else .gt
    | some o => o
    | none => .eq

def compareInt (n : Int) : Double → Ordering
  | .notANumber => .gt
  | .infinite s => if s then .gt else .lt
  | .finite s m e =>
    let x := min e 0
    compare (n * Int.pow 2 (-x).toNat) (unitsAt s m e x)

def truncate : Double → Double
  | .finite s m e => if 0 ≤ e then .finite s m e else ofRatio s (m / Nat.pow 2 (-e).toNat) 1
  | d => d

def roundHalfAway : Double → Double
  | .finite s m e =>
    if 0 ≤ e then .finite s m e
    else ofRatio s ((2 * m + Nat.pow 2 (-e).toNat) / Nat.pow 2 ((-e).toNat + 1)) 1
  | d => d

/-- The quotient of Euclidean division. It is found from the quotient that is already rounded, so
that `1.0` divided by `0.1` is ten although the remainder is not zero. -/
def quotient (a b : Double) : Double :=
  let q := (div a b).truncate
  if compare? (modulo a b) zero = some .lt then
    if compare? b zero = some .gt then sub q (ofInt 1) else add q (ofInt 1)
  else q

def toInt? : Double → Option Int
  | .finite s m e =>
    if 0 ≤ e then some (unitsAt s m e 0)
    else
      let d := Nat.pow 2 (-e).toNat
      if m % d = 0 then some (unitsAt s (m / d) 0 0) else none
  | _ => none

def truncate? : Double → Option Int
  | .finite s m e =>
    if 0 ≤ e then some (unitsAt s m e 0)
    else some (unitsAt s (m / Nat.pow 2 (-e).toNat) 0 0)
  | _ => none

end Double

end OverlayConfig

namespace OverlayConfig.Double

def fractionBits : Nat := 320

def fixedOne : Int := Int.pow 2 fractionBits

def fixedMul (a b : Int) : Int := a * b / fixedOne

/-- The sum `z + z ^ 3 / 3 + z ^ 5 / 5 + …` of so many terms, the first of which has the divisor
`k`. -/
def oddSeries (square : Int) : (terms : Nat) → (k : Int) → (power : Int) → Int
  | 0, _, _ => 0
  | terms + 1, k, power => power / k + oddSeries square terms (k + 2) (fixedMul power square)

/-- The logarithm of the positive quotient `num / den`, which lies between one and two. It is twice
the area tangent of `(num - den) / (num + den)`, which is at most a third. -/
def fixedLog (num den : Nat) : Int :=
  let z : Int := ((num : Int) - den) * fixedOne / (num + den)
  2 * oddSeries (fixedMul z z) 110 1 z

def fixedLogTwo : Int := fixedLog 2 1

/-- The sum `1 + t + t ^ 2 / 2 + t ^ 3 / 6 + …` of so many further terms after the given one, which
is the `k`-th. -/
def exponentialSeries (t : Int) : (terms : Nat) → (k : Int) → (term : Int) → Int
  | 0, _, term => term
  | terms + 1, k, term =>
    term + exponentialSeries t terms (k + 1) (fixedMul term t / (k + 1))

/-- The number nearest to the exponential of a fixed-point number: a power of two times the
exponential of what is left, which is less than the logarithm of two. -/
def ofFixedExponential (t : Int) : Double :=
  let n := t / fixedLogTwo
  if 2000 < n then .infinite false
  else if n < -2000 then .finite false 0 minExponent
  else
    let e := exponentialSeries (t - n * fixedLogTwo) 80 0 fixedOne
    let (p, q) := scaleTwo e.toNat 1 (n - fractionBits)
    ofRatio false p q

/-- The power of a positive number `mantissa * 2 ^ exponent` to `units * 2 ^ scale`. -/
def transcendentalPower (mantissa : Nat) (exponent units scale : Int) : Double :=
  let l := Nat.log2 mantissa
  let log := fixedLog mantissa (Nat.pow 2 l) + (exponent + l) * fixedLogTwo
  let product := log * units
  ofFixedExponential
    (if 0 ≤ scale then product * Int.pow 2 scale.toNat else product / Int.pow 2 (-scale).toNat)

def maxExactPower : Nat := 64

def twos (n : Nat) : Nat := (List.range (Nat.log2 n + 1)).foldl
  (fun found k => if n % Nat.pow 2 (k + 1) = 0 then k + 1 else found) 0

/-- The power of a positive number `mantissa * 2 ^ exponent` to an integer, if it is rational with
moderate terms: small exponents, and powers of two. -/
def exactPower? (mantissa : Nat) (exponent n : Int) : Option Double :=
  let shift := twos mantissa
  let odd := mantissa / Nat.pow 2 shift
  if odd = 1 ∨ n.natAbs ≤ maxExactPower then
    let e := (exponent + shift) * n
    if e < -(Int.pow 2 16) then some (.finite false 0 minExponent)
    else if Int.pow 2 16 < e then some (.infinite false)
    else
      let power := if odd = 1 then 1 else Nat.pow odd n.natAbs
      let (p, q) := if 0 ≤ n then scaleTwo power 1 e else scaleTwo 1 power e
      some (ofRatio false p q)
  else none

def positivePower (mantissa : Nat) (exponent : Int) : (degree : Double) → Double
  | .notANumber => .notANumber
  | .infinite negative =>
    match compare? (.finite false mantissa exponent) (ofInt 1) with
    | some .eq => ofInt 1
    | some .gt => if negative then zero else .infinite false
    | _ => if negative then .infinite false else zero
  | .finite negative m e =>
    let degree : Double := .finite negative m e
    match degree.toInt?.bind (exactPower? mantissa exponent) with
    | some d => d
    | none => transcendentalPower mantissa exponent (unitsAt negative m e e) e

def isOdd (d : Double) : Bool := d.toInt?.any fun n => n % 2 = 1

/-- The power of a number. To the power zero every value is one, and one is one to every power; a
negative number only has powers to integers. -/
def power (base degree : Double) : Double :=
  if degree.isZero ∨ base = ofInt 1 then ofInt 1
  else
    match base, degree with
    | .notANumber, _ | _, .notANumber => .notANumber
    | .infinite negative, degree =>
      let sign := negative && degree.isOdd
      if degree.isNegative then .finite sign 0 minExponent else .infinite sign
    | .finite negative mantissa exponent, degree =>
      let sign := negative && degree.isOdd
      if mantissa = 0 then
        (if degree.isNegative then .infinite sign else .finite sign 0 minExponent)
      else if negative && degree.isFinite && degree.toInt?.isNone then .notANumber
      else
        let d := positivePower mantissa exponent degree
        if sign then d.neg else d

/-- Repeated multiplication by squares of the base: the powers of `base` that the binary digits of
`n` name, multiplied onto `product`. -/
def multiplied (base product : Double) : (fuel n : Nat) → Double
  | 0, _ => product
  | fuel + 1, n =>
    let product := if n % 2 = 1 then product.mul base else product
    if n / 2 = 0 then product else multiplied (base.mul base) product fuel (n / 2)

def roundedPowerOfTen (n : Int) : Double :=
  let d := multiplied (ofInt 10) (ofInt 1) 64 n.natAbs
  if n < 0 then (ofInt 1).div d else d

end OverlayConfig.Double
