import OverlayConfig.Decimal.Double
set_option autoImplicit false

namespace OverlayConfig.Double

structure Digits where
  digits : Nat
  exponent : Int
  deriving DecidableEq, Repr

/-- The exponent of the greatest power of ten that is at most the positive quotient. -/
def floorLog10 (num den : Nat) : Int :=
  let guess : Int := floorLog2 num den * 30103 / 100000
  let atLeast (k : Int) : Bool :=
    if 0 ≤ k then den * Nat.pow 10 k.toNat ≤ num else den ≤ num * Nat.pow 10 (-k).toNat
  if atLeast (guess + 1) then guess + 1 else if atLeast guess then guess else guess - 1

def Digits.trim : Nat → Digits → Digits
  | 0, d => d
  | fuel + 1, d =>
    if d.digits ≠ 0 ∧ d.digits % 10 = 0 then trim fuel ⟨d.digits / 10, d.exponent + 1⟩ else d

/-- The point of the decimal grid of step `10 ^ k` that reads back as the number, when one of the
two neighbours of the value does. The value, the lower and the upper end of the interval that
rounds to the number are `4m`, `low` and `4m + 2` in units of `2 ^ (e - 2)`. -/
def gridPoint? (halfUp : Bool) (mantissa : Nat) (e : Int) (low : Nat) (k : Int) : Option Nat :=
  let (un, ud) := scaleTwo 1 1 (e - 2)
  let (num, den) :=
    if 0 ≤ k then (un, ud * Nat.pow 10 k.toNat) else (un * Nat.pow 10 (-k).toNat, ud)
  let value := 4 * mantissa * num
  let closed := mantissa % 2 = 0
  let above (d : Nat) : Bool := if closed then low * num ≤ d * den else low * num < d * den
  let below (d : Nat) : Bool :=
    if closed then d * den ≤ (4 * mantissa + 2) * num else d * den < (4 * mantissa + 2) * num
  let d := value / den
  let lower := above d
  let upper := below (d + 1)
  if lower && upper then
    -- both neighbours read back: the nearer one, and on a tie the greater or the even one
    let down := value - d * den
    let up := (d + 1) * den - value
    if down < up then some d else if up < down then some (d + 1)
    else if !halfUp && d % 2 = 0 then some d else some (d + 1)
  else if lower then some d
  else if upper then some (d + 1)
  else none

/-- Tries grids of one digit, two digits and so on; seventeen digits always suffice. -/
def searchGrids (halfUp : Bool) (mantissa : Nat) (e : Int) (low : Nat) (top : Int) :
    Nat → Nat → Digits
  | 0, _ => ⟨0, 0⟩
  | fuel + 1, n =>
    let k := top - n + 1
    match gridPoint? halfUp mantissa e low k with
    | some d => if d = 0 then searchGrids halfUp mantissa e low top fuel (n + 1) else ⟨d, k⟩
    | none => searchGrids halfUp mantissa e low top fuel (n + 1)

def shortest (halfUp : Bool) (mantissa : Nat) (exponent : Int) : Digits :=
  let low :=
    if mantissa = Nat.pow 2 52 ∧ minExponent < exponent then 4 * mantissa - 1 else 4 * mantissa - 2
  let (n, d) := scaleTwo mantissa 1 exponent
  Digits.trim 400 (searchGrids halfUp mantissa exponent low (floorLog10 n d) 18 1)

/-- How the digits of a number are laid out. A number whose leading digit stands for
`10 ^ p` is written without exponent when `leastPositional ≤ p ≤ greatestPositional`. -/
structure Layout where
  leastPositional : Int
  greatestPositional : Int
  exponentPlus : Bool
  exponentDigits : Nat
  infinity : List Char
  nan : List Char
  /-- Of two equally near decimals the greater one is written, and otherwise the even one. -/
  halfUp : Bool

def zeros (n : Nat) : List Char := List.replicate n '0'

def natText (n : Nat) : List Char := Nat.toDigits 10 n

/-- Digits with a point and no exponent, always with a digit on either side of the point. -/
def positional (d : Digits) : List Char :=
  let cs := natText d.digits
  let point : Int := cs.length + d.exponent
  if 0 ≤ d.exponent then cs ++ zeros d.exponent.toNat ++ ['.', '0']
  else if 0 < point then cs.take point.toNat ++ '.' :: cs.drop point.toNat
  else '0' :: '.' :: zeros (-point).toNat ++ cs

def scientific (layout : Layout) (d : Digits) : List Char :=
  let cs := natText d.digits
  let p : Int := cs.length + d.exponent - 1
  let body := match cs with
    | [] => []
    | [c] => [c]
    | c :: rest => c :: '.' :: rest
  let sign := if p < 0 then ['-'] else if layout.exponentPlus then ['+'] else []
  let power := natText p.natAbs
  body ++ 'e' :: sign ++ zeros (layout.exponentDigits - power.length) ++ power

def text (layout : Layout) : Double → List Char
  | .notANumber => layout.nan
  | .infinite negative => if negative then '-' :: layout.infinity else layout.infinity
  | .finite negative m e =>
    let body :=
      if m = 0 then ['0', '.', '0']
      else
        let d := shortest layout.halfUp m e
        let p : Int := (natText d.digits).length + d.exponent - 1
        if layout.leastPositional ≤ p ∧ p ≤ layout.greatestPositional then positional d
        else scientific layout d
    if negative then '-' :: body else body

end OverlayConfig.Double
