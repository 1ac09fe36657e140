import OverlayConfig.Json.Reader
import OverlayConfig.Template.Value
import OverlayConfig.Text.Characters
set_option autoImplicit false

namespace OverlayConfig.Template

inductive Token where
  | raw (chars : List Char)
  | outputStart
  | outputEnd
  | blockStart
  | blockEnd
  | word (name : String)
  | text (chars : List Char)
  | int (value : Nat)
  | double (value : Double)
  | symbol (chars : List Char)
  | broken (kind : ErrorKind)
  deriving DecidableEq, Inhabited

def isSpace (c : Char) : Bool := c = ' ' || c = '\t' || c = '\n' || c = '\r' || c = '\x0c'

def isWordStart (c : Char) : Bool := c.isAlpha || c = '_'

def isWordChar (c : Char) : Bool := c.isAlphanum || c = '_'

/-- The text before the first marker, the second character of the marker and what follows it. -/
def splitAtMarker : List Char → List Char × Option (Char × List Char)
  | '\x7b' :: c :: rest =>
    if c = '\x7b' ∨ c = '%' ∨ c = '#' then ([], some (c, rest))
    else
      let (before, marker) := splitAtMarker (c :: rest)
      ('\x7b' :: before, marker)
  | c :: rest =>
    let (before, marker) := splitAtMarker rest
    (c :: before, marker)
  | [] => ([], none)

def skipComment : (hyphen : Bool) → List Char → Option (Bool × List Char)
  | hyphen, '#' :: '\x7d' :: rest => some (hyphen, rest)
  | _, c :: rest => skipComment (c = '-') rest
  | _, [] => none

def skipSign : List Char → Bool × List Char
  | '-' :: rest => (true, rest)
  | '+' :: rest => (false, rest)
  | cs => (false, cs)

/-- The end of a block whose only word is `word`: whether a hyphen stands before the end, and what
follows. -/
def blockOf? (word cs : List Char) : Option (Bool × List Char) :=
  let cs := cs.dropWhile isSpace
  if word.isPrefixOf cs then
    match skipSign ((cs.drop word.length).dropWhile isSpace) with
    | (hyphen, '%' :: '\x7d' :: rest) => some (hyphen, rest)
    | _ => none
  else none

/-- The text up to the block `endraw`, whether it loses the white space at its end, whether the text
after the block loses the white space at its start, and the text after the block. -/
def splitAtEndRaw : List Char → Option (List Char × Bool × Bool × List Char)
  | [] => none
  | c :: rest =>
    let here :=
      match c, rest with
      | '\x7b', '%' :: inner =>
        let (hyphen, inner) := skipSign inner
        (blockOf? "endraw".toList inner).map fun (after, rest) => (hyphen, after, rest)
      | _, _ => none
    match here with
    | some (hyphen, after, rest) => some ([], hyphen, after, rest)
    | none => do
      let (before, hyphen, after, rest) ← splitAtEndRaw rest
      some (c :: before, hyphen, after, rest)

/-- The inside of a string up to its closing quote, escapes included, and what follows. -/
def splitString (quote : Char) : List Char → Option (List Char × List Char)
  | [] => none
  | '\\' :: c :: rest => do
    let (before, rest) ← splitString quote rest
    some ('\\' :: c :: before, rest)
  | c :: rest =>
    if c = quote then some ([], rest)
    else do
      let (before, rest) ← splitString quote rest
      some (c :: before, rest)

def hexValueOf? (cs : List Char) : Option Nat :=
  let digits := match cs with
    | '+' :: rest => rest
    | cs => cs
  if digits.isEmpty then none
  else digits.foldlM (fun n c => (Json.hexValue? c).map (n * 16 + ·)) 0

def octalValue? (c : Char) : Option Nat :=
  if '0' ≤ c ∧ c ≤ '7' then some (c.toNat - 48) else none

def plainEscape? (c : Char) : Option Char :=
  match c with
  | '\x22' | '\\' | '/' | '\x27' => some c
  | 'b' => some '\x08'
  | 'f' => some '\x0c'
  | 'n' => some '\n'
  | 'r' => some '\r'
  | 't' => some '\t'
  | _ => none

def byteThen (n : Nat) (text : Option (List Char)) : Option (List Char) :=
  if n < 256 then text.map (Char.ofNat n :: ·) else none

/-- Replaces the escapes of a string: letters, four hexadecimal digits of a unit of 16 bits, two
hexadecimal digits, and up to three octal digits. A backslash before any other character stays. -/
def unescape : List Char → Option (List Char)
  | [] => some []
  | '\\' :: 'u' :: a :: b :: c :: d :: rest => do
    let n ← hexValueOf? [a, b, c, d]
    if 0xDC00 ≤ n ∧ n < 0xE000 then none
    else if 0xD800 ≤ n ∧ n < 0xDC00 then
      match rest with
      | '\\' :: 'u' :: e :: f :: g :: h :: rest => do
        let low ← hexValueOf? [e, f, g, h]
        if 0xDC00 ≤ low ∧ low < 0xE000 then
          let cs ← unescape rest
          some (Char.ofNat (0x10000 + (n - 0xD800) * 0x400 + (low - 0xDC00)) :: cs)
        else none
      | _ => none
    else do
      let cs ← unescape rest
      some (Char.ofNat n :: cs)
  | '\\' :: 'u' :: _ => none
  | '\\' :: 'x' :: a :: b :: rest => do
    let n ← hexValueOf? [a, b]
    byteThen n (unescape rest)
  | '\\' :: 'x' :: _ => none
  | '\\' :: c :: rest =>
    match octalValue? c with
    | none =>
      match plainEscape? c with
      | some plain => (unescape rest).map (plain :: ·)
      | none => (unescape rest).map fun cs => '\\' :: c :: cs
    | some n =>
      match rest with
      | d :: rest' =>
        match octalValue? d with
        | none => byteThen n (unescape (d :: rest'))
        | some m =>
          match rest' with
          | e :: rest'' =>
            match octalValue? e with
            | none => byteThen (n * 8 + m) (unescape (e :: rest''))
            | some k => byteThen ((n * 8 + m) * 8 + k) (unescape rest'')
          | [] => byteThen (n * 8 + m) (some [])
      | [] => byteThen n (some [])
  | ['\\'] => none
  | c :: rest => (unescape rest).map (c :: ·)

inductive NumberPart where
  | whole
  | fraction
  | exponent
  | exponentDigits
  deriving DecidableEq

def startsExponent (cs : List Char) : Bool :=
  match cs with
  | c :: d :: rest =>
    (c = 'e' || c = 'E') && (d.isDigit || ((d = '+' || d = '-') && rest.head?.any Char.isDigit))
  | _ => false

/-- The characters of a decimal number and what follows. A point before a name is not part of the
number, unless the name begins with an exponent. -/
def splitNumber : NumberPart → List Char → List Char × NumberPart × List Char
  | part, [] => ([], part, [])
  | part, c :: rest =>
    let next? : Option NumberPart :=
      if c = '.' then
        (if part = .whole ∧ (!rest.head?.any isWordStart ∨ startsExponent rest) then some .fraction
          else none)
      else if c = 'e' ∨ c = 'E' then
        (if part = .whole ∨ part = .fraction then some .exponent else none)
      else if c = '+' ∨ c = '-' then (if part = .exponent then some .exponentDigits else none)
      else if c.isDigit then some (if part = .exponent then .exponentDigits else part)
      else if c = '_' then some part
      else none
    match next? with
    | none => ([], part, c :: rest)
    | some part =>
      let (before, part, rest) := splitNumber part rest
      (c :: before, part, rest)

def markedBase? : List Char → Option (Nat × List Char)
  | '0' :: c :: rest =>
    if c = 'x' ∨ c = 'X' then some (16, rest)
    else if c = 'o' ∨ c = 'O' then some (8, rest)
    else if c = 'b' ∨ c = 'B' then some (2, rest)
    else none
  | _ => none

def digitsIn? (base : Nat) (cs : List Char) : Option Nat :=
  if cs.isEmpty then none
  else cs.foldl (fun n c => do
    let n ← n
    let d ← Json.hexValue? c
    if d < base then some (n * base + d) else none) (some 0)

def doubleOf? (cs : List Char) : Option Double :=
  let whole := cs.takeWhile Char.isDigit
  let cs := cs.dropWhile Char.isDigit
  let (fraction, cs) := match cs with
    | '.' :: rest => (rest.takeWhile Char.isDigit, rest.dropWhile Char.isDigit)
    | _ => ([], cs)
  let exponent? : Option Int := match cs with
    | [] => some 0
    | _ :: '-' :: digits => (digitsIn? 10 digits).map fun n => -(n : Int)
    | _ :: '+' :: digits => (digitsIn? 10 digits).map fun n => (n : Int)
    | _ :: digits => (digitsIn? 10 digits).map fun n => (n : Int)
  exponent?.map fun e =>
    Double.ofDecimal false (Json.digitsValue (whole ++ fraction)) (e - fraction.length)

def number (cs : List Char) : Token × List Char :=
  match markedBase? cs with
  | some (base, rest) =>
    let digits := rest.takeWhile fun c => c.isDigit || c = '_'
      || (base = 16 && (Json.hexValue? c).isSome)
    let rest := rest.drop digits.length
    if digits.getLast? = some '_' then (.broken .syntaxError, [])
    else
      match digitsIn? base (digits.filter (· ≠ '_')) with
      | some n => if n < Nat.pow 2 128 then (.int n, rest) else (.broken .syntaxError, [])
      | none => (.broken .syntaxError, [])
  | none =>
    let (digits, part, rest) := splitNumber .whole cs
    if digits.getLast? = some '_' then (.broken .syntaxError, [])
    else
      let digits := digits.filter (· ≠ '_')
      if part = .whole then
        let n := Json.digitsValue digits
        if n < Nat.pow 2 128 then (.int n, rest) else (.broken .syntaxError, [])
      else
        match doubleOf? digits with
        | some d => (.double d, rest)
        | none => (.broken .syntaxError, [])

def string (quote : Char) (cs : List Char) : Token × List Char :=
  match splitString quote cs with
  | none => (.broken .syntaxError, [])
  | some (inside, rest) =>
    match unescape inside with
    | some text => (.text text, rest)
    | none => (.broken .badEscape, [])

def longSymbols : List (List Char) :=
  ["//".toList, "**".toList, "==".toList, "!=".toList, ">=".toList, "<=".toList]

def shortSymbols : List Char := "+-*/%.,:~|()[]\x7b\x7d<>=".toList

def inner (c : Char) (rest : List Char) : Token × List Char :=
  let both := c :: rest.take 1
  if longSymbols.contains both then (.symbol both, rest.drop 1)
  else if c = '\x22' ∨ c = '\x27' then string c rest
  else if shortSymbols.contains c then (.symbol [c], rest)
  else if c.isDigit then number (c :: rest)
  else if isWordStart c then
    let name := (c :: rest).takeWhile isWordChar
    (.word (String.ofList name), (c :: rest).drop name.length)
  else (.broken .syntaxError, [])

def bracketChange : Token → Int
  | .symbol [c] =>
    if c = '(' ∨ c = '[' ∨ c = '\x7b' then 1 else if c = ')' ∨ c = ']' ∨ c = '\x7d' then -1 else 0
  | _ => 0

/-- The end of the markers that are open: whether a hyphen stands before it, and what follows. -/
def closing? (block : Bool) (cs : List Char) : Option (Bool × List Char) :=
  let stop : List Char := if block then ['%', '\x7d'] else ['\x7d', '\x7d']
  if stop.isPrefixOf cs then some (false, cs.drop 2)
  else if ('-' :: stop).isPrefixOf cs then some (true, cs.drop 3)
  else if ('+' :: stop).isPrefixOf cs then some (false, cs.drop 3)
  else none

mutual
def outerTokens : Nat → (trimmed : Bool) → List Char → List Token
  | 0, _, _ => [.broken .syntaxError]
  | fuel + 1, trimmed, cs =>
    let (before, marker) := splitAtMarker cs
    let before := if trimmed then Text.trimStart before else before
    match marker with
    | none => [.raw before]
    | some (c, rest) =>
      let (hyphen, rest) := skipSign rest
      let before := if hyphen then Text.trimEnd before else before
      .raw before ::
        if c = '#' then
          match skipComment false rest with
          | some (hyphen, rest) => outerTokens fuel hyphen rest
          | none => [.broken .syntaxError]
        else if c = '%' then
          match blockOf? "raw".toList rest with
          | some (hyphen, rest) =>
            match splitAtEndRaw rest with
            | some (text, before, after, rest) =>
              let text := if hyphen then Text.trimStart text else text
              .raw (if before then Text.trimEnd text else text) :: outerTokens fuel after rest
            | none => [.broken .syntaxError]
          | none => .blockStart :: innerTokens fuel true 0 rest
        else .outputStart :: innerTokens fuel false 0 rest

def innerTokens : Nat → (block : Bool) → (open_ : Int) → List Char → List Token
  | 0, _, _, _ => [.broken .syntaxError]
  | fuel + 1, block, open_, cs =>
    let cs := cs.dropWhile isSpace
    match (if open_ = 0 then closing? block cs else none) with
    | some (hyphen, rest) =>
      (if block then .blockEnd else .outputEnd) :: outerTokens fuel hyphen rest
    | none =>
      match cs with
      | [] => []
      | c :: rest =>
        let (t, rest) := inner c rest
        t :: match t with
          | .broken _ => []
          | t => innerTokens fuel block (open_ + bracketChange t) rest
end

def tokens (cs : List Char) : List Token :=
  let cs := Text.dropBreak cs
  outerTokens (cs.length + 2) false cs

end OverlayConfig.Template
