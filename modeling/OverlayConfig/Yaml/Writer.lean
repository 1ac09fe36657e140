import OverlayConfig.Decimal.Shortest
import OverlayConfig.Json.Value
import OverlayConfig.Yaml.Cursor
import OverlayConfig.Yaml.PlainValue
set_option autoImplicit false

namespace OverlayConfig.Yaml

inductive Style where
  | plain
  | singleQuoted
  | doubleQuoted
  | literal
  deriving DecidableEq, Repr

/-- Pairs of neighbours in which a blank and a line break stand together, in either order. -/
def hasPair (p q : Char → Bool) : List Char → Bool
  | a :: b :: rest => (p a && q b) || hasPair p q (b :: rest)
  | _ => false

def startsWith (p : Char → Bool) : List Char → Bool
  | [] => false
  | c :: _ => p c

def endsWith (p : Char → Bool) (cs : List Char) : Bool := startsWith p cs.reverse

def isSpace (c : Char) : Bool := c = ' '

def indicatorFirst : List Char → Bool
  | [] => false
  | c :: rest =>
    "#,[]\x7b\x7d&*!|>\x27\x22%@\x60".toList.contains c
      || ((c = '?' || c = ':' || c = '-') && atSpacing rest)

def indicatorInside : List Char → Bool
  | a :: b :: rest =>
    (b = ':' && atSpacing rest) || (b = '#' && isSpacing a) || indicatorInside (b :: rest)
  | _ => false

def markerFirst : List Char → Bool
  | '-' :: '-' :: '-' :: _ => true
  | '.' :: '.' :: '.' :: _ => true
  | _ => false

def isShown (cs : List Char) : Bool := cs.all isPrintable && !hasPair isSpace isBreak cs

def plainAllowed (cs : List Char) : Bool :=
  isShown cs && !cs.any isBreak && !startsWith isSpace cs && !endsWith isSpace cs
    && !markerFirst cs && !indicatorFirst cs && !indicatorInside cs

def singleQuotedAllowed (cs : List Char) : Bool := isShown cs && !hasPair isBreak isSpace cs

def literalAllowed (cs : List Char) : Bool := isShown cs && !endsWith isSpace cs

def styleOf (cs : List Char) : Style :=
  if cs.contains '\n' then (if literalAllowed cs then .literal else .doubleQuoted)
  else if plainValue cs = .text ∧ !isZeroLed cs ∧ plainAllowed cs then .plain
  else if singleQuotedAllowed cs then .singleQuoted
  else .doubleQuoted

def spaces (n : Nat) : List Char := List.replicate n ' '

/-- Characters with the indentation after every line break; `fresh` says that the line has nothing
on it yet. -/
def indentLines (indent : Nat) : (fresh : Bool) → List Char → List Char
  | _, [] => []
  | fresh, c :: cs =>
    if isBreak c then c :: indentLines indent true cs
    else if fresh then spaces indent ++ c :: indentLines indent false cs
    else c :: indentLines indent false cs

/-- The inside of single quotes; a line break at the end is followed by the indentation. -/
def singleQuotedBody (indent : Nat) (cs : List Char) : List Char :=
  let doubled := cs.flatMap fun c => if c = '\x27' then ['\x27', '\x27'] else [c]
  indentLines indent false doubled ++ (if endsWith isBreak cs then spaces indent else [])

def hexDigitUpper (n : Nat) : Char := if n < 10 then Char.ofNat (48 + n) else Char.ofNat (55 + n)

def hexUpper : (width n : Nat) → List Char
  | 0, _ => []
  | width + 1, n => hexUpper width (n / 16) ++ [hexDigitUpper (n % 16)]

def doubleQuotedChar (c : Char) : List Char :=
  if isPrintable c && !isBreak c && c != '\x22' && c != '\\' then [c]
  else
    let n := c.toNat
    let short (d : Char) : List Char := ['\\', d]
    if n = 0 then short '0'
    else if n = 7 then short 'a'
    else if n = 8 then short 'b'
    else if n = 9 then short 't'
    else if n = 10 then short 'n'
    else if n = 11 then short 'v'
    else if n = 12 then short 'f'
    else if n = 13 then short 'r'
    else if n = 0x1b then short 'e'
    else if n = 0x22 then short '\x22'
    else if n = 0x5c then short '\\'
    else if n = 0x85 then short 'N'
    else if n = 0xa0 then short '_'
    else if n = 0x2028 then short 'L'
    else if n = 0x2029 then short 'P'
    else if n ≤ 0xff then '\\' :: 'x' :: hexUpper 2 n
    else if n ≤ 0xffff then '\\' :: 'u' :: hexUpper 4 n
    else '\\' :: 'U' :: hexUpper 8 n

/-- What stands after the `|` of a literal block: the indentation if the text starts with a blank or
a line break, and what happens to the line breaks at the end. -/
def literalHints (cs : List Char) : List Char :=
  let indent := if startsWith (fun c => isSpace c || isBreak c) cs then ['2'] else []
  let chomp := match cs.reverse with
    | [] => ['-']
    | [c] => if isBreak c then ['+'] else ['-']
    | c :: d :: _ => if isBreak c then (if isBreak d then ['+'] else []) else ['-']
  indent ++ chomp

def scalarText (indent : Nat) (cs : List Char) : List Char × Bool :=
  match styleOf cs with
  | .plain => (cs, false)
  | .singleQuoted => ('\x27' :: singleQuotedBody indent cs ++ ['\x27'], false)
  | .doubleQuoted => ('\x22' :: cs.flatMap doubleQuotedChar ++ ['\x22'], false)
  | .literal => ('|' :: literalHints cs ++ '\n' :: indentLines indent true cs, endsWith isBreak cs)

def scalarLine (indent : Nat) (cs : List Char) : List Char :=
  let (body, ended) := scalarText indent cs
  if ended then body else body ++ ['\n']

def doubleLayout : Double.Layout :=
  ⟨-5, 15, false, 1, ['.', 'i', 'n', 'f'], ['.', 'n', 'a', 'n'], false⟩

def numberText : Number → List Char
  | .int n => Json.intText n
  | .double d => d.text doubleLayout

/-- A key that stands before its colon on one line: no line break, and at most 128 bytes. -/
def isSimpleKey (cs : List Char) : Bool :=
  !cs.any isBreak && (String.ofList cs).utf8ByteSize ≤ 128

mutual
def afterIndicator (indent : Nat) : Json → List Char
  | .null => " null\n".toList
  | .bool true => " true\n".toList
  | .bool false => " false\n".toList
  | .number n => ' ' :: numberText n ++ ['\n']
  | .string s => ' ' :: scalarLine indent s.toList
  | .array [] => " []\n".toList
  | .array (v :: rest) => ' ' :: itemsText indent (v :: rest)
  | .object [] => ' ' :: '{' :: '}' :: ['\n']
  | .object (p :: rest) => ' ' :: entriesText indent (p :: rest)

def afterKey (indent : Nat) : Json → List Char
  | .null => " null\n".toList
  | .bool true => " true\n".toList
  | .bool false => " false\n".toList
  | .number n => ' ' :: numberText n ++ ['\n']
  | .string s => ' ' :: scalarLine (indent + 2) s.toList
  | .array [] => " []\n".toList
  | .array (v :: rest) => '\n' :: spaces indent ++ itemsText indent (v :: rest)
  | .object [] => ' ' :: '{' :: '}' :: ['\n']
  | .object (p :: rest) => '\n' :: spaces (indent + 2) ++ entriesText (indent + 2) (p :: rest)

def itemsText (indent : Nat) : List Json → List Char
  | [] => []
  | [v] => '-' :: afterIndicator (indent + 2) v
  | v :: rest => '-' :: afterIndicator (indent + 2) v ++ spaces indent ++ itemsText indent rest

/-- The entries of a mapping at the column `indent`, where the first one starts. A long key, or one
with line breaks, stands after `?`, and its value after `:` on a line of its own. -/
def entriesText (indent : Nat) : List (String × Json) → List Char
  | [] => []
  | [(k, v)] =>
    if isSimpleKey k.toList then (scalarText (indent + 2) k.toList).1 ++ ':' :: afterKey indent v
    else '?' :: ' ' :: scalarLine (indent + 2) k.toList ++ spaces indent
      ++ ':' :: afterIndicator (indent + 2) v
  | (k, v) :: rest =>
    (if isSimpleKey k.toList then (scalarText (indent + 2) k.toList).1 ++ ':' :: afterKey indent v
    else '?' :: ' ' :: scalarLine (indent + 2) k.toList ++ spaces indent
      ++ ':' :: afterIndicator (indent + 2) v)
    ++ spaces indent ++ entriesText indent rest
end

def write (v : Json) : List Char :=
  match v with
  | .object (p :: rest) => entriesText 0 (p :: rest)
  | .array (v :: rest) => itemsText 0 (v :: rest)
  | v => (afterIndicator 2 v).drop 1

end OverlayConfig.Yaml
