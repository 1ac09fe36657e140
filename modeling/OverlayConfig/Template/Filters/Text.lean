import OverlayConfig.Template.Call
import OverlayConfig.Text.Characters
import OverlayConfig.Text.Casing
set_option autoImplicit false

namespace OverlayConfig.Template.Filters

def replaceAll (old new : List Char) : Nat → List Char → List Char
  | 0, cs => cs
  | _ + 1, [] => []
  | fuel + 1, c :: cs =>
    if old.isPrefixOf (c :: cs) then new ++ replaceAll old new fuel ((c :: cs).drop old.length)
    else c :: replaceAll old new fuel cs

/-- Replaces every occurrence of a text; the empty text stands between all characters. -/
def replaceText (cs old new : List Char) : List Char :=
  if old.isEmpty then new ++ cs.flatMap fun c => c :: new
  else replaceAll old new (cs.length + 1) cs

/-- The parts of a text between the characters that are marks, at most `limit` of them. -/
def splitWhere (isMark : Char → Bool) : (limit : Option Nat) → List Char → List (List Char)
  | _, [] => [[]]
  | limit, c :: cs =>
    if isMark c && limit ≠ some 1 then [] :: splitWhere isMark (limit.map (· - 1)) cs
    else
      match splitWhere isMark limit cs with
      | [] => [[c]]
      | part :: rest => (c :: part) :: rest

def splitLines (cs : List Char) : List (List Char) := splitWhere (· = '\n') none cs

/-- The parts of a text between the occurrences of a text that is not empty, at most `limit` of
them. -/
def splitOn (mark : List Char) : (fuel : Nat) → (limit : Option Nat) → List Char → List (List Char)
  | 0, _, cs => [cs]
  | _ + 1, _, [] => [[]]
  | fuel + 1, limit, c :: cs =>
    if mark.isPrefixOf (c :: cs) && limit ≠ some 1 then
      [] :: splitOn mark fuel (limit.map (· - 1)) ((c :: cs).drop mark.length)
    else
      match splitOn mark fuel limit cs with
      | [] => [[c]]
      | part :: rest => (c :: part) :: rest

def splitCharacters (limit : Option Nat) (cs : List Char) : List (List Char) :=
  let parts := [] :: cs.map ([·]) ++ [[]]
  match limit with
  | none => parts
  | some n =>
    if parts.length ≤ n then parts else parts.take (n - 1) ++ [(parts.drop (n - 1)).flatten]

/-- The parts of a text: between the occurrences of a text, or else between white space. Without
limit the white space may have any length. -/
def splitText (mark : Option (List Char)) (limit : Option Nat) (cs : List Char) :
    List (List Char) :=
  match mark with
  | some [] => splitCharacters limit cs
  | some mark => splitOn mark (cs.length + 1) limit cs
  | none =>
    let parts := splitWhere Text.isBlank limit cs
    if limit.isSome then parts else parts.filter (!·.isEmpty)

/-- The lines of a text without their ends, which are a line feed that a carriage return may
precede. -/
def linesOf (cs : List Char) : List (List Char) :=
  let parts := splitLines cs
  let ended := parts.dropLast.map fun line =>
    if line.getLast? = some '\r' then line.dropLast else line
  ended ++ (parts.drop ended.length).filter (!·.isEmpty)

def indentText (cs : List Char) (width : Nat) (first blank : Bool) : List Char :=
  let margin := List.replicate width ' '
  let indented (line : List Char) : List Char :=
    (if line.isEmpty then (if blank then margin else []) else margin ++ line) ++ ['\n']
  match splitLines (Text.dropBreak cs) with
  | [] => []
  | line :: rest =>
    Text.dropBreak ((if first then indented line else line ++ ['\n']) ++ rest.flatMap indented)

def titleText : (start : Bool) → List Char → List Char
  | _, [] => []
  | start, c :: cs =>
    let punctuation := 33 ≤ c.toNat && c.toNat ≤ 126 && !c.isAlphanum
    if punctuation || Text.isBlank c then c :: titleText true cs
    else (if start then Text.upper [c] else Text.lowerChar c) ++ titleText false cs

def trimChars (chars cs : List Char) : List Char :=
  (((cs.dropWhile chars.contains).reverse).dropWhile chars.contains).reverse

def changing (change : List Char → List Char) : Filter := fun v c => do
  let cs ← textOf v
  c.noArguments
  .ok (.text (change cs))

def trim : Filter := fun v c => do
  let cs ← textOf v
  let chars ← c.text? 0
  c.atMost 1
  match chars with
  | none => .ok (.text (Text.trim cs))
  | some chars => .ok (.text (trimChars chars cs))

def replace : Filter := fun v c => do
  let cs ← textOf v
  let old ← c.text 0
  let new ← c.text 1
  c.atMost 2
  .ok (.text (replaceText cs old new))

/-- Indents a text. The arguments are the width, and whether the first line and empty lines are
indented, in this order or by name. -/
def indent : Filter := fun v c => do
  let cs ← textOf v
  c.atMostPlain 3
  let width ← match c.either? 0 "width" with
    | some w => countOf w
    | none => .ok 4
  let first ← match c.either? 1 "first" with
    | some b => flagOf b
    | none => .ok false
  let blank ← match c.either? 2 "blank" with
    | some b => flagOf b
    | none => .ok false
  c.knowingInOrder ["width", "first", "blank"]
  .ok (.text (indentText cs width first blank))

def split : Filter := fun v c => do
  let cs ← textOf v
  let mark ← c.text? 0
  let limit ← (given? (c.argument? 1)).mapM wordOf
  c.atMost 2
  let parts := limit.bind fun n => if 0 ≤ n then some (n.toNat + 1) else none
  .ok (.list ((splitText mark parts cs).map .text))

def lines : Filter := fun v c => do
  let cs ← textOf v
  c.noArguments
  .ok (.list ((linesOf cs).map .text))

def string : Filter := fun v c => do
  let cs ← textOf v
  c.noArguments
  .ok (if v.kind = .text then v else .text cs)

def safe : Filter := fun v c => do
  let cs ← textOf v
  c.noArguments
  .ok (.markup cs)

def escape : Filter := fun v c => do
  c.noArguments
  .ok (.markup v.escaped)

def layOut : Filter := fun v c => do
  c.noArguments
  .ok (.text (v.layOut 0))

def ofTexts : List (String × Filter) :=
  [("upper", changing Text.upper), ("lower", changing Text.lower),
    ("title", changing (titleText true)),
    ("capitalize", changing fun cs => Text.upper (cs.take 1) ++ Text.lower (cs.drop 1)),
    ("trim", trim), ("replace", replace), ("indent", indent), ("split", split), ("lines", lines),
    ("string", string), ("safe", safe), ("escape", escape), ("e", escape), ("pprint", layOut)]

end OverlayConfig.Template.Filters
