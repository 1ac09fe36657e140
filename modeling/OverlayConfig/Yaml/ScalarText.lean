import OverlayConfig.Yaml.Cursor
set_option autoImplicit false

namespace OverlayConfig.Yaml

inductive Gap where
  | none
  | blanks (reversed : List Char)
  /-- Line breaks: the first one, missing when it was escaped, and the others in reverse. -/
  | breaks (first : Option Char) (others : List Char)
  deriving DecidableEq, Repr

namespace Gap

def reversedText : Gap → List Char
  | .none => []
  | .blanks reversed => reversed
  | .breaks (some first) others =>
    if first = '\n' then (if others.isEmpty then [' '] else others) else others ++ [first]
  | .breaks Option.none others => others

def addBlank (c : Char) : Gap → Gap
  | .none => .blanks [c]
  | .blanks reversed => .blanks (c :: reversed)
  | .breaks first others => .breaks first others

def addBreak (c : Char) : Gap → Gap
  | .none | .blanks _ => .breaks (some (readBreak c)) []
  | .breaks first others => .breaks first (readBreak c :: others)

def hasBreaks : Gap → Bool
  | .breaks .. => true
  | _ => false

end Gap

def isHalfBreak (c : Char) (rest : List Char) : Bool := c = '\r' && rest.head? == some '\n'

/-- A plain scalar: its text, whether line breaks follow it, and the place after it. -/
structure PlainScalar where
  text : List Char
  broken : Bool
  cursor : Cursor

/-- The plain scalar that starts here. `indent` is the least column of its further lines. -/
def plainScalar (inFlow : Bool) (indent : Int) :
    (gap : Gap) → (reversed : List Char) → List Char → Position → Except SyntaxError PlainScalar
  | gap, reversed, [], p => .ok ⟨reversed.reverse, gap.hasBreaks, ⟨[], p⟩⟩
  | gap, reversed, c :: rest, p =>
    if isBlank c then
      if gap.hasBreaks && c = '\t' && (p.column : Int) < indent then .error .tabIndentation
      else plainScalar inFlow indent (gap.addBlank c) reversed rest (p.after c)
    else if isHalfBreak c rest then plainScalar inFlow indent gap reversed rest (p.after c)
    else if isBreak c then
      plainScalar inFlow indent (gap.addBreak c) reversed rest (p.nextLine c)
    else
      let ended : Bool := gap ≠ .none && (!inFlow && decide ((p.column : Int) < indent)
        || p.column = 0 && atMarker (c :: rest) || c = '#')
      if !ended && inFlow && c = ':' && rest.head?.any (",?[]\x7b\x7d".toList.contains ·) then
        .error .unexpectedColon
      else if ended || c = ':' && atSpacing rest || inFlow && ",[]\x7b\x7d".toList.contains c then
        .ok ⟨reversed.reverse, gap.hasBreaks, ⟨c :: rest, p⟩⟩
      else plainScalar inFlow indent .none (c :: gap.reversedText ++ reversed) rest (p.after c)

def hexDigit? (c : Char) : Option Nat :=
  if '0' ≤ c ∧ c ≤ '9' then some (c.toNat - 48)
  else if 'a' ≤ c ∧ c ≤ 'f' then some (c.toNat - 87)
  else if 'A' ≤ c ∧ c ≤ 'F' then some (c.toNat - 55)
  else none

def hexDigits? (cs : List Char) : Option Nat :=
  cs.foldl (fun n c => n.bind fun n => (hexDigit? c).map (n * 16 + ·)) (some 0)

def charOfCode? (n : Nat) : Option Char :=
  if (0xd800 ≤ n ∧ n ≤ 0xdfff) ∨ 0x10ffff < n then none else some (Char.ofNat n)

def shortEscape? (c : Char) : Option Char :=
  if c = '0' then some '\x00'
  else if c = 'a' then some '\x07'
  else if c = 'b' then some '\x08'
  else if c = 't' ∨ c = '\t' then some '\t'
  else if c = 'n' then some '\n'
  else if c = 'v' then some '\x0b'
  else if c = 'f' then some '\x0c'
  else if c = 'r' then some '\r'
  else if c = 'e' then some '\x1b'
  else if c = ' ' ∨ c = '\x22' ∨ c = '/' ∨ c = '\\' then some c
  else if c = 'N' then some (Char.ofNat 0x85)
  else if c = '_' then some (Char.ofNat 0xa0)
  else if c = 'L' then some (Char.ofNat 0x2028)
  else if c = 'P' then some (Char.ofNat 0x2029)
  else none

def escapeWidth? (c : Char) : Option Nat :=
  if c = 'x' then some 2 else if c = 'u' then some 4 else if c = 'U' then some 8 else none

structure QuotedScalar where
  text : List Char
  cursor : Cursor

def singleQuoted :
    (gap : Gap) → (reversed : List Char) → List Char → Position → Except SyntaxError QuotedScalar
  | _, _, [], _ => .error .unclosedQuote
  | gap, reversed, c :: rest, p =>
    if isBlank c then singleQuoted (gap.addBlank c) reversed rest (p.after c)
    else if isHalfBreak c rest then singleQuoted gap reversed rest (p.after c)
    else if isBreak c then singleQuoted (gap.addBreak c) reversed rest (p.nextLine c)
    else if p.column = 0 ∧ atMarker (c :: rest) then .error .unexpectedMarker
    else
      let reversed := gap.reversedText ++ reversed
      if c = '\x27' then
        match rest with
        | '\x27' :: rest => singleQuoted .none ('\x27' :: reversed) rest ((p.after c).after '\x27')
        | _ => .ok ⟨reversed.reverse, ⟨rest, p.after c⟩⟩
      else singleQuoted .none (c :: reversed) rest (p.after c)

/-- The inside of double quotes; `pending` counts the digits of an escape that are still to come,
and `code` holds the value of those that came. -/
def doubleQuoted :
    (pending code : Nat) → (gap : Gap) → (reversed : List Char) → List Char → Position →
      Except SyntaxError QuotedScalar
  | _, _, _, _, [], _ => .error .unclosedQuote
  | pending + 1, code, gap, reversed, c :: rest, p =>
    match hexDigit? c with
    | none => .error .badEscape
    | some d =>
      let code := code * 16 + d
      if pending = 0 then
        match charOfCode? code with
        | none => .error .badEscape
        | some e => doubleQuoted 0 0 gap (e :: reversed) rest (p.after c)
      else doubleQuoted pending code gap reversed rest (p.after c)
  | 0, _, gap, reversed, c :: rest, p =>
    if isBlank c then doubleQuoted 0 0 (gap.addBlank c) reversed rest (p.after c)
    else if isHalfBreak c rest then doubleQuoted 0 0 gap reversed rest (p.after c)
    else if isBreak c then doubleQuoted 0 0 (gap.addBreak c) reversed rest (p.nextLine c)
    else if p.column = 0 ∧ atMarker (c :: rest) then .error .unexpectedMarker
    else
      let reversed := gap.reversedText ++ reversed
      if c = '\x22' then .ok ⟨reversed.reverse, ⟨rest, p.after c⟩⟩
      else if c = '\\' then
        match rest with
        | [] => .error .badEscape
        | '\r' :: '\n' :: rest =>
          doubleQuoted 0 0 (.breaks none []) reversed rest (((p.after c).after '\r').nextLine '\n')
        | d :: rest =>
          if isBreak d then
            doubleQuoted 0 0 (.breaks none []) reversed rest ((p.after c).nextLine d)
          else
            match shortEscape? d with
            | some e => doubleQuoted 0 0 .none (e :: reversed) rest ((p.after c).after d)
            | none =>
              match escapeWidth? d with
              | some width => doubleQuoted width 0 .none reversed rest ((p.after c).after d)
              | none => .error .badEscape
      else doubleQuoted 0 0 .none (c :: reversed) rest (p.after c)

inductive Chomping where
  | strip
  | clip
  | keep
  deriving DecidableEq, Repr

structure BlockGap where
  breaks : List Char
  widest : Nat
  cursor : Cursor

/-- Steps over empty lines and indentation up to the column `indent`; zero means that the column is
still to be found. The breaks are collected in reverse. -/
def blockGap (indent : Nat) :
    (widest : Nat) → (breaks : List Char) → List Char → Position → Except SyntaxError BlockGap
  | widest, breaks, [], p => .ok ⟨breaks.reverse, max widest p.column, ⟨[], p⟩⟩
  | widest, breaks, c :: rest, p =>
    let inside := indent = 0 ∨ p.column < indent
    if c = ' ' ∧ inside then blockGap indent widest breaks rest (p.after c)
    else if isHalfBreak c rest then
      blockGap indent widest breaks rest { p with index := p.index + c.utf8Size }
    else
      let widest := max widest p.column
      if c = '\t' ∧ inside then .error .tabIndentation
      else if isBreak c then blockGap indent widest (readBreak c :: breaks) rest (p.nextLine c)
      else .ok ⟨breaks.reverse, widest, ⟨c :: rest, p⟩⟩

structure BlockLines where
  reversed : List Char
  lastBreak : List Char
  breaks : List Char
  lastBlank : Bool
  cursor : Cursor

/-- A block scalar with a line more; `gap` is what stands between that line and the next. -/
def BlockLines.add (folded : Bool) (line lastBreak : List Char) (gap : BlockGap)
    (lines : BlockLines) : BlockLines :=
  let blank := match line with
    | [] => false
    | c :: _ => isBlank c
  let joined :=
    -- folding: the break between two lines without margin is a blank, or nothing where
    -- empty lines follow it
    if folded && lines.lastBreak = ['\n'] && !lines.lastBlank && !blank then
      (if lines.breaks.isEmpty then [' '] else [])
    else lines.lastBreak
  ⟨line.reverse ++ lines.breaks.reverse ++ joined.reverse ++ lines.reversed, lastBreak, gap.breaks,
    blank, gap.cursor⟩

def blockLines (folded : Bool) (indent : Nat) : Nat → BlockLines → Except SyntaxError BlockLines
  | 0, _ => .error .outOfFuel
  | fuel + 1, lines =>
    if lines.cursor.rest.isEmpty || lines.cursor.column ≠ indent then .ok lines
    else do
      let line := lines.cursor.takeLine
      let gap ← blockGap indent 0 [] line.2.2.rest line.2.2.position
      blockLines folded indent fuel (lines.add folded line.1 line.2.1 gap)

def takeChomping (c : Cursor) : Option (Chomping × Cursor) :=
  match c.rest with
  | '+' :: _ => some (.keep, c.skip 1)
  | '-' :: _ => some (.strip, c.skip 1)
  | _ => none

def takeIndentation (c : Cursor) : Except SyntaxError (Option Nat × Cursor) :=
  match c.rest with
  | d :: _ =>
    if d.isDigit then
      if d = '0' then .error .badBlockHeader else .ok (some (d.toNat - 48), c.skip 1)
    else .ok (none, c)
  | [] => .ok (none, c)

def takeIndicators (c : Cursor) : Except SyntaxError (Chomping × Option Nat × Cursor) :=
  match takeChomping c with
  | some (chomping, c) => (takeIndentation c).map fun (indentation, c) => (chomping, indentation, c)
  | none => (takeIndentation c).map fun (indentation, c) =>
    match indentation, takeChomping c with
    | some n, some (chomping, c) => (chomping, some n, c)
    | _, _ => (.clip, indentation, c)

def headerEnd (c : Cursor) : Except SyntaxError Cursor :=
  let c := c.skipBlanks.skipComment
  if atBreak c.rest then .ok c.takeBreak.2 else .error .badBlockHeader

/-- The header of a block scalar after its indicator: what happens at its end, the indentation if it
is given, and the place of the first line. -/
def blockHeader (c : Cursor) : Except SyntaxError (Chomping × Option Nat × Cursor) := do
  let (chomping, indentation, c) ← takeIndicators c
  let c ← headerEnd c
  .ok (chomping, indentation, c)

/-- The block scalar whose header starts here, in a collection at the column `parent`. -/
def blockScalar (folded : Bool) (parent : Int) (c : Cursor) :
    Except SyntaxError QuotedScalar := do
  let (chomping, indentation, c) ← blockHeader c
  let given : Nat := match indentation with
    | some n => if 0 ≤ parent then parent.toNat + n else n
    | none => 0
  let gap ← blockGap given 0 [] c.rest c.position
  let indent := if given = 0 then max (max gap.widest (parent + 1).toNat) 1 else given
  let lines ← blockLines folded indent (gap.cursor.rest.length + 1)
    ⟨[], [], gap.breaks, false, gap.cursor⟩
  let reversed := match chomping with
    | .strip => lines.reversed
    | .clip => lines.lastBreak.reverse ++ lines.reversed
    | .keep => lines.breaks.reverse ++ lines.lastBreak.reverse ++ lines.reversed
  .ok ⟨reversed.reverse, lines.cursor⟩

end OverlayConfig.Yaml
