import OverlayConfig.Yaml.ScalarText
/-!
The tokens of a text. Indentation opens and closes block collections, and a colon makes the token at
the start of its line or flow entry a key after the fact, so every token that may become a key is
remembered until it is too far back.
-/
set_option autoImplicit false

namespace OverlayConfig.Yaml

inductive ScalarKind where
  | plain
  | quoted
  | literal
  deriving DecidableEq, Repr

inductive Token where
  | streamEnd
  | versionDirective (major minor : Nat)
  | tagDirective (handle start : List Char)
  | documentStart
  | documentEnd
  | blockSequence
  | blockMapping
  | blockEnd
  | flowSequence
  | flowSequenceEnd
  | flowMapping
  | flowMappingEnd
  | blockEntry
  | flowEntry
  | key
  | value
  | alias (name : List Char)
  | anchor (name : List Char)
  | tag (handle suffix : List Char)
  | scalar (text : List Char) (kind : ScalarKind)
  deriving DecidableEq, Repr

structure KeyCandidate where
  required : Bool
  number : Nat
  position : Position

def KeyCandidate.isStale (p : Position) (key : KeyCandidate) : Bool :=
  key.position.line < p.line || key.position.index + 1024 < p.index

structure TokenState where
  cursor : Cursor
  reversed : List Token
  count : Nat
  /-- The column of the innermost block collection, -1 outside of all. -/
  indent : Int
  outerIndents : List Int
  keyAllowed : Bool
  key : Option KeyCandidate
  /-- The candidates outside of the flow collections that are open, the innermost first. -/
  outerKeys : List (Option KeyCandidate)

namespace TokenState

def start (cs : List Char) : TokenState := ⟨⟨cs, .start⟩, [], 0, -1, [], true, none, []⟩

def inFlow (s : TokenState) : Bool := !s.outerKeys.isEmpty

def emit (t : Token) (s : TokenState) : TokenState :=
  { s with reversed := t :: s.reversed, count := s.count + 1 }

def insertAt (number : Nat) (t : Token) (s : TokenState) : TokenState :=
  let n := s.count - number
  { s with reversed := s.reversed.take n ++ t :: s.reversed.drop n, count := s.count + 1 }

def roll (column : Nat) (number : Nat) (t : Token) (s : TokenState) : TokenState :=
  if !s.inFlow && s.indent < column then
    { s.insertAt number t with indent := column, outerIndents := s.indent :: s.outerIndents }
  else s

end TokenState

def closedBlocks (column : Int) : (indent : Int) → (outer : List Int) → Nat × Int × List Int
  | indent, [] => (0, indent, [])
  | indent, next :: outer =>
    if column < indent then
      let (n, indent, outer) := closedBlocks column next outer
      (n + 1, indent, outer)
    else (0, indent, next :: outer)

namespace TokenState

def unroll (column : Int) (s : TokenState) : TokenState :=
  if s.inFlow then s
  else
    let (n, indent, outer) := closedBlocks column s.indent s.outerIndents
    { s with
      reversed := List.replicate n .blockEnd ++ s.reversed
      count := s.count + n
      indent := indent
      outerIndents := outer }

def removeKey (s : TokenState) : Except SyntaxError TokenState :=
  match s.key with
  | none => .ok s
  | some key => if key.required then .error .missingColon else .ok { s with key := none }

def saveKey (s : TokenState) : Except SyntaxError TokenState :=
  if s.keyAllowed then do
    let s ← s.removeKey
    .ok { s with
      key := some ⟨!s.inFlow && s.indent = s.cursor.column, s.count, s.cursor.position⟩ }
  else .ok s

end TokenState

def freshKey (p : Position) : Option KeyCandidate → Except SyntaxError (Option KeyCandidate)
  | none => .ok none
  | some key =>
    if key.isStale p then (if key.required then .error .missingColon else .ok none)
    else .ok (some key)

def freshKeys (p : Position) :
    List (Option KeyCandidate) → Except SyntaxError (List (Option KeyCandidate))
  | [] => .ok []
  | key :: keys => do
    let key ← freshKey p key
    let keys ← freshKeys p keys
    .ok (key :: keys)

/-- Steps over blanks, comments and line breaks; after a line break in block context a key may
stand. Tabs are no indentation. A byte order mark may start a line. -/
def skipSpacing (inFlow : Bool) :
    (keyAllowed inComment : Bool) → List Char → Position → Bool × Cursor
  | keyAllowed, _, [], p => (keyAllowed, ⟨[], p⟩)
  | keyAllowed, inComment, c :: rest, p =>
    if isHalfBreak c rest then skipSpacing inFlow keyAllowed inComment rest (p.after c)
    else if isBreak c then skipSpacing inFlow (keyAllowed || !inFlow) false rest (p.nextLine c)
    else if inComment || c = ' ' || (c = '\t' && (inFlow || !keyAllowed))
        || (p.column = 0 && c.toNat = 0xfeff) then
      skipSpacing inFlow keyAllowed inComment rest (p.after c)
    else if c = '#' then skipSpacing inFlow keyAllowed true rest (p.after c)
    else (keyAllowed, ⟨c :: rest, p⟩)

def uriContinuation : Nat → (code : Nat) → List Char → Option (Char × List Char)
  | 0, code, cs => some ((charOfCode? code).getD (Char.ofNat 0xfffd), cs)
  | n + 1, code, '%' :: a :: b :: rest => do
    let octet ← hexDigits? [a, b]
    if octet / 64 = 2 then uriContinuation n (code * 64 + octet % 64) rest else none
  | _, _, _ => none

def uriEscape (a b : Char) (rest : List Char) : Option (Char × List Char) := do
  let octet ← hexDigits? [a, b]
  if octet < 0x80 then uriContinuation 0 octet rest
  else if octet / 32 = 6 then uriContinuation 1 (octet % 32) rest
  else if octet / 16 = 14 then uriContinuation 2 (octet % 16) rest
  else if octet / 8 = 30 then uriContinuation 3 (octet % 8) rest
  else none

/-- A character of a tag; inside `<` and `>` the indicators of flow collections are allowed too. -/
def isUriChar (verbatim : Bool) (c : Char) : Bool :=
  isWordChar c || ";/?:@&=+$.!~*\x27()".toList.contains c || (verbatim && ",[]".toList.contains c)

def uriText (verbatim : Bool) : Nat → List Char → (reversed : List Char) →
    Except SyntaxError (List Char × List Char)
  | 0, _, _ => .error .outOfFuel
  | fuel + 1, cs, reversed =>
    match cs with
    | '%' :: a :: b :: rest =>
      match uriEscape a b rest with
      | some (c, rest) => uriText verbatim fuel rest (c :: reversed)
      | none => .error .badTag
    | '%' :: _ => .error .badTag
    | c :: rest =>
      if isUriChar verbatim c then uriText verbatim fuel rest (c :: reversed)
      else .ok (reversed.reverse, cs)
    | [] => .ok (reversed.reverse, [])

def takeUri (verbatim : Bool) (c : Cursor) : Except SyntaxError (List Char × Cursor) := do
  let (text, rest) ← uriText verbatim (c.rest.length + 1) c.rest []
  .ok (text, c.skip (c.rest.length - rest.length))

def takeHandle (c : Cursor) : Except SyntaxError (List Char × Cursor) :=
  match c.rest with
  | '!' :: _ =>
    let (word, c) := (c.skip 1).takeWhile isWordChar
    match c.rest with
    | '!' :: _ => .ok ('!' :: word ++ ['!'], c.skip 1)
    | _ => .ok ('!' :: word, c)
  | _ => .error .badTag

def isFullHandle (handle : List Char) : Bool := handle.length > 1 && handle.getLast? = some '!'

def takeTag (inFlow : Bool) (c : Cursor) : Except SyntaxError (Token × Cursor) := do
  let (handle, suffix, c) ← match c.rest with
    | '!' :: '<' :: _ => do
      let (text, c) ← takeUri true (c.skip 2)
      if text.isEmpty then .error .badTag
      else
        match c.rest with
        | '>' :: _ => Except.ok ([], text, c.skip 1)
        | _ => .error .badTag
    | _ => do
      let (handle, c) ← takeHandle c
      let (text, c) ← takeUri false c
      if isFullHandle handle then
        if text.isEmpty then .error .badTag else Except.ok (handle, text, c)
      else
        let suffix := handle.drop 1 ++ text
        if suffix.isEmpty then Except.ok ([], ['!'], c) else Except.ok (['!'], suffix, c)
  if atSpacing c.rest || (inFlow && c.rest.head? == some ',') then .ok (.tag handle suffix, c)
  else .error .badTag

def takeAnchor (c : Cursor) : Except SyntaxError (List Char × Cursor) :=
  let (name, c) := (c.skip 1).takeWhile isWordChar
  if name.isEmpty then .error .badAnchor
  else if atSpacing c.rest || c.rest.head?.any (fun d => "?:,]\x7d%@\x60".toList.contains d) then
    .ok (name, c)
  else .error .badAnchor

def takeNumber (c : Cursor) : Except SyntaxError (Nat × Cursor) :=
  let (digits, c) := c.takeWhile Char.isDigit
  if digits.isEmpty || digits.length > 9 then .error .badDirective
  else .ok (digits.foldl (fun n d => n * 10 + (d.toNat - 48)) 0, c)

def takeDirective (c : Cursor) : Except SyntaxError (Token × Cursor) := do
  let (name, c) := (c.skip 1).takeWhile isWordChar
  if !atSpacing c.rest then .error .badDirective
  else
    let c := c.skipBlanks
    let (token, c) ←
      if name = "YAML".toList then do
        let (major, c) ← takeNumber c
        match c.rest with
        | '.' :: _ => do
          let (minor, c) ← takeNumber (c.skip 1)
          Except.ok (Token.versionDirective major minor, c)
        | _ => .error .badDirective
      else if name = "TAG".toList then do
        let (handle, c) ← takeHandle c
        if handle ≠ ['!'] ∧ !isFullHandle handle then .error .badDirective
        else if !startsWithBlank c.rest then .error .badDirective
        else do
          let (start, c) ← takeUri true c.skipBlanks
          if start.isEmpty || !atSpacing c.rest then .error .badDirective
          else Except.ok (Token.tagDirective handle start, c)
      else .error .badDirective
    let c := c.skipBlanks.skipComment
    if atBreak c.rest then .ok (token, c.takeBreak.2) else .error .badDirective
where
  startsWithBlank : List Char → Bool
    | [] => false
    | c :: _ => isBlank c

namespace TokenState

def emitNext (n : Nat) (t : Token) (s : TokenState) : TokenState :=
  { s.emit t with cursor := s.cursor.skip n }

def leaveBlocks (s : TokenState) : Except SyntaxError TokenState := do
  let s ← (s.unroll (-1)).removeKey
  .ok { s with keyAllowed := false }

def openFlow (t : Token) (s : TokenState) : Except SyntaxError TokenState := do
  let s ← s.saveKey
  let s := s.emitNext 1 t
  .ok { s with key := none, outerKeys := s.key :: s.outerKeys, keyAllowed := true }

def closeFlow (t : Token) (s : TokenState) : Except SyntaxError TokenState := do
  let s ← s.removeKey
  let s := { s.emitNext 1 t with keyAllowed := false }
  match s.outerKeys with
  | [] => .ok s
  | key :: keys => .ok { s with key := key, outerKeys := keys }

def flowEntry (s : TokenState) : Except SyntaxError TokenState := do
  let s ← s.removeKey
  .ok { s.emitNext 1 .flowEntry with keyAllowed := true }

def blockEntry (s : TokenState) : Except SyntaxError TokenState :=
  if !s.inFlow && !s.keyAllowed then .error .misplacedEntry
  else do
    let s ← (s.roll s.cursor.column s.count .blockSequence).removeKey
    .ok { s.emitNext 1 .blockEntry with keyAllowed := true }

def explicitKey (s : TokenState) : Except SyntaxError TokenState :=
  if !s.inFlow && !s.keyAllowed then .error .misplacedKey
  else do
    let s ← (s.roll s.cursor.column s.count .blockMapping).removeKey
    .ok { s.emitNext 1 .key with keyAllowed := !s.inFlow }

def value (s : TokenState) : Except SyntaxError TokenState :=
  match s.key with
  | some key =>
    -- the key was read before it was known to be one: its mark, and the start of a mapping
    -- that begins with it, go in front of its tokens
    let s := (s.insertAt key.number .key).roll key.position.column key.number .blockMapping
    .ok { s.emitNext 1 .value with key := none, keyAllowed := false }
  | none =>
    if !s.inFlow && !s.keyAllowed then .error .misplacedValue
    else
      let s := s.roll s.cursor.column s.count .blockMapping
      .ok { s.emitNext 1 .value with keyAllowed := !s.inFlow }

def content (read : Cursor → Except SyntaxError (Token × Cursor)) (s : TokenState) :
    Except SyntaxError TokenState := do
  let s ← s.saveKey
  let (t, cursor) ← read s.cursor
  .ok { s.emit t with cursor := cursor, keyAllowed := false }

def blockText (folded : Bool) (s : TokenState) : Except SyntaxError TokenState := do
  let s ← s.removeKey
  let text ← blockScalar folded s.indent (s.cursor.skip 1)
  let t := Token.scalar text.text (if folded then .quoted else .literal)
  .ok { s.emit t with cursor := text.cursor, keyAllowed := true }

def plainText (s : TokenState) : Except SyntaxError TokenState := do
  let s ← s.saveKey
  let text ← plainScalar s.inFlow (s.indent + 1) .none [] s.cursor.rest s.cursor.position
  .ok { s.emit (.scalar text.text .plain) with cursor := text.cursor, keyAllowed := text.broken }

def singleQuotedText (c : Cursor) : Except SyntaxError (Token × Cursor) := do
  let c := c.skip 1
  let text ← singleQuoted .none [] c.rest c.position
  .ok (.scalar text.text .quoted, text.cursor)

def doubleQuotedText (c : Cursor) : Except SyntaxError (Token × Cursor) := do
  let c := c.skip 1
  let text ← doubleQuoted 0 0 .none [] c.rest c.position
  .ok (.scalar text.text .quoted, text.cursor)

def atPlain (inFlow : Bool) (c : Char) (rest : List Char) : Bool :=
  (!isBlank c && !"-?:,[]\x7b\x7d#&*!|>\x27\x22%@\x60".toList.contains c)
    || c = '-' || ((c = '?' || c = ':') && !inFlow)
    && !atSpacing rest

def token (s : TokenState) : Except SyntaxError TokenState :=
  match s.cursor.rest with
  | [] => do
    let s ← s.leaveBlocks
    .ok (s.emit .streamEnd)
  | c :: rest =>
    if s.cursor.column = 0 ∧ c = '%' then do
      let s ← s.leaveBlocks
      let (t, cursor) ← takeDirective s.cursor
      .ok { s.emit t with cursor := cursor }
    else if s.cursor.column = 0 ∧ atMarker (c :: rest) then do
      let s ← s.leaveBlocks
      .ok (s.emitNext 3 (if c = '-' then .documentStart else .documentEnd))
    else if c = '[' then s.openFlow .flowSequence
    else if c = '\x7b' then s.openFlow .flowMapping
    else if c = ']' then s.closeFlow .flowSequenceEnd
    else if c = '\x7d' then s.closeFlow .flowMappingEnd
    else if c = ',' then s.flowEntry
    else if c = '-' ∧ atSpacing rest then s.blockEntry
    else if c = '?' ∧ (s.inFlow ∨ atSpacing rest) then s.explicitKey
    else if c = ':' ∧ (s.inFlow ∨ atSpacing rest) then s.value
    else if c = '*' then s.content fun c => do
      let (name, c) ← takeAnchor c
      .ok (.alias name, c)
    else if c = '&' then s.content fun c => do
      let (name, c) ← takeAnchor c
      .ok (.anchor name, c)
    else if c = '!' then s.content (takeTag s.inFlow)
    else if c = '|' ∧ !s.inFlow then s.blockText false
    else if c = '>' ∧ !s.inFlow then s.blockText true
    else if c = '\x27' then s.content singleQuotedText
    else if c = '\x22' then s.content doubleQuotedText
    else if atPlain s.inFlow c rest then s.plainText
    else .error .unknownCharacter

def next (s : TokenState) : Except SyntaxError TokenState := do
  let (allowed, cursor) :=
    skipSpacing s.inFlow s.keyAllowed false s.cursor.rest s.cursor.position
  let key ← freshKey cursor.position s.key
  let keys ← freshKeys cursor.position s.outerKeys
  let s := { s with cursor := cursor, keyAllowed := allowed, key := key, outerKeys := keys }
  (s.unroll cursor.column).token

def isPending (p : Position) : Option KeyCandidate → Bool
  | none => false
  | some key => key.required || !key.isStale p

def settled (s : TokenState) : List Token :=
  let pending := (s.key :: s.outerKeys).filter (isPending s.cursor.position)
  let numbers := pending.filterMap (Option.map KeyCandidate.number)
  s.reversed.reverse.take (numbers.foldl min s.count)

def run : Nat → TokenState → List Token × Option SyntaxError
  | 0, s => (s.settled, some .outOfFuel)
  | fuel + 1, s =>
    match s.next with
    | .error e => (s.settled, some e)
    | .ok s =>
      if s.reversed.head? = some .streamEnd then (s.reversed.reverse, none) else run fuel s

end TokenState

def tokens (cs : List Char) : List Token × Option SyntaxError :=
  if cs.all isAllowed then (TokenState.start cs).run (cs.length + 2)
  else ([], some .controlCharacter)

end OverlayConfig.Yaml
