set_option autoImplicit false

namespace OverlayConfig.Yaml

/-- A line break: carriage return, line feed, next line, line separator, paragraph separator. -/
def isBreak (c : Char) : Bool :=
  c = '\n' || c = '\r' || c.toNat = 0x85 || c.toNat = 0x2028 || c.toNat = 0x2029

def isBlank (c : Char) : Bool := c = ' ' || c = '\t'

def isSpacing (c : Char) : Bool := isBlank c || isBreak c

def atSpacing : List Char → Bool
  | [] => true
  | c :: _ => isSpacing c

def atBreak : List Char → Bool
  | [] => true
  | c :: _ => isBreak c

def isWordChar (c : Char) : Bool := c.isAlphanum || c = '_' || c = '-'

/-- A character that a text may hold. Other control characters make the whole text unreadable. -/
def isAllowed (c : Char) : Bool :=
  let n := c.toNat
  n = 9 || n = 10 || n = 13 || (0x20 ≤ n && n ≤ 0x7e) || n = 0x85 || (0xa0 ≤ n && n ≤ 0xd7ff)
    || (0xe000 ≤ n && n ≤ 0xfffd) || (0x10000 ≤ n && n ≤ 0x10ffff)

def isPrintable (c : Char) : Bool :=
  let n := c.toNat
  n = 10 || (0x20 ≤ n && n ≤ 0x7e) || (0xa0 ≤ n && n ≤ 0xd7ff)
    || (0xe000 ≤ n && n ≤ 0xfffd && n != 0xfeff) || 0x10000 ≤ n

inductive SyntaxError where
  | controlCharacter
  | missingColon
  | misplacedEntry
  | misplacedKey
  | misplacedValue
  | unknownCharacter
  | badDirective
  | badAnchor
  | badTag
  | badBlockHeader
  | tabIndentation
  | unexpectedMarker
  | unclosedQuote
  | badEscape
  | unexpectedColon
  | duplicateDirective
  | unsupportedVersion
  | undefinedTagHandle
  | missingDocumentStart
  | missingContent
  | missingSeparator
  | missingDash
  | missingKey
  | undefinedAnchor
  | severalDocuments
  | outOfFuel
  deriving DecidableEq, Repr

structure Position where
  index : Nat
  line : Nat
  column : Nat
  deriving DecidableEq, Repr

namespace Position

def start : Position := ⟨0, 0, 0⟩

def afterAll (p : Position) (cs : List Char) : Position :=
  ⟨cs.foldl (fun n c => n + c.utf8Size) p.index, p.line, p.column + cs.length⟩

def after (p : Position) (c : Char) : Position := ⟨p.index + c.utf8Size, p.line, p.column + 1⟩

def nextLine (p : Position) (c : Char) : Position := ⟨p.index + c.utf8Size, p.line + 1, 0⟩

end Position

structure Cursor where
  rest : List Char
  position : Position
  deriving DecidableEq, Repr

namespace Cursor

def column (c : Cursor) : Nat := c.position.column

def skip (c : Cursor) (n : Nat) : Cursor := ⟨c.rest.drop n, c.position.afterAll (c.rest.take n)⟩

/-- The characters of a line as long as they have a property, and the place after them. -/
def takeWhile (p : Char → Bool) (c : Cursor) : List Char × Cursor :=
  let cs := c.rest.takeWhile p
  (cs, c.skip cs.length)

def skipWhile (p : Char → Bool) (c : Cursor) : Cursor := (c.takeWhile p).2

def skipBlanks (c : Cursor) : Cursor := c.skipWhile isBlank

def skipComment (c : Cursor) : Cursor :=
  match c.rest with
  | '#' :: _ => c.skipWhile fun d => !isBreak d
  | _ => c

end Cursor

/-- A line break as it is read: the separators of lines and paragraphs are kept, all others are line
feeds. -/
def readBreak (c : Char) : Char := if c.toNat = 0x2028 || c.toNat = 0x2029 then c else '\n'

namespace Cursor

/-- Reads a line break, if there is one. A carriage return and a line feed are one. -/
def takeBreak (c : Cursor) : List Char × Cursor :=
  match c.rest with
  | '\r' :: '\n' :: rest => (['\n'], ⟨rest, (c.position.after '\r').nextLine '\n'⟩)
  | d :: rest => if isBreak d then ([readBreak d], ⟨rest, c.position.nextLine d⟩) else ([], c)
  | [] => ([], c)

def takeLine (c : Cursor) : List Char × List Char × Cursor :=
  let (line, c) := c.takeWhile fun d => !isBreak d
  (line, c.takeBreak)

end Cursor

def atMarker : List Char → Bool
  | '-' :: '-' :: '-' :: rest => atSpacing rest
  | '.' :: '.' :: '.' :: rest => atSpacing rest
  | _ => false

end OverlayConfig.Yaml
