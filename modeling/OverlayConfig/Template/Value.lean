import OverlayConfig.Json.Decode
import OverlayConfig.Text.Characters
/-!
The values of template expressions and what can be seen of one of them: its kind, its truth, its
entries, the elements that a loop runs over, and the number that it is. A value that is not there is
a value of its own, which most uses refuse; only the one of a choice without alternative counts as
an empty text.
-/
set_option autoImplicit false

namespace OverlayConfig.Template

inductive ErrorKind where
  | syntaxError
  | badEscape
  | undefinedError
  | invalidOperation
  | unknownFilter
  | unknownTest
  | unknownFunction
  | unknownMethod
  | unknownBlock
  | missingArgument
  | tooManyArguments
  | cannotUnpack
  | templateNotFound
  deriving DecidableEq, Repr

def ErrorKind.name : ErrorKind → String
  | .syntaxError => "SyntaxError"
  | .badEscape => "BadEscape"
  | .undefinedError => "UndefinedError"
  | .invalidOperation => "InvalidOperation"
  | .unknownFilter => "UnknownFilter"
  | .unknownTest => "UnknownTest"
  | .unknownFunction => "UnknownFunction"
  | .unknownMethod => "UnknownMethod"
  | .unknownBlock => "UnknownBlock"
  | .missingArgument => "MissingArgument"
  | .tooManyArguments => "TooManyArguments"
  | .cannotUnpack => "CannotUnpack"
  | .templateNotFound => "TemplateNotFound"

/-- The sizes of integers. What an integer is does not depend on its size, except where it is
compared with a floating-point number. -/
inductive IntSize where
  | signed64
  | unsigned64
  | signed128
  | unsigned128
  deriving DecidableEq, Repr

def IntSize.greatest : IntSize → Int
  | .signed64 => Int.pow 2 63 - 1
  | .unsigned64 => Int.pow 2 64 - 1
  | .signed128 => Int.pow 2 127 - 1
  | .unsigned128 => Int.pow 2 128 - 1

inductive Value where
  | undefined (silent : Bool)
  | none
  | bool (value : Bool)
  | int (size : IntSize) (value : Int)
  | double (value : Double)
  | text (chars : List Char)
  | markup (chars : List Char)
  | list (items : List Value)
  /-- Items that are made while they are asked for, as those of a range. -/
  | series (items : List Value)
  | group (key : Value) (items : List Value)
  | table (entries : List (Value × Value))
  /-- A table that templates change, with its entries at the time when it was looked up. -/
  | record (identity : Nat) (entries : List (Value × Value))
  /-- What a loop tells about itself in one of its turns. The number of its turns may not be
  known. -/
  | loop (identity turn : Nat) (length : Option Nat) (entries : List (Value × Value))
  | function (name : String)
  /-- A part of a template that can be called. It may take a further part of a template. -/
  | procedure (identity : Nat) (name : String) (parameters : List String) (takesPart : Bool)
  deriving Inhabited

inductive Kind where
  | undefined
  | none
  | bool
  | number
  | text
  | list
  | table
  | series
  | function
  deriving DecidableEq, Repr

def Kind.rank : Kind → Nat
  | .undefined => 0
  | .none => 1
  | .bool => 2
  | .number => 3
  | .text => 4
  | .list => 5
  | .table => 6
  | .series => 7
  | .function => 8

namespace Value

def ofString (s : String) : Value := .text s.toList

def ofInt (n : Int) : Value :=
  .int (if -(Int.pow 2 63) ≤ n ∧ n < Int.pow 2 63 then .signed64 else .signed128) n

def ofNat (n : Nat) : Value := .int (if n < Nat.pow 2 64 then .unsigned64 else .unsigned128) n

mutual
def ofJson : Json → Value
  | .null => .none
  | .bool b => .bool b
  | .number (.int n) => if n < 0 then ofInt n else ofNat n.toNat
  | .number (.double d) => .double d
  | .string s => .text s.toList
  | .array items => .list (ofItems items)
  | .object fields => .table (ofFields fields)

def ofItems : List Json → List Value
  | [] => []
  | v :: rest => ofJson v :: ofItems rest

def ofFields : List (String × Json) → List (Value × Value)
  | [] => []
  | (k, v) :: rest => (ofString k, ofJson v) :: ofFields rest
end

def isUndefined : Value → Bool
  | .undefined _ => true
  | _ => false

def kind : Value → Kind
  | .undefined _ => .undefined
  | .none => .none
  | .bool _ => .bool
  | .int .. | .double _ => .number
  | .text _ | .markup _ => .text
  | .list _ | .group .. => .list
  | .table _ | .record .. | .loop .. | .procedure .. => .table
  | .series _ => .series
  | .function _ => .function

def chars? : Value → Option (List Char)
  | .text cs | .markup cs => some cs
  | _ => Option.none

/-- The items of a list, of a series or of a group, which are its key and what shares it. -/
def items? : Value → Option (List Value)
  | .list items | .series items => some items
  | .group key items => some [key, .series items]
  | _ => Option.none

def entries? : Value → Option (List (Value × Value))
  | .table entries | .record _ entries | .loop _ _ _ entries => some entries
  | .procedure _ name parameters takesPart =>
    some [(ofString "name", ofString name),
      (ofString "arguments", .list (parameters.map ofString)),
      (ofString "caller", .bool takesPart)]
  | _ => Option.none

/-- The values that a loop runs over: the characters of a text, the keys of a table. -/
def elements? (v : Value) : Option (List Value) :=
  match v with
  | .undefined _ | .none => some []
  | v =>
    match v.chars?, v.items?, v.entries? with
    | some cs, _, _ => some (cs.map fun c => .text [c])
    | _, some items, _ => some items
    | _, _, some entries => some (entries.map Prod.fst)
    | _, _, _ => Option.none

def loopLength? (v : Value) : Option Nat :=
  if v.kind = .text then Option.none else v.elements?.map List.length

def isTrue : Value → Bool
  | .undefined _ | .none => false
  | .bool b => b
  | .int _ n => n ≠ 0
  | .double d => !d.isZero
  | .text cs | .markup cs => !cs.isEmpty
  | .list items | .series items => !items.isEmpty
  | .table entries | .record _ entries => !entries.isEmpty
  | .group .. | .loop .. | .function _ | .procedure .. => true

def integer? : Value → Option Int
  | .int _ n => some n
  | _ => Option.none

def double? : Value → Option Double
  | .bool b => some (Double.ofInt (if b then 1 else 0))
  | .int _ n => some (Double.ofInt n)
  | .double d => some d
  | _ => Option.none

/-- The integer of 64 bits that a floating-point number is. The bound that no such integer reaches
is the greatest one. -/
def wholeInt? (d : Double) : Option Int := do
  let n ← d.toInt?
  if -(Int.pow 2 63) ≤ n ∧ n < Int.pow 2 63 then some n
  else if n = Int.pow 2 63 then some (Int.pow 2 63 - 1)
  else Option.none

/-- The signed integer of 128 bits that a value is; also truth values and whole floating-point
numbers are integers. -/
def int? : Value → Option Int
  | .bool b => some (if b then 1 else 0)
  | .int _ n => if n < Int.pow 2 127 then some n else Option.none
  | .double d => wholeInt? d
  | _ => Option.none

def word? (v : Value) : Option Int := do
  let n ← v.int?
  if -(Int.pow 2 63) ≤ n ∧ n < Int.pow 2 63 then some n else Option.none

def count? (v : Value) : Option Nat := do
  let n ← v.int?
  if 0 ≤ n ∧ n < Int.pow 2 64 then some n.toNat else Option.none

def defined (v : Value) : Except ErrorKind Value :=
  match v with
  | .undefined false => .error .undefinedError
  | v => .ok v

def truth (v : Value) : Except ErrorKind Bool := (defined v).map isTrue

end Value

/-- Inside of collections floating-point numbers have an exponent from `1e16` upward and below
`1e-4`. -/
def nestedDoubleLayout : Double.Layout :=
  ⟨-4, 15, false, 1, ['i', 'n', 'f'], ['N', 'a', 'N'], true⟩

def functionPath : List Char := "minijinja::functions::builtins::".toList

namespace Value

def scalarText (layout : Double.Layout) : Value → List Char
  | .none => "None".toList
  | .bool true => "True".toList
  | .bool false => "False".toList
  | .int _ n => Json.intText n
  | .double d => d.text layout
  | .text cs | .markup cs => cs
  | .function name => functionPath ++ name.toList
  | .procedure _ name _ _ => "<macro ".toList ++ name.toList ++ ['>']
  | .loop _ turn length _ =>
    "<loop ".toList ++ Json.intText turn ++ '/' :: (length.elim ['?'] fun n => Json.intText n)
      ++ ['>']
  | .undefined _ | .list _ | .series _ | .group .. | .table _ | .record .. => []

mutual
def inspect : Value → List Char
  | .undefined _ => "undefined".toList
  | .text cs | .markup cs => Text.quoted cs
  | .list items => '[' :: inspectItems items ++ [']']
  | .series items => '[' :: inspectItems items ++ [']']
  | .group key items =>
    '[' :: inspect key ++ ',' :: ' ' :: '[' :: inspectItems items ++ [']', ']']
  | .table entries => '{' :: inspectEntries entries ++ ['}']
  | .record _ entries => '{' :: inspectEntries entries ++ ['}']
  | v => v.scalarText nestedDoubleLayout

def inspectItems : List Value → List Char
  | [] => []
  | [v] => inspect v
  | v :: rest => inspect v ++ ',' :: ' ' :: inspectItems rest

def inspectEntries : List (Value × Value) → List Char
  | [] => []
  | [(k, v)] => inspect k ++ ':' :: ' ' :: inspect v
  | (k, v) :: rest => inspect k ++ ':' :: ' ' :: inspect v ++ ',' :: ' ' :: inspectEntries rest
end

def display : Value → List Char
  | .list items => inspect (.list items)
  | .series items => inspect (.series items)
  | .group key items => inspect (.group key items)
  | .table entries => inspect (.table entries)
  | .record i entries => inspect (.record i entries)
  | v => v.scalarText plainDoubleLayout

def margin (width : Nat) : List Char := List.replicate width ' '

mutual
/-- The text of a value with every item and every entry on a line of its own, inside of lines that
are indented by `width`. -/
def layOut (width : Nat) : Value → List Char
  | .list items => '[' :: layOutItems width items ++ [']']
  | .series items => '[' :: layOutItems width items ++ [']']
  | .group key items =>
    '[' :: '\n' :: margin (width + 4) ++ layOut (width + 4) key ++ ',' :: '\n' :: margin (width + 4)
      ++ '[' :: layOutItems (width + 4) items ++ ']' :: ',' :: '\n' :: margin width ++ [']']
  | .table entries => '{' :: layOutEntries width entries ++ ['}']
  | .record _ entries => '{' :: layOutEntries width entries ++ ['}']
  | v => inspect v

def layOutItems (width : Nat) : List Value → List Char
  | [] => []
  | [v] => '\n' :: margin (width + 4) ++ layOut (width + 4) v ++ ',' :: '\n' :: margin width
  | v :: rest => '\n' :: margin (width + 4) ++ layOut (width + 4) v ++ ',' :: layOutItems width rest

def layOutEntries (width : Nat) : List (Value × Value) → List Char
  | [] => []
  | [(k, v)] =>
    '\n' :: margin (width + 4) ++ layOut (width + 4) k ++ ':' :: ' ' :: layOut (width + 4) v
      ++ ',' :: '\n' :: margin width
  | (k, v) :: rest =>
    '\n' :: margin (width + 4) ++ layOut (width + 4) k ++ ':' :: ' ' :: layOut (width + 4) v
      ++ ',' :: layOutEntries width rest
end

def escapeChar (c : Char) : List Char :=
  if c = '<' then "&lt;".toList
  else if c = '>' then "&gt;".toList
  else if c = '&' then "&amp;".toList
  else if c = '\x22' then "&quot;".toList
  else if c = '\x27' then "&#x27;".toList
  else if c = '/' then "&#x2f;".toList
  else [c]

def escaped : Value → List Char
  | .markup cs => cs
  | v => v.display.flatMap escapeChar

end Value

end OverlayConfig.Template
