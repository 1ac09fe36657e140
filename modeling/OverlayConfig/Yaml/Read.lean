import OverlayConfig.Shape
import OverlayConfig.Yaml.Document
import OverlayConfig.Yaml.PlainValue
/-!
Reading documents into JSON values that fit a shape. A text takes the text of any scalar, a number
only plain ones, and a plain scalar without text is an empty collection. What is read is in
ascending order of its keys. Nesting and the number of followed aliases are bounded, so that also a
document that contains itself is read in finitely many steps.
-/
set_option autoImplicit false

namespace OverlayConfig.Yaml

inductive Step where
  | key (text : List Char)
  | index (n : Nat)
  | unknown
  deriving DecidableEq, Repr

abbrev Place := List Step

def placeText : Place → List Char
  | [] => []
  | .key text :: [] => text
  | .key text :: rest => placeText rest ++ '.' :: text
  | .index n :: [] => '.' :: '[' :: Nat.toDigits 10 n ++ [']']
  | .index n :: rest => placeText rest ++ '[' :: Nat.toDigits 10 n ++ [']']
  | .unknown :: [] => ['?']
  | .unknown :: rest => placeText rest ++ ['.', '?']

inductive ReadError where
  | mismatch (cause : DecodeError) (place : Option Place)
  | tooDeep
  | tooManyAliases
  deriving DecidableEq, Repr

namespace ReadError

def locate (place : Place) : ReadError → ReadError
  | .mismatch cause none => .mismatch cause (some place)
  | e => e

def message : ReadError → String
  | .mismatch cause place =>
    let at_ := String.ofList (placeText (place.getD []))
    if at_ = "" then cause.message .yaml else at_ ++ ": " ++ cause.message .yaml
  | .tooDeep => "recursion limit exceeded"
  | .tooManyAliases => "repetition limit exceeded"

end ReadError

/-- A step of reading; the state is the number of aliases that may still be followed. -/
abbrev Read (α : Type) : Type := StateT Nat (Except ReadError) α

def mismatch {α : Type} (cause : DecodeError) : Read α := throw (.mismatch cause none)

def located {α : Type} (place : Place) (step : Read α) : Read α := fun s =>
  match step s with
  | .ok result => .ok result
  | .error e => .error (e.locate place)

def ofResult {α : Type} : Except DecodeError α → Read α
  | .ok x => pure x
  | .error cause => mismatch cause

def coreTag (name : String) : List Char := "tag:yaml.org,2002:".toList ++ name.toList

/-- What a scalar is. Tags of the core schema fix what it has to be, and any other tag makes it a
text. -/
def scalarFound (text : List Char) (kind : ScalarKind) (tag : Option (List Char)) :
    Except DecodeError Found :=
  let s := String.ofList text
  let ofInt (n : Int) : Found := if fitsWord n then .int n else .wideInt n
  let untagged : Found :=
    match plainValue text with
    | .null => .absent
    | .bool b => .bool b
    | .int n => ofInt n
    | .double d => .double d
    | .text => .string s
  match tag with
  | none => .ok (if kind = .plain then untagged else .string s)
  | some tag =>
    if tag = coreTag "bool" then
      match boolWord? text with
      | some b => .ok (.bool b)
      | none => .error (.invalidValue (.string s) "a boolean")
    else if tag = coreTag "int" then
      match (integer? text).bind fun n => if fitsWide n then some n else none with
      | some n => .ok (ofInt n)
      | none => .error (.invalidValue (.string s) "an integer")
    else if tag = coreTag "float" then
      match double? text with
      | some d => .ok (.double d)
      | none => .error (.invalidValue (.string s) "a float")
    else if tag = coreTag "null" then
      if isNullWord text then .ok .absent else .error (.invalidValue (.string s) "null")
    else .ok (if tag.head? = some '!' ∧ kind = .plain then untagged else .string s)

/-- The value of a scalar where anything is allowed. Numbers that are not finite are null. -/
def anyScalar (text : List Char) (kind : ScalarKind) (tag : Option (List Char)) :
    Except DecodeError Json :=
  if tag.any fun t => t.head? = some '!' then
    .error (.invalidType .tagged Shape.anything.words)
  else do
    match ← scalarFound text kind tag with
    | .bool b => .ok (.bool b)
    | .int n => .ok (.int n)
    | .double d => .ok (if d.isFinite then .number (.double d) else .null)
    | .string s => .ok (.string s)
    | .wideInt _ => .error .numberOutOfRange
    | _ => .ok .null

/-- Numbers and truth values are written plain, or as a literal block with their tag. -/
def isBare (name : String) (kind : ScalarKind) (tag : Option (List Char)) : Bool :=
  match kind with
  | .plain => true
  | .literal => tag = some (coreTag name)
  | .quoted => false

def unfit {α : Type} (shape : Shape) (text : List Char) (kind : ScalarKind)
    (tag : Option (List Char)) : Except DecodeError α :=
  match scalarFound text kind tag with
  | .ok found => .error (.invalidType found shape.words)
  | .error cause => .error cause

/-- The integer that is written, within 64 bits. Where the range has no negative ones, the text has
no minus sign either. -/
def wordInteger? (low : Int) (text : List Char) : Option Int := do
  let n ← integer? text
  if 0 ≤ low then
    if text.head? ≠ some '-' ∧ n < Int.pow 2 64 then some n else none
  else if -(Int.pow 2 63) ≤ n ∧ n < Int.pow 2 63 then some n
  else none

def readScalar (shape : Shape) (text : List Char) (kind : ScalarKind) (tag : Option (List Char)) :
    Except DecodeError Json :=
  let blank := text.isEmpty && kind = .plain
  match shape with
  | .anything | .deeper => anyScalar text kind tag
  | .text => .ok (.string (String.ofList text))
  | .constant value => do
    Shape.checkConstant value (String.ofList text)
    .ok (.string value)
  | .flag =>
    match boolWord? text with
    | some b => if isBare "bool" kind tag then .ok (.bool b) else unfit shape text kind tag
    | none => unfit shape text kind tag
  | .integer low high words =>
    match wordInteger? low text with
    | some n =>
      if isBare "int" kind tag then do
        Shape.checkRange low high n words
        .ok (.int n)
      else unfit shape text kind tag
    | none => unfit shape text kind tag
  | .textOrInteger => do
    match ← scalarFound text kind tag with
    | .int n => do
      Shape.checkRange (-2147483648) 2147483647 n "a 32-bit integer"
      .ok (.int n)
    | .string s => .ok (.string s)
    | found => .error (.invalidType found shape.words)
  | .quantity => do
    match ← scalarFound text kind tag with
    | .int n => .ok (.int n)
    | .string s => .ok (.string s)
    | found => .error (.invalidType found shape.words)
  | .timestamp => (Shape.readTimestamp text).map fun t => .string (String.ofList t.text)
  | .list _ => if blank then .ok (.array []) else unfit shape text kind tag
  | .table _ => if blank then .ok (.object []) else unfit shape text kind tag
  | .record .. => if blank then .ok (.object []) else unfit shape text kind tag

def follow (anchors : Anchors) : Node → Read Node
  | .alias slot => do
    match ← get with
    | 0 => throw .tooManyAliases
    | n + 1 => do
      set n
      match anchors.node? slot with
      | some node => pure node
      | none => throw .tooDeep
  | node => pure node

def readKey (anchors : Anchors) (words : String) (key : Node) : Read (List Char × Step) := do
  match ← follow anchors key with
  | .scalar text _ _ =>
    match key with
    | .alias _ => pure (text, .unknown)
    | _ => pure (text, .key text)
  | .sequence .. => mismatch (.invalidType .sequence words)
  | _ => mismatch (.invalidType .mapping words)

def isMissing (anchors : Anchors) (node : Node) : Read (Bool × Node) := do
  let node ← follow anchors node
  match node with
  | .scalar text .plain none => pure (text.isEmpty || isNullWord text, node)
  | .scalar text .plain (some tag) =>
    if tag = coreTag "null" then
      if isNullWord text then pure (true, node)
      else mismatch (.invalidValue (.string (String.ofList text)) "null")
    else pure (false, node)
  | _ => pure (false, node)

def readItems (read : Place → Node → Read Json) (place : Place) :
    (index : Nat) → List Node → Read (List Json)
  | _, [] => pure []
  | index, node :: rest => do
    let v ← read (.index index :: place) node
    let vs ← readItems read place (index + 1) rest
    pure (v :: vs)

/-- Reads the entries of a mapping; the last value of a repeated key stays. The words are for the
first key and for all others. -/
def readEntries (anchors : Anchors) (first others : String) (read : Place → Node → Read Json)
    (place : Place) : (done : Fields Json) → List (Node × Node) → Read (Fields Json)
  | done, [] => pure done
  | done, (key, value) :: rest => do
    let (text, step) ← located place (readKey anchors first key)
    let v ← read (step :: place) value
    readEntries anchors others others read place (done.insert (String.ofList text) v) rest

/-- Reads the entries of a record that it knows. `seen` holds the known fields so far. -/
def readFields (anchors : Anchors) (read : Shape → Place → Node → Read Json)
    (strict : Bool) (known : List (String × Presence × Shape)) (place : Place) :
    (seen : List String) → (done : Fields Json) → List (Node × Node) →
      Read (List String × Fields Json)
  | seen, done, [] => pure (seen, done)
  | seen, done, (key, value) :: rest => do
    let (text, step) ← located place (readKey anchors "field identifier" key)
    let name := String.ofList text
    match Fields.get? name known with
    | none => readFields anchors read strict known place seen done rest
    | some (presence, shape) => do
      if strict ∧ seen.contains name then mismatch (.duplicateField name)
      let done ←
        if presence.allowsNull then do
          let (missing, node) ← isMissing anchors value
          if missing then pure (done.erase name)
          else do
            let v ← read shape (step :: place) node
            pure (done.insert name v)
        else do
          let v ← read shape (step :: place) value
          pure (done.insert name v)
      readFields anchors read strict known place (name :: seen) done rest

def fillTexts (fields : Fields Json) : List (String × Presence × Shape) → Fields Json
  | [] => fields
  | (k, presence, _) :: rest =>
    if presence = .textual ∧ !fields.contains k then
      fillTexts (fields.insert k (.string "")) rest
    else fillTexts fields rest

def finishRecord (known : List (String × Presence × Shape)) (seen : List String)
    (fields : Fields Json) : Except DecodeError (Fields Json) := do
  Shape.checkMissing seen known
  .ok (fillTexts fields known)

def readNode (anchors : Anchors) : (depth : Nat) → Shape → Place → Node → Read Json
  | 0, .deeper, _, _ => throw .tooDeep
  | depth + 1, .deeper, place, node => readNode anchors depth .anything place node
  | depth, shape, place, node => do
    match ← follow anchors node with
    | .alias _ => throw .tooDeep
    | .scalar text kind tag =>
      match shape with
      | .record _ _ known condition => do
        let v ← located place (ofResult (readScalar shape text kind tag))
        let fields ← located place (ofResult (finishRecord known [] (v.fields?.getD [])))
        ofResult (condition (.object fields))
        pure (.object fields)
      | _ => located place (ofResult (readScalar shape text kind tag))
    | .sequence items tag =>
      match shape with
      | .anything =>
        if tag.any fun t => t.head? = some '!' then
          located place (mismatch (.invalidType .tagged shape.words))
        else
          match depth with
          | 0 => throw .tooDeep
          | depth + 1 => do
            let vs ← readItems (readNode anchors depth .anything) place 0 items
            pure (.array vs)
      | .list item =>
        match depth with
        | 0 => throw .tooDeep
        | depth + 1 => do
          let vs ← located place (readItems (readNode anchors depth item) place 0 items)
          pure (.array vs)
      | _ => located place (mismatch (.invalidType .sequence shape.words))
    | .mapping entries tag =>
      match shape with
      | .anything =>
        if tag.any fun t => t.head? = some '!' then
          located place (mismatch (.invalidType .tagged shape.words))
        else
          match depth with
          | 0 => throw .tooDeep
          | depth + 1 => do
            let fields ← located place (readEntries anchors "a string key" "a string"
              (readNode anchors depth .anything) place [] entries)
            pure (.object fields)
      | .table value =>
        match depth with
        | 0 => throw .tooDeep
        | depth + 1 => do
          let fields ← located place (readEntries anchors "a string" "a string"
            (readNode anchors depth value) place [] entries)
          pure (.object fields)
      | .record _ strict known condition =>
        match depth with
        | 0 => throw .tooDeep
        | depth + 1 => do
          let fields ← located place do
            let (seen, fields) ←
              readFields anchors (readNode anchors depth) strict known place [] [] entries
            ofResult (finishRecord known seen fields)
          ofResult (condition (.object fields))
          pure (.object fields)
      | _ => located place (mismatch (.invalidType .mapping shape.words))

def maxDepth : Nat := 128

def Document.read (shape : Shape) (d : Document) : Except ReadError Json :=
  match (located [] (readNode d.anchors maxDepth shape [] d.root)).run (100 * d.root.size) with
  | .ok (v, _) => .ok v
  | .error e => .error e

/-- The values of documents up to the first one that cannot be read, and whether there is one. -/
def readValues : List Document → List Json × Bool
  | [] => ([], false)
  | d :: rest =>
    match d.read .anything with
    | .error _ => ([], true)
    | .ok v =>
      let (vs, failed) := readValues rest
      (v :: vs, failed)

/-- The values of the documents of a text up to the first error, and whether there is one. -/
def values (cs : List Char) : List Json × Bool :=
  let (ds, failure) := documents cs
  let (vs, failed) := readValues ds
  (vs, failed || failure.isSome)

inductive DocumentError where
  | syntaxError (cause : SyntaxError)
  | readError (cause : ReadError)
  deriving DecidableEq, Repr

def readDocument (shape : Shape) (cs : List Char) : Except DocumentError Json :=
  match documents cs with
  | (_, some e) => .error (.syntaxError e)
  | ([d], none) => (d.read shape).mapError .readError
  | (_, none) => .error (.syntaxError .severalDocuments)

end OverlayConfig.Yaml
