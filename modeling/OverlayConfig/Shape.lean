import OverlayConfig.Json.Decode
import OverlayConfig.Timestamp
/-!
Shapes that documents have to fit. A record tells for each of its fields whether it may be missing,
and ignores fields that it does not know. The first thing that does not fit is the error.
-/
set_option autoImplicit false

namespace OverlayConfig

inductive Presence where
  | required
  | omittable
  | nullable
  | textual
  deriving DecidableEq, Repr

def Presence.allowsNull : Presence → Bool
  | .nullable | .textual => true
  | _ => false

inductive Shape where
  | anything
  | deeper
  | text
  | constant (value : String)
  | flag
  | integer (low high : Int) (words : String)
  | textOrInteger
  | quantity
  | timestamp
  | list (item : Shape)
  | table (value : Shape)
  /-- The words name the record in messages; `strict` refuses repeated fields. The condition is on
  the record as a whole. -/
  | record (words : String) (strict : Bool) (fields : List (String × Presence × Shape))
    (condition : Json → Except DecodeError Unit)

namespace Shape

def int32 : Shape := .integer (-2147483648) 2147483647 "i32"

def int64 : Shape := .integer (-9223372036854775808) 9223372036854775807 "i64"

def uint32 : Shape := .integer 0 4294967295 "u32"

def words : Shape → String
  | .anything | .deeper => "any valid JSON value"
  | .text | .constant _ => "a string"
  | .flag => "a boolean"
  | .integer _ _ words => words
  | .textOrInteger => "IntOrString"
  | .quantity => "Quantity"
  | .timestamp => "an RFC 3339 formatted date and time string"
  | .list _ => "a sequence"
  | .table _ => "a map"
  | .record words .. => words

def checkConstant (value text : String) : Except DecodeError Unit :=
  if text = value then .ok () else .error (.invalidValue (.string text) value)

def readTimestamp (text : List Char) : Except DecodeError Timestamp :=
  match Timestamp.parse text with
  | .ok t => .ok t
  | .error e => .error (.invalidTime e.message)

def checkRange (low high n : Int) (words : String) : Except DecodeError Unit :=
  if low ≤ n ∧ n ≤ high then .ok () else .error (.invalidValue (.int n) words)

def checkMissing (present : List String) :
    List (String × Presence × Shape) → Except DecodeError Unit
  | [] => .ok ()
  | (k, presence, _) :: rest =>
    if presence = .required ∧ !present.contains k then .error (.missingField k)
    else checkMissing present rest

def checkLeaf (v : Json) (shape : Shape) : Except DecodeError Unit :=
  match shape, v with
  | .anything, _ | .deeper, _ | .text, .string _ | .flag, .bool _ => .ok ()
  | .textOrInteger, .string _ | .quantity, .string _ | .quantity, .number (.int _) => .ok ()
  | .constant value, .string s => checkConstant value s
  | .integer low high words, .number (.int n) => checkRange low high n words
  | .textOrInteger, .number (.int n) => checkRange (-2147483648) 2147483647 n "a 32-bit integer"
  | .timestamp, .string s => (readTimestamp s.toList).map fun _ => ()
  | shape, v => .error (.invalidType v.found shape.words)

mutual
def check : Json → Shape → Except DecodeError Unit
  | .array items, .list item => checkItems item items
  | .object fields, .table value => checkValues value fields
  | .object fields, .record _ _ known condition => do
    checkFields known fields
    checkMissing (Fields.keys fields) known
    condition (.object fields)
  | v, shape => checkLeaf v shape

def checkItems (shape : Shape) : List Json → Except DecodeError Unit
  | [] => .ok ()
  | v :: rest => do
    check v shape
    checkItems shape rest

def checkValues (shape : Shape) : List (String × Json) → Except DecodeError Unit
  | [] => .ok ()
  | (_, v) :: rest => do
    check v shape
    checkValues shape rest

def checkFields (known : List (String × Presence × Shape)) :
    List (String × Json) → Except DecodeError Unit
  | [] => .ok ()
  | (k, v) :: rest => do
    match Fields.get? k known with
    | none => .ok ()
    | some (presence, shape) =>
      if presence.allowsNull ∧ v = .null then .ok () else check v shape
    checkFields known rest
end

variable {α : Type}

/-- Reads the field of a record that has a key, null as missing, and checks the fields that have
another one. -/
def readFields (known : List (String × Presence × Shape)) (key : String)
    (read : Json → Except DecodeError α) : Fields Json → Except DecodeError (Option α)
  | [] => .ok none
  | (k, v) :: rest =>
    if k = key then do
      let x ← Json.decodeOption read v
      let _ ← readFields known key read rest
      .ok x
    else do
      checkFields known [(k, v)]
      readFields known key read rest

/-- Reads one field of a record, and checks all else that the shape of the record asks for. -/
def readPart (shape : Shape) (key : String) (read : Json → Except DecodeError α) (v : Json) :
    Except DecodeError (Option α) :=
  match shape, v with
  | .record _ _ known condition, .object fields => do
    let x ← readFields known key read fields
    checkMissing (Fields.keys fields) known
    condition (.object fields)
    .ok x
  | shape, v => .error (.invalidType v.found shape.words)

end Shape

end OverlayConfig
