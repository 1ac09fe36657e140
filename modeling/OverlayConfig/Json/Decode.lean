import OverlayConfig.Json.Value
import OverlayConfig.Text.Characters
set_option autoImplicit false

namespace OverlayConfig

inductive DocumentFormat where
  | json
  | yaml
  deriving DecidableEq, Repr

inductive Found where
  | absent
  | bool (value : Bool)
  | int (value : Int)
  | wideInt (value : Int)
  | double (value : Double)
  | string (value : String)
  | sequence
  | mapping
  | tagged
  deriving DecidableEq, Repr

inductive DecodeError where
  | missingField (name : String)
  | duplicateField (name : String)
  | invalidType (found : Found) (expected : String)
  | invalidValue (found : Found) (expected : String)
  | invalidLength (length : Nat) (expected : String)
  | unsupportedNetworkType (type : String)
  | mismatchedNetworkType (type : String)
  | numberOutOfRange
  | invalidTime (reason : String)
  deriving DecidableEq, Repr

def plainDoubleLayout : Double.Layout :=
  ⟨-400, 400, false, 1, ['i', 'n', 'f'], ['N', 'a', 'N'], true⟩

def intString (n : Int) : String := String.ofList (Json.intText n)

def Found.message (format : DocumentFormat) : Found → String
  | .absent => match format with
    | .json => "null"
    | .yaml => "unit value"
  | .bool b => "boolean \x60" ++ (if b then "true" else "false") ++ "\x60"
  | .int n => "integer \x60" ++ intString n ++ "\x60"
  | .wideInt n =>
    "integer \x60" ++ intString n ++ "\x60 as " ++ (if n < 0 then "i128" else "u128")
  | .double d =>
    let layout := match format with
      | .json => Json.doubleLayout
      | .yaml => plainDoubleLayout
    "floating point \x60" ++ String.ofList (d.text layout) ++ "\x60"
  | .string s => "string " ++ Text.quote s
  | .sequence => "sequence"
  | .mapping => "map"
  | .tagged => "enum"

def DecodeError.message (format : DocumentFormat) : DecodeError → String
  | .missingField name => "missing field \x60" ++ name ++ "\x60"
  | .duplicateField name => "duplicate field \x60" ++ name ++ "\x60"
  | .invalidType found expected =>
    "invalid type: " ++ found.message format ++ ", expected " ++ expected
  | .invalidValue found expected =>
    "invalid value: " ++ found.message format ++ ", expected " ++ expected
  | .invalidLength length expected =>
    "invalid length " ++ intString length ++ ", expected " ++ expected
  | .unsupportedNetworkType type => "unsupported default network type \"" ++ type ++ "\""
  | .mismatchedNetworkType type =>
    "openshiftSDNConfig is set but default network type is \"" ++ type ++ "\""
  | .numberOutOfRange => "JSON number out of range"
  | .invalidTime reason => reason

end OverlayConfig

namespace OverlayConfig.Json

def found : Json → Found
  | .null => .absent
  | .bool b => .bool b
  | .number (.int n) => .int n
  | .number (.double d) => .double d
  | .string s => .string s
  | .array _ => .sequence
  | .object _ => .mapping

def decodeString : Json → Except DecodeError String
  | .string s => .ok s
  | v => .error (.invalidType v.found "a string")

def decodeBool : Json → Except DecodeError Bool
  | .bool b => .ok b
  | v => .error (.invalidType v.found "a boolean")

def decodeUInt32 : Json → Except DecodeError UInt32
  | .number (.int n) =>
    if 0 ≤ n ∧ n < 4294967296 then .ok (UInt32.ofNat n.toNat)
    else .error (.invalidValue (.int n) "u32")
  | v => .error (.invalidType v.found "u32")

def decodeOption {α : Type} (f : Json → Except DecodeError α) : Json → Except DecodeError (Option α)
  | .null => .ok none
  | v => (f v).map some

def decodeItems {α : Type} (f : Json → Except DecodeError α) :
    List Json → Except DecodeError (List α)
  | [] => .ok []
  | v :: rest => do
    let x ← f v
    let xs ← decodeItems f rest
    .ok (x :: xs)

def decodeList {α : Type} (f : Json → Except DecodeError α) : Json → Except DecodeError (List α)
  | .array items => decodeItems f items
  | v => .error (.invalidType v.found "a sequence")

def decodeValues {α : Type} (f : Json → Except DecodeError α) :
    Fields Json → Except DecodeError (Fields α)
  | [] => .ok []
  | (k, v) :: rest => do
    let x ← f v
    let xs ← decodeValues f rest
    .ok ((k, x) :: xs)

def decodeMapping {α : Type} (f : Json → Except DecodeError α) :
    Json → Except DecodeError (Fields α)
  | .object fields => decodeValues f fields
  | v => .error (.invalidType v.found "a map")

def decodeField {α : Type} (fields : Fields Json) (key : String)
    (f : Json → Except DecodeError α) : Except DecodeError (Option α) :=
  match fields.get? key with
  | none => .ok none
  | some v => (f v).map some

def decodeItem {α : Type} (items : List Json) (index : Nat)
    (f : Json → Except DecodeError α) : Except DecodeError (Option α) :=
  match items[index]? with
  | none => .ok none
  | some v => (f v).map some

def required {α : Type} (name : String) : Option α → Except DecodeError α
  | some x => .ok x
  | none => .error (.missingField name)

/-- The item at a position that must be there, in an array that stands for a record with `size`
fields. -/
def requiredItem {α : Type} (record : String) (size index : Nat) : Option α → Except DecodeError α
  | some x => .ok x
  | none =>
    .error (.invalidLength index
      ("struct " ++ record ++ " with " ++ intString size ++ " elements"))

def noMoreItems (size : Nat) (items : List Json) : Except DecodeError Unit :=
  if items.length ≤ size then .ok ()
  else .error (.invalidLength items.length "fewer elements in array")

end OverlayConfig.Json
