import OverlayConfig.Json.Value
set_option autoImplicit false

namespace OverlayConfig

abbrev KeyPath := List String

namespace Fields

def lookup : KeyPath → Fields Json → Option Json
  | [], _ => none
  | [k], fields => fields.get? k
  | k :: rest, fields => do
    let v ← fields.get? k
    let inner ← v.fields?
    lookup rest inner

def child (k : String) (fields : Fields Json) : Fields Json :=
  ((fields.get? k).bind Json.fields?).getD []

/-- Sets the value at a path. Mappings on the way are made where they are missing, and take the
place of values that are none. -/
def assign (v : Json) : KeyPath → Fields Json → Fields Json
  | [], fields => fields
  | [k], fields => fields.insert k v
  | k :: rest, fields => fields.insert k (.object (assign v rest (fields.child k)))

def detach : KeyPath → Fields Json → Option Json × Fields Json
  | [], fields => (none, fields)
  | [k], fields => (fields.get? k, fields.erase k)
  | k :: rest, fields =>
    match fields.get? k with
    | some (.object inner) =>
      let (v, inner) := detach rest inner
      (v, fields.insert k (.object inner))
    | _ => (none, fields)

end Fields

structure Manifest where
  fields : Fields Json
  deriving DecidableEq, Inhabited

/-- What tells objects of a manifest set apart; the namespace is empty for objects of the whole
cluster. -/
structure ObjectId where
  kind : String
  namespaceName : String
  name : String
  deriving DecidableEq, Repr

def ObjectId.text (id : ObjectId) : String :=
  if id.namespaceName = "" then "(" ++ id.kind ++ ") " ++ id.name
  else "(" ++ id.kind ++ ") " ++ id.namespaceName ++ "/" ++ id.name

inductive ObjectError where
  | notAnObject (kindName : String)
  | missingField (name : String)
  | unsupported (id : ObjectId) (reason : String)
  deriving DecidableEq, Repr

def ObjectError.message : ObjectError → String
  | .notAnObject kindName => "manifest is a " ++ kindName ++ ", not a mapping"
  | .missingField name => "object is missing " ++ name
  | .unsupported id reason => "unsupported object " ++ id.text ++ ": " ++ reason

namespace Manifest

def ofJson : Json → Except ObjectError Manifest
  | .object fields => .ok ⟨fields⟩
  | v => .error (.notAnObject v.kindName)

def toJson (object : Manifest) : Json := .object object.fields

def get? (path : KeyPath) (object : Manifest) : Option Json := object.fields.lookup path

def text? (path : KeyPath) (object : Manifest) : Option String := (object.get? path).bind Json.text?

def textsOf : Fields Json → Option (Fields String)
  | [] => some []
  | (k, v) :: rest => do
    let s ← v.text?
    let texts ← textsOf rest
    some ((k, s) :: texts)

def texts? (path : KeyPath) (object : Manifest) : Option (Fields String) := do
  let v ← object.get? path
  let fields ← v.fields?
  textsOf fields

def set (path : KeyPath) (v : Json) (object : Manifest) : Manifest := ⟨object.fields.assign v path⟩

def remove (path : KeyPath) (object : Manifest) : Option Json × Manifest :=
  let (v, fields) := object.fields.detach path
  (v, ⟨fields⟩)

def apiVersion (object : Manifest) : String := (object.text? ["apiVersion"]).getD ""

def kind (object : Manifest) : String := (object.text? ["kind"]).getD ""

def name (object : Manifest) : String := (object.text? ["metadata", "name"]).getD ""

def namespaceName (object : Manifest) : String := (object.text? ["metadata", "namespace"]).getD ""

def id (object : Manifest) : ObjectId := ⟨object.kind, object.namespaceName, object.name⟩

/-- Whether an object can be applied: it names its version, its kind and itself, and it is no
service account with secrets, which the cluster makes on its own. -/
def checkSupported (object : Manifest) : Except ObjectError Unit :=
  if object.apiVersion = "" then .error (.missingField "apiVersion")
  else if object.kind = "" then .error (.missingField "kind")
  else if object.name = "" then .error (.missingField "metadata.name")
  else if object.apiVersion = "v1" ∧ object.kind = "ServiceAccount" then
    match object.get? ["secrets"] with
    | some (.array (_ :: _)) =>
      .error (.unsupported object.id "cannot create ServiceAccount with secrets")
    | _ => .ok ()
  else .ok ()

end Manifest

end OverlayConfig
