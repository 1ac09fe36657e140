import OverlayConfig.Documents
import OverlayConfig.Files
import OverlayConfig.Manifest.Object
import OverlayConfig.Template.Render
import OverlayConfig.Yaml.Read
import OverlayConfig.Kubernetes.Deployment
/-!
Sets of manifests. The template files of a directory are rendered in the order of their names; each
one may hold several documents, and a document that is null is left out. Before a set is applied it
is put in order and checked: a namespace comes first, all objects can be told apart, and deployments
run on the masters. The first failure ends the whole.
-/
set_option autoImplicit false

namespace OverlayConfig

inductive ManifestSetError where
  | noNamespace
  | incompleteObject (id : ObjectId)
  | duplicateObject (id : ObjectId)
  | unpinnedDeployment (id : ObjectId)
  deriving DecidableEq, Repr

def masterNodeLabel : String := "node-role.kubernetes.io/master"

def ManifestSetError.message : ManifestSetError → String
  | .noNamespace => "no Namespace object"
  | .incompleteObject id => "object " ++ id.text ++ " lacks apiVersion, kind or name"
  | .duplicateObject id => "duplicate object " ++ id.text
  | .unpinnedDeployment id => id.text ++ " must select " ++ masterNodeLabel ++ " nodes"

inductive RenderError where
  | file (path : String) (cause : IoError)
  | template (path : String) (kind : Template.ErrorKind)
  | yaml (path : String)
  | object (path : String) (cause : ObjectError)
  | deployment (cause : DecodeError)
  | malformed (cause : ManifestSetError)
  | incomplete (cause : IncompleteSpec)
  deriving DecidableEq, Repr

def RenderError.message : RenderError → String
  | .file path cause => "failed to read " ++ path ++ ": " ++ cause.message
  | .template path _ => "failed to render template " ++ path
  | .yaml path => "template " ++ path ++ " is not valid YAML"
  | .object path cause => "template " ++ path ++ " produced an invalid object: " ++ cause.message
  | .deployment cause => "Serialization error: " ++ cause.message .json
  | .malformed cause => "malformed manifest set: " ++ cause.message
  | .incomplete cause => cause.message

/-- The extension of a file name: what follows the last point, unless that is the first
character. -/
def fileExtension? (name : String) : Option String :=
  let reversed := name.toList.reverse
  match reversed.dropWhile (· ≠ '.') with
  | '.' :: _ :: _ => some (String.ofList (reversed.takeWhile (· ≠ '.')).reverse)
  | _ => none

def templateExtensions : List String := ["yaml", "yml", "json"]

def isTemplateName (name : String) : Bool :=
  match fileExtension? name with
  | some extension => templateExtensions.contains extension
  | none => false

namespace TemplateDirectory

def objectsOf (path : String) : List Json → Except RenderError (List Manifest)
  | [] => .ok []
  | v :: rest =>
    if v = .null then objectsOf path rest
    else do
      let object ← (Manifest.ofJson v).mapError (.object path)
      let objects ← objectsOf path rest
      .ok (object :: objects)

/-- The objects of a rendered file. An object that is none is reported before what follows it in the
file is looked at. -/
def parseDocuments (path : String) (rendered : List Char) : Except RenderError (List Manifest) :=
  if (Text.trim rendered).isEmpty then .ok []
  else do
    let (vs, failed) := Yaml.values rendered
    let objects ← objectsOf path vs
    if failed then .error (.yaml path) else .ok objects

def renderFile (path : String) (node : FileNode) (data : Json) :
    Except RenderError (List Manifest) := do
  let source ← match node with
    | .text cs => Except.ok cs
    | .binary => .error (.file path .invalidData)
    | .directory _ => .error (.file path .isADirectory)
  let rendered ← (Template.render source data).mapError (.template path)
  parseDocuments path rendered

def renderFiles (directory : String) (data : Json) :
    List (String × FileNode) → Except RenderError (List Manifest)
  | [] => .ok []
  | (name, node) :: rest => do
    let objects ← renderFile (joinPath directory name) node data
    let more ← renderFiles directory data rest
    .ok (objects ++ more)

def templateFiles (entries : List (String × FileNode)) : List (String × FileNode) :=
  (Fields.ofList entries).filter fun p => isTemplateName p.1 && !p.2.isDirectory

def render (files : Files) (directory : String) (data : Json) :
    Except RenderError (List Manifest) := do
  let entries ← (files.list directory).mapError (.file directory)
  renderFiles directory data (templateFiles entries)

end TemplateDirectory

namespace Manifest

def isNamespace (object : Manifest) : Bool := object.kind = "Namespace"

def checkPinned (object : Manifest) : Except RenderError Unit := do
  let deployment ← (Kubernetes.Deployment.ofJson object.toJson).mapError .deployment
  if deployment.selects masterNodeLabel then .ok ()
  else .error (.malformed (.unpinnedDeployment object.id))

def isComplete (object : Manifest) : Bool :=
  object.apiVersion ≠ "" && object.kind ≠ "" && object.name ≠ ""

end Manifest

namespace ManifestSet

/-- Sorts the namespaces to the front; the sort is stable. -/
def namespacesFirst (objects : List Manifest) : List Manifest :=
  objects.mergeSort fun a b => a.isNamespace || !b.isNamespace

def checkObjects : (seen : List ObjectId) → List Manifest → Except RenderError Unit
  | _, [] => .ok ()
  | seen, object :: rest => do
    if !object.isComplete then throw (.malformed (.incompleteObject object.id))
    if seen.contains object.id then throw (.malformed (.duplicateObject object.id))
    if object.kind = "Deployment" then object.checkPinned
    checkObjects (object.id :: seen) rest

def check (objects : List Manifest) : Except RenderError (List Manifest) := do
  let objects := namespacesFirst objects
  if !objects.head?.any Manifest.isNamespace then throw (.malformed .noNamespace)
  checkObjects [] objects
  .ok objects

end ManifestSet

end OverlayConfig
