import OverlayConfig.Fields
/-!
Files: texts, files that hold no text, and directories, with a working directory from which relative
paths lead on. There are no links.
-/
set_option autoImplicit false

namespace OverlayConfig

inductive IoError where
  | notFound
  | notADirectory
  | isADirectory
  | invalidData
  deriving DecidableEq, Repr

namespace IoError

def name : IoError → String
  | .notFound => "NotFound"
  | .notADirectory => "NotADirectory"
  | .isADirectory => "IsADirectory"
  | .invalidData => "InvalidData"

def message : IoError → String
  | .notFound => "No such file or directory (os error 2)"
  | .notADirectory => "Not a directory (os error 20)"
  | .isADirectory => "Is a directory (os error 21)"
  | .invalidData => "stream did not contain valid UTF-8"

end IoError

inductive FileNode where
  | text (chars : List Char)
  | binary
  | directory (entries : List (String × FileNode))
  deriving Inhabited

def splitPath : List Char → List (List Char)
  | [] => [[]]
  | c :: cs =>
    match splitPath cs with
    | [] => [[c]]
    | part :: rest => if c = '/' then [] :: part :: rest else (c :: part) :: rest

def pathNames (path : String) : List String :=
  ((splitPath path.toList).filter fun p => p ≠ [] ∧ p ≠ ['.']).map String.ofList

/-- The path ends in a slash or a point, so that it only names directories. -/
def needsDirectory (path : String) : Bool :=
  match (splitPath path.toList).getLast? with
  | some part => part = [] || part = ['.']
  | none => false

def isAbsolute (path : String) : Bool := path.toList.head? = some '/'

def joinPath (base name : String) : String :=
  if base = "" ∨ base.toList.getLast? = some '/' then base ++ name else base ++ "/" ++ name

/-- The names without steps up, which lead back from the names before them. -/
def withoutParents : (reversed : List String) → List String → List String
  | reversed, [] => reversed.reverse
  | reversed, name :: rest =>
    if name = ".." then withoutParents (reversed.drop 1) rest
    else withoutParents (name :: reversed) rest

namespace FileNode

def isDirectory : FileNode → Bool
  | .directory _ => true
  | _ => false

def walk : (parents : List FileNode) → FileNode → List String → Except IoError FileNode
  | _, node, [] => .ok node
  | parents, .directory entries, name :: rest =>
    if name = ".." then
      match parents with
      | [] => walk [] (.directory entries) rest
      | parent :: parents => walk parents parent rest
    else
      match Fields.get? name entries with
      | some child => walk (.directory entries :: parents) child rest
      | none => .error .notFound
  | _, _, _ :: _ => .error .notADirectory

def put (node : FileNode) : List String → FileNode → FileNode
  | [], _ => node
  | name :: rest, root =>
    let entries := match root with
      | .directory entries => entries
      | _ => []
    let child := (Fields.get? name entries).getD (.directory [])
    .directory (Fields.insert name (put node rest child) entries)

end FileNode

structure Files where
  root : FileNode
  working : List String

namespace Files

def names (files : Files) (path : String) : List String :=
  if isAbsolute path then pathNames path else files.working ++ pathNames path

def find (files : Files) (path : String) : Except IoError FileNode :=
  if path = "" then .error .notFound
  else do
    let node ← files.root.walk [] (files.names path)
    if needsDirectory path ∧ !node.isDirectory then .error .notADirectory else .ok node

def read (files : Files) (path : String) : Except IoError (List Char) := do
  match ← files.find path with
  | .text cs => .ok cs
  | .binary => .error .invalidData
  | .directory _ => .error .isADirectory

def list (files : Files) (path : String) : Except IoError (List (String × FileNode)) := do
  match ← files.find path with
  | .directory entries => .ok entries
  | _ => .error .notADirectory

def put (files : Files) (path : String) (node : FileNode) : Files :=
  { files with root := FileNode.put node (withoutParents [] (files.names path)) files.root }

def write (files : Files) (path : String) (cs : List Char) : Except IoError Files := do
  if path = "" then throw IoError.notFound
  let names := files.names path
  match names.getLast?, ← files.root.walk [] names.dropLast with
  | some name, .directory entries =>
    if name = ".." then .error .isADirectory
    else
      match Fields.get? name entries with
      | some (.directory _) => .error .isADirectory
      | some _ =>
        if needsDirectory path then .error .notADirectory else .ok (files.put path (.text cs))
      | none =>
        if needsDirectory path then .error .isADirectory else .ok (files.put path (.text cs))
  | none, _ => .error .isADirectory
  | _, _ => .error .notADirectory

end Files

end OverlayConfig
