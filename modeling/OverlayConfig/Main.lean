import OverlayConfig.Program
set_option autoImplicit false

namespace OverlayConfig

def variableNames : List String :=
  ["NETWORK_CONFIG", "PREVIOUS_CONFIG", "APPLIED_CONFIG_OUT", "MANIFEST_DIR", "HOST_MTU",
    "NODE_IMAGE", "CONTROLLER_IMAGE"]

def readEnvironment : IO Environment := do
  let mut env : Environment := []
  for name in variableNames do
    if let some value ← IO.getEnv name then
      env := env.insert name value
  return env

def nodeOfBytes (bytes : ByteArray) : FileNode :=
  match String.fromUTF8? bytes with
  | some text => .text text.toList
  | none => .binary

def readFile? (path : String) : IO (Option FileNode) := do
  try
    let bytes ← IO.FS.readBinFile path
    return some (nodeOfBytes bytes)
  catch _ => return none

def readDirectory? (path : String) : IO (Option FileNode) := do
  try
    let directory ← IO.FS.realPath path
    let mut entries : Fields FileNode := []
    for entry in ← directory.readDir do
      if ← entry.path.isDir then
        entries := Fields.insert entry.fileName (.directory []) entries
      else if let some node ← readFile? entry.path.toString then
        entries := Fields.insert entry.fileName node entries
    return some (.directory entries)
  catch _ => return none

def readNode? (path : String) : IO (Option FileNode) := do
  match ← readDirectory? path with
  | some node => return some node
  | none => readFile? path

def addPath (files : Files) (path : String) : IO Files := do
  match ← readNode? path with
  | some node => return files.put path node
  | none => return files

def parentPath (path : String) : String :=
  let parent := String.intercalate "/" (pathNames path).dropLast
  if isAbsolute path then "/" ++ parent else "./" ++ parent

def readFiles (config : OperatorConfig) : IO Files := do
  let working ← IO.currentDir
  let mut files : Files := ⟨.directory [], pathNames working.toString⟩
  files := files.put "." (.directory [])
  if let some path := config.appliedConfigOut then
    files ← addPath files (parentPath path)
  files ← addPath files config.networkConfig
  if let some path := config.previousConfig then
    files ← addPath files path
  addPath files (joinPath config.manifestDir sdnDirectory)

def writeOutcome (config : OperatorConfig) (outcome : Outcome) : IO Unit := do
  if let some path := config.appliedConfigOut then
    if outcome.error.isNone then
      if let .ok text := outcome.files.read path then
        IO.FS.writeFile path (String.ofList text)

def runProgram : IO UInt32 := do
  let env ← readEnvironment
  match OperatorConfig.ofEnvironment env with
  | .error e => do
    IO.eprintln ("Error: " ++ e.message)
    return 1
  | .ok config => do
    let outcome := Program.run env (← readFiles config)
    IO.print (String.ofList outcome.output)
    writeOutcome config outcome
    if let some e := outcome.error then
      IO.eprintln ("Error: " ++ e.message)
    return UInt32.ofNat outcome.exitCode

end OverlayConfig

def main : IO UInt32 := OverlayConfig.runProgram
