import OverlayConfig.Reconcile
import OverlayConfig.Text.Characters
import OverlayConfig.Spec.Wire
/-!
A run of the program: one reconcile cycle over the files that environment variables name, of which
an empty one counts as unset. The manifests go to the standard output, and the applied network to a
file. Nothing is written before everything that can fail in the cycle has succeeded.
-/
set_option autoImplicit false

namespace OverlayConfig

abbrev Environment := Fields String

inductive UIntError where
  | invalidDigit
  | tooLarge
  deriving DecidableEq, Repr

def UIntError.message : UIntError → String
  | .invalidDigit => "invalid digit found in string"
  | .tooLarge => "number too large to fit in target type"

/-- Reads digits; the first one that is invalid or leads beyond 32 bits is the error. -/
def parseUIntDigits : (value : Nat) → List Char → Except UIntError UInt32
  | value, [] => .ok (UInt32.ofNat value)
  | value, c :: cs =>
    if !c.isDigit then .error .invalidDigit
    else
      let next := value * 10 + (c.toNat - 48)
      if 4294967296 ≤ next then .error .tooLarge else parseUIntDigits next cs

def parseUInt (cs : List Char) : Except UIntError UInt32 :=
  let digits := match cs with
    | '+' :: rest => rest
    | _ => cs
  if digits.isEmpty then .error .invalidDigit else parseUIntDigits 0 digits

inductive EnvironmentError where
  | networkConfigUnset
  | invalidHostMtu (text : String) (cause : UIntError)
  deriving DecidableEq, Repr

def EnvironmentError.message : EnvironmentError → String
  | .networkConfigUnset =>
    "Invalid configuration: NETWORK_CONFIG environment variable is required"
  | .invalidHostMtu text cause =>
    "Invalid configuration: HOST_MTU must be an unsigned integer, got " ++ Text.quote text ++ ": "
      ++ cause.message

structure OperatorConfig where
  networkConfig : String
  previousConfig : Option String
  appliedConfigOut : Option String
  manifestDir : String
  hostMtu : UInt32
  nodeImage : String
  controllerImage : String
  deriving DecidableEq, Repr

/-- The value of a variable that is set and not empty. -/
def Environment.value? (env : Environment) (name : String) : Option String :=
  match Fields.get? name env with
  | some "" => none
  | value => value

namespace OperatorConfig

def defaultManifestDir : String := "/bindata"

def defaultHostMtu : UInt32 := 1500

def hostMtuOf (env : Environment) : Except EnvironmentError UInt32 :=
  match env.value? "HOST_MTU" with
  | none => .ok defaultHostMtu
  | some text => (parseUInt text.toList).mapError (.invalidHostMtu text)

def ofEnvironment (env : Environment) : Except EnvironmentError OperatorConfig := do
  let networkConfig ← match env.value? "NETWORK_CONFIG" with
    | some path => Except.ok path
    | none => .error .networkConfigUnset
  let hostMtu ← hostMtuOf env
  let nodeImage := (env.value? "NODE_IMAGE").getD ""
  .ok {
    networkConfig := networkConfig
    previousConfig := env.value? "PREVIOUS_CONFIG"
    appliedConfigOut := env.value? "APPLIED_CONFIG_OUT"
    manifestDir := (env.value? "MANIFEST_DIR").getD defaultManifestDir
    hostMtu := hostMtu
    nodeImage := nodeImage
    controllerImage := (env.value? "CONTROLLER_IMAGE").getD nodeImage }

def host (config : OperatorConfig) (files : Files) : Host :=
  ⟨⟨config.manifestDir, config.nodeImage, config.controllerImage⟩, files, config.hostMtu⟩

end OperatorConfig

inductive ProgramError where
  | environment (cause : EnvironmentError)
  | access (path : String) (cause : IoError)
  | parse (path : String) (cause : Yaml.DocumentError)
  | reconcile (cause : ReconcileError)
  deriving DecidableEq, Repr

def ProgramError.message : ProgramError → String
  | .environment cause => cause.message
  | .access path cause => "failed to access " ++ path ++ ": " ++ cause.message
  | .parse path _ => "failed to parse " ++ path
  | .reconcile cause => cause.message

structure Outcome where
  error : Option ProgramError
  output : List Char
  files : Files

def Outcome.exitCode (outcome : Outcome) : Nat := if outcome.error.isSome then 1 else 0

namespace Program

def load (files : Files) (path : String) : Except ProgramError NetworkObject := do
  let text ← (files.read path).mapError (.access path)
  (NetworkObject.parse text).mapError (.parse path)

def loadPrevious (files : Files) : Option String → Except ProgramError (Option NetworkObject)
  | none => .ok none
  | some path => (load files path).map some

def stream (objects : List Manifest) : List Char :=
  objects.flatMap fun object => "---\n".toList ++ Yaml.write object.toJson

/-- Everything up to the first write: the configuration, the desired object and the result. -/
def prepare (env : Environment) (files : Files) :
    Except ProgramError (OperatorConfig × NetworkObject × Reconciled) := do
  let config ← (OperatorConfig.ofEnvironment env).mapError .environment
  let desired ← load files config.networkConfig
  let previous ← loadPrevious files config.previousConfig
  let result ← (OverlayConfig.reconcile (config.host files) desired.spec
    (previous.map NetworkObject.spec)).mapError .reconcile
  .ok (config, desired, result)

def appliedObject (desired : NetworkObject) (result : Reconciled) : NetworkObject :=
  ⟨desired.metadata, result.applied⟩

def writeApplied (config : OperatorConfig) (object : NetworkObject) (files : Files) :
    Except ProgramError Files :=
  match config.appliedConfigOut with
  | none => .ok files
  | some path => (files.write path object.text).mapError (.access path)

def run (env : Environment) (files : Files) : Outcome :=
  match prepare env files with
  | .error e => ⟨some e, [], files⟩
  | .ok (config, desired, result) =>
    let output := stream result.objects
    match writeApplied config (appliedObject desired result) files with
    | .ok files => ⟨none, output, files⟩
    | .error e => ⟨some e, output, files⟩

end Program

end OverlayConfig
