import OverlayConfig.Manifest.Set
import OverlayConfig.Spec.Basic
/-!
A reconcile cycle: the desired network gets its defaults, is validated, is compared with the network
that was applied before, and is rendered from templates, whose data are the images, whether
openvswitch is to be installed, and the two documents for the daemons. Any finding ends the cycle,
and all findings of a step are reported together.
-/
set_option autoImplicit false

namespace OverlayConfig

structure RenderOptions where
  manifestDir : String
  nodeImage : String
  controllerImage : String
  deriving DecidableEq, Repr

def sdnDirectory : String := "network/openshift-sdn"

def SdnConfig.installsOpenvswitch (config : SdnConfig) : Bool :=
  !config.externalOpenvswitch.getD false

def renderData (options : RenderOptions) (config : SdnConfig) (node : NodeConfig)
    (controller : ControllerConfig) : Json :=
  .object [("controller_config", .string (String.ofList controller.text)),
    ("controller_image", .string options.controllerImage),
    ("install_ovs", .bool config.installsOpenvswitch),
    ("node_config", .string (String.ofList node.text)),
    ("node_image", .string options.nodeImage)]

def NetworkSpec.renderData (spec : NetworkSpec) (options : RenderOptions) :
    Except IncompleteSpec Json := do
  let config ← spec.requireSdn
  let node ← NodeConfig.ofSpec spec
  let controller ← ControllerConfig.ofSpec spec
  .ok (OverlayConfig.renderData options config node controller)

def NetworkSpec.render (spec : NetworkSpec) (options : RenderOptions) (files : Files) :
    Except RenderError (List Manifest) := do
  let data ← (spec.renderData options).mapError .incomplete
  let objects ← TemplateDirectory.render files (joinPath options.manifestDir sdnDirectory) data
  ManifestSet.check objects

inductive ReconcileError where
  | invalid (findings : List ConfigError)
  | unsafeChange (findings : List UnsafeChange)
  | render (cause : RenderError)
  | apply (cause : ObjectError)
  deriving DecidableEq, Repr

def joinMessages (messages : List String) : String := String.intercalate "; " messages

def ReconcileError.message : ReconcileError → String
  | .invalid findings =>
    "invalid network configuration: " ++ joinMessages (findings.map ConfigError.message)
  | .unsafeChange findings =>
    "unsafe network configuration change: " ++ joinMessages (findings.map UnsafeChange.message)
  | .render cause => "Render error: " ++ cause.message
  | .apply cause => "Apply error: " ++ cause.message

structure Host where
  options : RenderOptions
  files : Files
  mtu : UInt32

structure Reconciled where
  /-- The network with its defaults, which is the previous one of the next cycle. -/
  applied : NetworkSpec
  objects : List Manifest
  deriving DecidableEq

def checkAllSupported : List Manifest → Except ObjectError Unit
  | [] => .ok ()
  | object :: rest => do
    object.checkSupported
    checkAllSupported rest

def checkChange (previous : Option NetworkSpec) (next : NetworkSpec) :
    Except ReconcileError Unit :=
  match previous with
  | none => .ok ()
  | some previous =>
    match previous.unsafeChanges next with
    | [] => .ok ()
    | findings => .error (.unsafeChange findings)

def checkValid (spec : NetworkSpec) : Except ReconcileError Unit :=
  match spec.errors with
  | [] => .ok ()
  | findings => .error (.invalid findings)

def reconcile (host : Host) (desired : NetworkSpec) (previous : Option NetworkSpec) :
    Except ReconcileError Reconciled := do
  let spec := desired.withDefaults previous host.mtu
  checkValid spec
  checkChange previous spec
  let objects ← (spec.render host.options host.files).mapError .render
  (checkAllSupported objects).mapError .apply
  .ok ⟨spec, objects⟩

structure Cycle where
  host : Host
  desired : NetworkSpec

/-- The previous network after a cycle: a failed cycle changes nothing. -/
def nextPrevious (previous : Option NetworkSpec) : Except ReconcileError Reconciled →
    Option NetworkSpec
  | .ok result => some result.applied
  | .error _ => previous

/-- Runs cycles one after the other, each against what the last successful one applied. -/
def runCycles : (previous : Option NetworkSpec) → List Cycle →
    List (Except ReconcileError Reconciled)
  | _, [] => []
  | previous, cycle :: rest =>
    let result := reconcile cycle.host cycle.desired previous
    result :: runCycles (nextPrevious previous result) rest

end OverlayConfig
