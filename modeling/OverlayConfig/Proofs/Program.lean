import OverlayConfig.Program
import OverlayConfig.Proofs.Files
import OverlayConfig.Proofs.Manifest.Checks
import OverlayConfig.Proofs.Reconcile.Runs
import OverlayConfig.Proofs.Spec.Wire
import OverlayConfig.Proofs.Yaml.Order
/-!
How a run of the program ends. Everything that can refuse a cycle comes before the first output, and
the only thing left to fail after it is the write of the applied network; so a run shows all
manifests of a successful cycle or none, and no other file than the one for the applied network is
ever touched.
-/
set_option autoImplicit false

namespace OverlayConfig

theorem Environment.value?_eq_some {env : Environment} {name value : String} :
    env.value? name = some value ↔ Fields.get? name env = some value ∧ value ≠ "" := by
  unfold Environment.value?
  split
  · next h => simp [h]
  · next value' hne =>
    constructor
    · intro h
      exact ⟨h, fun hempty => hne (hempty ▸ h)⟩
    · exact fun h => h.1

theorem OperatorConfig.ofEnvironment_eq_ok {env : Environment} {config : OperatorConfig} :
    ofEnvironment env = .ok config ↔
      env.value? "NETWORK_CONFIG" = some config.networkConfig ∧
        hostMtuOf env = .ok config.hostMtu ∧
        env.value? "PREVIOUS_CONFIG" = config.previousConfig ∧
        env.value? "APPLIED_CONFIG_OUT" = config.appliedConfigOut ∧
        (env.value? "MANIFEST_DIR").getD defaultManifestDir = config.manifestDir ∧
        (env.value? "NODE_IMAGE").getD "" = config.nodeImage ∧
        (env.value? "CONTROLLER_IMAGE").getD ((env.value? "NODE_IMAGE").getD "") =
          config.controllerImage := by
  rw [ofEnvironment]
  cases env.value? "NETWORK_CONFIG" with
  | none => simp [bind, Except.bind]
  | some path =>
    obtain ⟨networkConfig, previousConfig, appliedConfigOut, manifestDir, hostMtu, nodeImage,
      controllerImage⟩ := config
    cases hostMtuOf env with
    | error e => simp [bind, Except.bind]
    | ok mtu =>
      simp only [bind, Except.bind, Except.ok.injEq, Option.some.injEq, OperatorConfig.mk.injEq]
      grind

namespace NetworkObject

open Json

variable {object : NetworkObject} {cs : List Char}

theorem ofJson_eq_ok {v : Json} : ofJson v = .ok object ↔ ∃ w,
    ((v.fields?).getD []).get? "metadata" = some object.metadata ∧
      ((v.fields?).getD []).get? "spec" = some w ∧ NetworkSpec.ofJson w = .ok object.spec := by
  simp only [ofJson, bind_eq_ok, required_eq_ok]
  constructor
  · rintro ⟨metadata, hmetadata, w, hw, spec, hspec, h⟩
    cases h
    exact ⟨w, hmetadata, hw, hspec⟩
  · rintro ⟨w, hmetadata, hw, hspec⟩
    exact ⟨_, hmetadata, w, hw, _, hspec, rfl⟩

theorem parse_eq_ok : parse cs = .ok object ↔
    ∃ v, Yaml.readDocument shape cs = .ok v ∧ ofJson v = .ok object := by
  simp only [parse, bind_eq_ok]
  refine exists_congr fun v => and_congr_right fun _ => ?_
  cases ofJson v <;> simp

/-- A network that is read from a document has a mode that its text names and arguments in order. -/
theorem keeps_of_parse (h : parse cs = .ok object) :
    (∀ config ∈ object.spec.sdn?, config.mode.IsOfText) ∧
      ∀ proxy ∈ object.spec.kubeProxyConfig, proxy.proxyArguments.Sorted := by
  obtain ⟨v, hread, h⟩ := parse_eq_ok.mp h
  obtain ⟨w, -, hw, hspec⟩ := ofJson_eq_ok.mp h
  refine ⟨NetworkSpec.isOfText_of_ofJson hspec, NetworkSpec.sorted_of_ofJson ?_ hspec⟩
  have hv := Yaml.ordered_of_readDocument hread
  cases v with
  | object fields => exact (ordered_object_eq_self.mp hv).2 _ (Fields.mem_of_get? hw)
  | _ => cases hw

/-- The text that is written for an object is read as the tree that was written, without the version
and the kind, which are not looked at. A null where the metadata may have a field left out does not
come back, since it is read as a field that is not there. -/
def ReadsBack (object : NetworkObject) : Prop :=
  Yaml.readDocument shape object.text =
    .ok (.object [("metadata", object.metadata), ("spec", object.spec.toJson.ordered)])

theorem ReadsBack.parse_text (h : object.ReadsBack)
    (hmode : ∀ config ∈ object.spec.sdn?, config.mode.IsOfText)
    (hsorted : ∀ proxy ∈ object.spec.kubeProxyConfig, proxy.proxyArguments.Sorted) :
    parse object.text = .ok object :=
  parse_eq_ok.mpr ⟨_, h, ofJson_eq_ok.mpr ⟨object.spec.toJson.ordered, rfl, rfl,
    NetworkSpec.ofJson_ordered hmode hsorted⟩⟩

end NetworkObject

namespace Program

variable {env : Environment} {files : Files} {desired : NetworkObject} {result : Reconciled}

/-- The configuration and the networks that the environment names can be read, and the cycle that
they ask for succeeds. -/
def Completes (env : Environment) (files : Files) (desired : NetworkObject) (result : Reconciled) :
    Prop :=
  ∃ config previous, OperatorConfig.ofEnvironment env = .ok config ∧
    load files config.networkConfig = .ok desired ∧
    loadPrevious files config.previousConfig = .ok previous ∧
    reconcile (config.host files) desired.spec (previous.map NetworkObject.spec) = .ok result

theorem prepare_eq_ok {config : OperatorConfig} :
    prepare env files = .ok (config, desired, result) ↔
    OperatorConfig.ofEnvironment env = .ok config ∧ load files config.networkConfig = .ok desired ∧
      ∃ previous, loadPrevious files config.previousConfig = .ok previous ∧
        reconcile (config.host files) desired.spec (previous.map NetworkObject.spec) =
          .ok result := by
  simp only [prepare, bind_eq_ok, mapError_eq_ok, Except.ok.injEq, Prod.mk.injEq]
  constructor
  · rintro ⟨_, hconfig, _, hdesired, previous, hprevious, _, hresult, rfl, rfl, rfl⟩
    exact ⟨hconfig, hdesired, previous, hprevious, hresult⟩
  · rintro ⟨hconfig, hdesired, previous, hprevious, hresult⟩
    exact ⟨_, hconfig, _, hdesired, previous, hprevious, _, hresult, rfl, rfl, rfl⟩

theorem completes_iff : Completes env files desired result ↔
    ∃ config, prepare env files = .ok (config, desired, result) := by
  simp only [prepare_eq_ok, Completes]
  constructor
  · rintro ⟨config, previous, hconfig, hdesired, hrest⟩
    exact ⟨config, hconfig, hdesired, previous, hrest⟩
  · rintro ⟨config, hconfig, hdesired, previous, hrest⟩
    exact ⟨config, previous, hconfig, hdesired, hrest⟩

theorem stream_ne_nil {objects : List Manifest} (h : objects ≠ []) : stream objects ≠ [] := by
  cases objects with
  | nil => exact absurd rfl h
  | cons object rest => exact List.cons_ne_nil '-' _

theorem Completes.stream_ne_nil (h : Completes env files desired result) :
    stream result.objects ≠ [] := by
  obtain ⟨config, previous, -, -, -, hresult⟩ := h
  obtain ⟨-, -, -, hrender, -⟩ := reconcile_eq_ok.mp hresult
  obtain ⟨-, rendered, -, -, hcheck⟩ := NetworkSpec.render_eq_ok.mp hrender
  obtain ⟨-, ⟨o, ho, -⟩, -⟩ := ManifestSet.check_eq_ok.mp hcheck
  exact Program.stream_ne_nil (List.ne_nil_of_mem ho)

/-- The text of an object with some metadata that holds a network. -/
def savedText (metadata : Json) (applied : NetworkSpec) : List Char :=
  Yaml.write (.object [("apiVersion", .string "networkoperator.openshift.io/v1"),
    ("kind", .string "NetworkConfig"), ("metadata", metadata), ("spec", applied.toJson)])

/-- The applied network is written to the file that the environment names for it, if it names one.
-/
structure Saves (env : Environment) (text : List Char) (before after : Files) : Prop where
  rewritten : ∀ path, Fields.get? "APPLIED_CONFIG_OUT" env = some path → path ≠ "" →
    Files.Rewritten path text before after
  kept : (∀ path, Fields.get? "APPLIED_CONFIG_OUT" env = some path → path = "") → after = before

inductive Ending where
  /-- Something is missing, malformed or refused, or cannot be rendered or applied. -/
  | refused
  /-- The manifests are there, but the applied network could not be written. -/
  | unsaved
  | done
  deriving DecidableEq

def Ending.Describes (env : Environment) (files : Files) (outcome : Outcome) : Ending → Prop
  | .refused => outcome.exitCode = 1 ∧ outcome.output = [] ∧ outcome.files = files
  | .unsaved => outcome.exitCode = 1 ∧ outcome.files = files ∧
    ∃ desired result path cause, Completes env files desired result ∧
      outcome.output =
        result.objects.flatMap (fun object => "---\n".toList ++ Yaml.write object.toJson) ∧
      Fields.get? "APPLIED_CONFIG_OUT" env = some path ∧ path ≠ "" ∧
      files.write path (savedText desired.metadata result.applied) = .error cause ∧
      outcome.error = some (.access path cause)
  | .done => outcome.exitCode = 0 ∧
    ∃ desired result, Completes env files desired result ∧
      outcome.output =
        result.objects.flatMap (fun object => "---\n".toList ++ Yaml.write object.toJson) ∧
      Saves env (savedText desired.metadata result.applied) files outcome.files

theorem appliedConfigOut_of_ofEnvironment {config : OperatorConfig}
    (h : OperatorConfig.ofEnvironment env = .ok config) :
    config.appliedConfigOut = env.value? "APPLIED_CONFIG_OUT" := by
  obtain ⟨-, -, -, hout, -⟩ := OperatorConfig.ofEnvironment_eq_ok.mp h
  exact hout.symm

theorem run_of_prepare_error {e : ProgramError} (h : prepare env files = .error e) :
    run env files = ⟨some e, [], files⟩ := by
  simp [run, h]

section Prepared

variable {config : OperatorConfig} {path : String}

theorem run_of_value?_none (h : prepare env files = .ok (config, desired, result))
    (hvalue : env.value? "APPLIED_CONFIG_OUT" = none) :
    run env files = ⟨none, stream result.objects, files⟩ := by
  have hout := appliedConfigOut_of_ofEnvironment (prepare_eq_ok.mp h).1
  simp [run, h, writeApplied, hout, hvalue]

theorem run_of_write_error {cause : IoError} (h : prepare env files = .ok (config, desired, result))
    (hvalue : env.value? "APPLIED_CONFIG_OUT" = some path)
    (hwrite : files.write path (appliedObject desired result).text = .error cause) :
    run env files = ⟨some (.access path cause), stream result.objects, files⟩ := by
  have happlied : writeApplied config (appliedObject desired result) files =
      .error (.access path cause) := by
    rw [writeApplied, appliedConfigOut_of_ofEnvironment (prepare_eq_ok.mp h).1, hvalue]
    exact mapError_eq_error.mpr ⟨cause, hwrite, rfl⟩
  simp [run, h, happlied]

theorem run_of_write_ok {files' : Files} (h : prepare env files = .ok (config, desired, result))
    (hvalue : env.value? "APPLIED_CONFIG_OUT" = some path)
    (hwrite : files.write path (appliedObject desired result).text = .ok files') :
    run env files = ⟨none, stream result.objects, files'⟩ := by
  have happlied : writeApplied config (appliedObject desired result) files = .ok files' := by
    rw [writeApplied, appliedConfigOut_of_ofEnvironment (prepare_eq_ok.mp h).1, hvalue]
    exact mapError_eq_ok.mpr hwrite
  simp [run, h, happlied]

/-- After a successful cycle a run has either saved the applied network or failed in that alone. -/
theorem describes_of_prepare (h : prepare env files = .ok (config, desired, result)) :
    Ending.unsaved.Describes env files (run env files) ∨
      Ending.done.Describes env files (run env files) := by
  have hcompletes : Completes env files desired result := completes_iff.mpr ⟨config, h⟩
  cases hvalue : env.value? "APPLIED_CONFIG_OUT" with
  | none =>
    have hunset : ∀ path, Fields.get? "APPLIED_CONFIG_OUT" env = some path → path = "" := by
      intro path hpath
      by_cases hne : path = ""
      · exact hne
      · rw [Environment.value?_eq_some.mpr ⟨hpath, hne⟩] at hvalue
        cases hvalue
    rw [run_of_value?_none h hvalue]
    exact .inr ⟨rfl, desired, result, hcompletes, rfl,
      fun path hpath hne => absurd (hunset path hpath) hne, fun _ => rfl⟩
  | some path =>
    obtain ⟨hpath, hne⟩ := Environment.value?_eq_some.mp hvalue
    cases hwrite : files.write path (appliedObject desired result).text with
    | error cause =>
      rw [run_of_write_error h hvalue hwrite]
      exact .inl ⟨rfl, rfl, desired, result, path, cause, hcompletes, rfl, hpath, hne, hwrite, rfl⟩
    | ok files' =>
      rw [run_of_write_ok h hvalue hwrite]
      refine .inr ⟨rfl, desired, result, hcompletes, rfl, fun path' hpath' _ => ?_,
        fun hunset => ?_⟩
      · obtain rfl : path = path' := Option.some.inj (hpath.symm.trans hpath')
        exact Files.rewritten_of_write hwrite
      · exact absurd (hunset path hpath) hne

end Prepared

theorem Ending.Describes.unique {outcome : Outcome} {a b : Ending}
    (ha : a.Describes env files outcome) (hb : b.Describes env files outcome) : a = b := by
  have houtput (h : Ending.unsaved.Describes env files outcome) : outcome.output ≠ [] := by
    obtain ⟨-, -, desired, result, path, cause, hcompletes, houtput, -⟩ := h
    rw [houtput]
    exact hcompletes.stream_ne_nil
  have hcode (h : Ending.done.Describes env files outcome) : outcome.exitCode ≠ 1 := by
    rw [h.1]
    decide
  cases a <;> cases b
  case refused.refused | unsaved.unsaved | done.done => rfl
  case refused.unsaved => exact absurd ha.2.1 (houtput hb)
  case unsaved.refused => exact absurd hb.2.1 (houtput ha)
  case refused.done | unsaved.done => exact absurd ha.1 (hcode hb)
  case done.refused | done.unsaved => exact absurd hb.1 (hcode ha)

/-- Whatever the files and the environment are, a run ends in exactly one way: refused, with no
output and no file touched, which it is if and only if its cycle does not succeed; with all
manifests of a successful cycle and no file touched, when only the write of the applied network
failed; or with all manifests and with the applied network in the file that the environment names
for it, if it names one. -/
theorem run_ending (env : Environment) (files : Files) :
    (∃ ending : Ending, ending.Describes env files (run env files) ∧
      ∀ other : Ending, other.Describes env files (run env files) → other = ending) ∧
    (Ending.refused.Describes env files (run env files) ↔
      ∀ desired result, ¬ Completes env files desired result) := by
  cases hprepare : prepare env files with
  | error e =>
    have hrefused : Ending.refused.Describes env files (run env files) := by
      rw [run_of_prepare_error hprepare]
      exact ⟨rfl, rfl, rfl⟩
    refine ⟨⟨.refused, hrefused, fun other hother => hother.unique hrefused⟩,
      fun _ desired result hcompletes => ?_, fun _ => hrefused⟩
    obtain ⟨config, hok⟩ := completes_iff.mp hcompletes
    rw [hprepare] at hok
    cases hok
  | ok prepared =>
    obtain ⟨config, desired, result⟩ := prepared
    have hcompletes : Completes env files desired result := completes_iff.mpr ⟨config, hprepare⟩
    have hnever : ¬ ∀ desired result, ¬ Completes env files desired result :=
      fun h => h desired result hcompletes
    rcases describes_of_prepare hprepare with hunsaved | hdone
    · exact ⟨⟨.unsaved, hunsaved, fun other hother => hother.unique hunsaved⟩,
        fun hrefused => (nomatch hrefused.unique hunsaved), fun h => absurd h hnever⟩
    · exact ⟨⟨.done, hdone, fun other hother => hother.unique hdone⟩,
        fun hrefused => (nomatch hrefused.unique hdone), fun h => absurd h hnever⟩

section Saved

variable {config : OperatorConfig} {path : String}

theorem load_eq_ok : load files path = .ok desired ↔
    ∃ cs, files.read path = .ok cs ∧ NetworkObject.parse cs = .ok desired := by
  simp only [load, bind_eq_ok, mapError_eq_ok]

/-- A run that exits with success has written the applied network, if there is a file for it. -/
theorem write_of_exitCode (h : (run env files).exitCode = 0)
    (hpath : env.value? "APPLIED_CONFIG_OUT" = some path) :
    ∃ config desired result files', prepare env files = .ok (config, desired, result) ∧
      files.write path (appliedObject desired result).text = .ok files' ∧
      run env files = ⟨none, stream result.objects, files'⟩ := by
  cases hprepare : prepare env files with
  | error e => simp [run, hprepare, Outcome.exitCode] at h
  | ok prepared =>
    obtain ⟨config, desired, result⟩ := prepared
    cases hwrite : files.write path (appliedObject desired result).text with
    | error cause => simp [run_of_write_error hprepare hpath hwrite, Outcome.exitCode] at h
    | ok files' =>
      exact ⟨config, desired, result, files', rfl, hwrite, run_of_write_ok hprepare hpath hwrite⟩

theorem parse_appliedObject (hprepare : prepare env files = .ok (config, desired, result))
    (hreads : (appliedObject desired result).ReadsBack) :
    NetworkObject.parse (appliedObject desired result).text =
      .ok (appliedObject desired result) := by
  obtain ⟨-, hload, previous, -, hresult⟩ := prepare_eq_ok.mp hprepare
  obtain ⟨cs, -, hparse⟩ := load_eq_ok.mp hload
  obtain ⟨hmode, hsorted⟩ := NetworkObject.keeps_of_parse hparse
  have happlied : (appliedObject desired result).spec =
      desired.spec.withDefaults (previous.map NetworkObject.spec) config.hostMtu :=
    (reconcile_eq_ok.mp hresult).1
  refine hreads.parse_text ?_ ?_ <;> rw [happlied]
  · exact NetworkSpec.isOfText_withDefaults hmode _ _
  · exact NetworkSpec.sorted_withDefaults hsorted _ _

/-- What a run that exits with success has saved is read back as the metadata and the applied network
of its cycle, provided that what YAML is written for them is read as it was written. -/
theorem load_of_run (h : (run env files).exitCode = 0)
    (hpath : Fields.get? "APPLIED_CONFIG_OUT" env = some path) (hne : path ≠ "")
    (hreads : ∀ desired result, Completes env files desired result →
      NetworkObject.ReadsBack ⟨desired.metadata, result.applied⟩) :
    ∃ desired result, Completes env files desired result ∧
      load (run env files).files path = .ok ⟨desired.metadata, result.applied⟩ := by
  obtain ⟨config, desired, result, files', hprepare, hwrite, hrun⟩ :=
    write_of_exitCode h (Environment.value?_eq_some.mpr ⟨hpath, hne⟩)
  have hcompletes : Completes env files desired result := completes_iff.mpr ⟨config, hprepare⟩
  refine ⟨desired, result, hcompletes, ?_⟩
  rw [hrun]
  exact load_eq_ok.mpr ⟨_, Files.read_of_write hwrite,
    parse_appliedObject hprepare (hreads desired result hcompletes)⟩

end Saved

end Program

end OverlayConfig
