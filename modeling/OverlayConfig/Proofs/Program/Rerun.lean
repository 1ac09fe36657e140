import OverlayConfig.Proofs.Program
/-!
Runs of the program one after the other. The file of the applied network is all that a run leaves to
the next one. A run that takes it for the previous network accepts what the first run accepted, prints
the same and writes the same text, whatever the MTU of the host is by then, and also when it is the
file of the desired network at the same time.
-/
set_option autoImplicit false

namespace OverlayConfig

theorem Environment.value?_congr {env env' : Environment} {name : String}
    (h : Fields.get? name env' = Fields.get? name env) : env'.value? name = env.value? name := by
  rw [value?, value?, h]

def Files.Names (files : Files) (path other : String) : Prop :=
  files.place other = files.place path ∧ ∃ node, files.find other = .ok node

namespace OperatorConfig

variable {env env' : Environment} {config : OperatorConfig}

theorem ofEnvironment_of_kept (h : ofEnvironment env = .ok config)
    (hkept : ∀ name, name ≠ "PREVIOUS_CONFIG" → name ≠ "HOST_MTU" →
      Fields.get? name env' = Fields.get? name env) {mtu : UInt32}
    (hmtu : hostMtuOf env' = .ok mtu) :
    ofEnvironment env' = .ok { config with
      previousConfig := env'.value? "PREVIOUS_CONFIG", hostMtu := mtu } := by
  obtain ⟨hnetwork, -, -, hout, hdir, hnode, hcontroller⟩ := ofEnvironment_eq_ok.mp h
  have hvalue (name : String) (hprevious : name ≠ "PREVIOUS_CONFIG") (hmtu : name ≠ "HOST_MTU") :
      env'.value? name = env.value? name := Environment.value?_congr (hkept name hprevious hmtu)
  refine ofEnvironment_eq_ok.mpr ⟨?_, hmtu, rfl, ?_, ?_, ?_, ?_⟩
  · rw [hvalue "NETWORK_CONFIG" (by decide) (by decide), hnetwork]
  · rw [hvalue "APPLIED_CONFIG_OUT" (by decide) (by decide), hout]
  · rw [hvalue "MANIFEST_DIR" (by decide) (by decide), hdir]
  · rw [hvalue "NODE_IMAGE" (by decide) (by decide), hnode]
  · rw [hvalue "CONTROLLER_IMAGE" (by decide) (by decide),
      hvalue "NODE_IMAGE" (by decide) (by decide), hcontroller]

end OperatorConfig

namespace Program

variable {env env' : Environment} {files files' : Files} {desired : NetworkObject}
  {result : Reconciled} {config : OperatorConfig} {path : String}

def templateDirectory (env : Environment) : String :=
  joinPath ((env.value? "MANIFEST_DIR").getD OperatorConfig.defaultManifestDir) sdnDirectory

/-- A later environment: the previous network is the one in the file at a path, the MTU of the host
is any that can be read, and all else is as before. -/
structure Follows (files : Files) (path : String) (env env' : Environment) : Prop where
  kept : ∀ name, name ≠ "PREVIOUS_CONFIG" → name ≠ "HOST_MTU" →
    Fields.get? name env' = Fields.get? name env
  previous : ∃ other, Fields.get? "PREVIOUS_CONFIG" env' = some other ∧ files.Names path other
  mtu : ∃ mtu, OperatorConfig.hostMtuOf env' = .ok mtu

/-- Runs of the program one after the other, each on the files that the one before it left. -/
def runs : (files : Files) → List Environment → List Outcome
  | _, [] => []
  | files, env :: rest =>
    let outcome := run env files
    outcome :: runs outcome.files rest

/-- After the write the desired network is what it was, or the applied one where it was written over.
-/
theorem load_desired_of_write (hprepare : prepare env files = .ok (config, desired, result))
    (hwrite : files.write path (appliedObject desired result).text = .ok files')
    (hreads : (appliedObject desired result).ReadsBack) :
    ∃ desired', load files' config.networkConfig = .ok desired' ∧
      (desired' = desired ∨ desired' = appliedObject desired result) := by
  obtain ⟨cs, hread, hparse⟩ := load_eq_ok.mp (prepare_eq_ok.mp hprepare).2.1
  by_cases hplace : files.place config.networkConfig = files.place path
  · refine ⟨_, load_eq_ok.mpr ⟨_, ?_, parse_appliedObject hprepare hreads⟩, .inr rfl⟩
    exact Files.read_of_write_same hwrite (Files.read_eq_ok.mp hread) hplace
  · have hkept := Files.read_of_write_other hwrite hread hplace
    exact ⟨_, load_eq_ok.mpr ⟨cs, hkept, hparse⟩, .inl rfl⟩

theorem load_applied_of_write (hprepare : prepare env files = .ok (config, desired, result))
    (hwrite : files.write path (appliedObject desired result).text = .ok files')
    (hreads : (appliedObject desired result).ReadsBack) {other : String}
    (hother : files'.Names path other) :
    load files' other = .ok (appliedObject desired result) := by
  obtain ⟨hplace, node, hfind⟩ := hother
  have hpath := Files.read_eq_ok.mp (Files.read_of_write hwrite)
  obtain rfl := Files.find_unique hfind hpath hplace
  exact load_eq_ok.mpr ⟨_, Files.read_eq_ok.mpr hfind, parse_appliedObject hprepare hreads⟩

/-- A run that follows a successful one repeats its result and changes nothing any more. -/
theorem run_of_follows (hprepare : prepare env files = .ok (config, desired, result))
    (hpath : env.value? "APPLIED_CONFIG_OUT" = some path)
    (hwrite : files.write path (appliedObject desired result).text = .ok files')
    (houtside : ¬ files.place (templateDirectory env) <+: files.place path)
    (hreads : (appliedObject desired result).ReadsBack)
    (hfollows : Follows files' path env env') :
    run env' files' = ⟨none, stream result.objects, files'⟩ := by
  obtain ⟨other, hother, hnames⟩ := hfollows.previous
  obtain ⟨mtu, hmtu⟩ := hfollows.mtu
  obtain ⟨hconfig, -, previous, -, hresult⟩ := prepare_eq_ok.mp hprepare
  have hconfig' := OperatorConfig.ofEnvironment_of_kept hconfig hfollows.kept hmtu
  obtain ⟨-, -, -, -, hdir, -⟩ := OperatorConfig.ofEnvironment_eq_ok.mp hconfig
  have happlied := load_applied_of_write hprepare hwrite hreads hnames
  obtain ⟨desired', hdesired', hcases⟩ := load_desired_of_write hprepare hwrite hreads
  have hprevious : loadPrevious files' (env'.value? "PREVIOUS_CONFIG") =
      .ok (some (appliedObject desired result)) := by
    obtain ⟨-, node, hfind⟩ := hnames
    rw [Environment.value?_eq_some.mpr ⟨hother, (Files.find_eq_ok.mp hfind).1⟩, loadPrevious,
      happlied]
    rfl
  have hspec : desired'.spec = desired.spec ∨ desired'.spec = result.applied :=
    hcases.imp (congrArg _) (congrArg _)
  have hsame := reconcile_again hresult ⟨result.applied, rfl, rfl⟩
    { config.host files with mtu } rfl rfl hspec
  have hagain : reconcile ({ config with
        previousConfig := env'.value? "PREVIOUS_CONFIG", hostMtu := mtu }.host files')
      desired'.spec (some result.applied) = .ok result := by
    refine reconcile_of_list hsame rfl rfl fun entries hentries => ?_
    rw [templateDirectory, hdir] at houtside
    exact Files.list_of_write hwrite hentries houtside
  have hprepare' := prepare_eq_ok.mpr ⟨hconfig', hdesired', _, hprevious, hagain⟩
  have hobject : appliedObject desired' result = appliedObject desired result := by
    rcases hcases with rfl | rfl <;> rfl
  have hpath' : env'.value? "APPLIED_CONFIG_OUT" = some path := by
    rw [Environment.value?_congr (hfollows.kept _ (by decide) (by decide)), hpath]
  exact run_of_write_ok hprepare' hpath' (hobject ▸ Files.write_again hwrite)

/-- After a successful run all runs that follow it succeed as well, print what it printed and leave
the text that it wrote, also where they read the desired network from that same file; provided that
the file is not one of the templates, and that what YAML is written for the applied network is read
as it was written. -/
theorem runs_repeat (h : (run env files).exitCode = 0)
    (hpath : Fields.get? "APPLIED_CONFIG_OUT" env = some path) (hne : path ≠ "")
    (houtside : ¬ files.place (templateDirectory env) <+: files.place path)
    (hreads : ∀ desired result, Completes env files desired result →
      (appliedObject desired result).ReadsBack) :
    ∃ cs, (run env files).files.read path = .ok cs ∧
      ∀ envs : List Environment,
        (∀ env' ∈ envs, Follows (run env files).files path env env') →
        ∀ outcome ∈ runs (run env files).files envs,
          outcome.exitCode = 0 ∧ outcome.output = (run env files).output ∧
            outcome.files.read path = .ok cs := by
  have hvalue := Environment.value?_eq_some.mpr ⟨hpath, hne⟩
  obtain ⟨config, desired, result, files', hprepare, hwrite, hrun⟩ := write_of_exitCode h hvalue
  have hobject := hreads desired result (completes_iff.mpr ⟨config, hprepare⟩)
  rw [hrun]
  refine ⟨_, Files.read_of_write hwrite, fun envs henvs => ?_⟩
  -- every run leaves the files as they are, so the next one is as the one before it
  induction envs with
  | nil => nofun
  | cons env' rest ih =>
    obtain ⟨hfirst, hrest⟩ := List.forall_mem_cons.mp henvs
    have hagain := run_of_follows hprepare hvalue hwrite houtside hobject hfirst
    rw [runs, hagain]
    exact List.forall_mem_cons.mpr ⟨⟨rfl, rfl, Files.read_of_write hwrite⟩, ih hrest⟩

def networkFiles : Files where
  root := .directory [("net.yaml", .text (NetworkObject.text ⟨.object [], bareSpec⟩)),
    ("t", (namespaceHost.files.root.at? ["t"]).getD .binary)]
  working := []

def networkEnvironment : Environment :=
  [("NETWORK_CONFIG", "net.yaml"), ("APPLIED_CONFIG_OUT", "./net.yaml"), ("MANIFEST_DIR", "t"),
    ("HOST_MTU", "9000")]

def laterEnvironment : Environment :=
  ("PREVIOUS_CONFIG", "./net.yaml") :: ("HOST_MTU", "1500") :: networkEnvironment

theorem follows_laterEnvironment {files : Files} {cs : List Char}
    (hread : files.read "./net.yaml" = .ok cs) :
    Follows files "./net.yaml" networkEnvironment laterEnvironment where
  kept name hprevious hmtu := by
    rw [laterEnvironment, Fields.get?, if_neg (Ne.symm hprevious), Fields.get?,
      if_neg (Ne.symm hmtu)]
  previous := ⟨"./net.yaml", rfl, rfl, _, Files.read_eq_ok.mp hread⟩
  mtu := ⟨1500, toOption_eq_some.mp (by decide +kernel)⟩

theorem runs_repeat_network : (run networkEnvironment networkFiles).exitCode = 0 ∧
    ∀ outcome ∈ runs (run networkEnvironment networkFiles).files
        [laterEnvironment, laterEnvironment],
      outcome.exitCode = 0 ∧
        outcome.output = (run networkEnvironment networkFiles).output := by
  have hexit : (run networkEnvironment networkFiles).exitCode = 0 := by decide +kernel
  have hreads : ∀ desired result, Completes networkEnvironment networkFiles desired result →
      (appliedObject desired result).ReadsBack := by
    intro desired result hcompletes
    obtain ⟨config, hprepare⟩ := completes_iff.mp hcompletes
    have hall : (prepare networkEnvironment networkFiles).toOption.all
        (fun p => decide ((Yaml.readDocument NetworkObject.shape
          (appliedObject p.2.1 p.2.2).text).toOption =
            some (.object [("metadata", (appliedObject p.2.1 p.2.2).metadata),
              ("spec", (appliedObject p.2.1 p.2.2).spec.toJson.ordered)]))) = true := by
      decide +kernel
    rw [hprepare] at hall
    exact toOption_eq_some.mp (of_decide_eq_true hall)
  obtain ⟨cs, hread, hlater⟩ := runs_repeat hexit rfl (by decide) (by decide +kernel) hreads
  refine ⟨hexit, fun outcome hmem => ?_⟩
  have hfollows : ∀ env' ∈ [laterEnvironment, laterEnvironment],
      Follows (run networkEnvironment networkFiles).files "./net.yaml" networkEnvironment env' := by
    intro env' henv'
    obtain rfl : env' = laterEnvironment := by simpa using henv'
    exact follows_laterEnvironment hread
  obtain ⟨hcode, houtput, -⟩ := hlater _ hfollows outcome hmem
  exact ⟨hcode, houtput⟩

end Program

end OverlayConfig
