import Mathlib.Control.Monad.Basic
import OverlayConfig.Proofs.Results
import OverlayConfig.Proofs.Spec.Change
import OverlayConfig.Proofs.Spec.Defaults
import OverlayConfig.Reconcile
/-!
Runs of reconcile cycles. What a cycle accepts has the backend that ran before it, so the first
success of a run fixes the backend for all later ones, and a network that was accepted once is
accepted again with the same manifests.
-/
set_option autoImplicit false

namespace OverlayConfig

theorem checkValid_eq_ok {spec : NetworkSpec} : checkValid spec = .ok () ↔ spec.errors = [] := by
  unfold checkValid
  cases spec.errors <;> simp

theorem checkChange_eq_ok {previous : Option NetworkSpec} {next : NetworkSpec} :
    checkChange previous next = .ok () ↔ ∀ p, previous = some p → p.sdn? = next.sdn? := by
  cases previous with
  | none => simp [checkChange]
  | some p =>
    simp only [checkChange, Option.some.injEq, forall_eq',
      ← NetworkSpec.unsafeChanges_eq_nil]
    cases p.unsafeChanges next <;> simp

theorem reconcile_eq_ok {host : Host} {desired : NetworkSpec} {previous : Option NetworkSpec}
    {result : Reconciled} :
    reconcile host desired previous = .ok result ↔
      result.applied = desired.withDefaults previous host.mtu ∧ result.applied.errors = [] ∧
        (∀ p, previous = some p → p.sdn? = result.applied.sdn?) ∧
        result.applied.render host.options host.files = .ok result.objects ∧
        checkAllSupported result.objects = .ok () := by
  obtain ⟨applied, objects⟩ := result
  simp only [reconcile, bind_eq_ok, mapError_eq_ok]
  constructor
  · rintro ⟨_, hv, _, hc, rendered, hr, _, hs, h⟩
    cases h
    exact ⟨rfl, checkValid_eq_ok.mp hv, checkChange_eq_ok.mp hc, hr, hs⟩
  · rintro ⟨rfl, hv, hc, hr, hs⟩
    exact ⟨(), checkValid_eq_ok.mpr hv, (), checkChange_eq_ok.mpr hc, objects, hr, (), hs, rfl⟩

theorem accepted_of_reconcile {host : Host} {desired : NetworkSpec}
    {previous : Option NetworkSpec} {result : Reconciled}
    (h : reconcile host desired previous = .ok result) :
    ∃ config plugin port mtu,
      result.applied.sdn? = some config ∧ config.Accepted plugin port mtu := by
  obtain ⟨happ, herr, -⟩ := reconcile_eq_ok.mp h
  rw [happ] at herr ⊢
  exact NetworkSpec.accepted_of_errors herr

def outcomes (previous : Option NetworkSpec) (cycles : List Cycle) :
    List (Cycle × Except ReconcileError Reconciled) :=
  cycles.zip (runCycles previous cycles)

theorem outcomes_cons (previous : Option NetworkSpec) (cycle : Cycle) (rest : List Cycle) :
    outcomes previous (cycle :: rest) =
      (cycle, reconcile cycle.host cycle.desired previous) ::
        outcomes (nextPrevious previous (reconcile cycle.host cycle.desired previous)) rest := rfl

/-- What every success keeps of the previous network holds before every cycle of a run. -/
theorem outcomes_invariant (holds : Option NetworkSpec → Prop)
    (hkeep : ∀ {host desired previous result}, holds previous →
      reconcile host desired previous = .ok result → holds (some result.applied))
    {previous : Option NetworkSpec} {cycles : List Cycle} (hstart : holds previous)
    {cycle : Cycle} {outcome : Except ReconcileError Reconciled}
    (hmem : (cycle, outcome) ∈ outcomes previous cycles) :
    ∃ before, holds before ∧ outcome = reconcile cycle.host cycle.desired before := by
  induction cycles generalizing previous with
  | nil => simp [outcomes] at hmem
  | cons first rest ih =>
    rw [outcomes_cons] at hmem
    rcases List.mem_cons.mp hmem with heq | hmem
    · cases heq
      exact ⟨previous, hstart, rfl⟩
    · refine ih ?_ hmem
      cases hr : reconcile first.host first.desired previous with
      | error e => exact hstart
      | ok result => exact hkeep hstart hr

def Runs (backend : Option SdnConfig) (previous : Option NetworkSpec) : Prop :=
  ∃ running, previous = some running ∧ running.sdn? = backend

theorem Runs.sdn?_of_reconcile {backend : Option SdnConfig} {host : Host} {desired : NetworkSpec}
    {previous : Option NetworkSpec} {result : Reconciled} (h : Runs backend previous)
    (hr : reconcile host desired previous = .ok result) : result.applied.sdn? = backend := by
  obtain ⟨running, rfl, hb⟩ := h
  exact ((reconcile_eq_ok.mp hr).2.2.1 running rfl).symm.trans hb

theorem Runs.before_outcome {backend : Option SdnConfig} {previous : Option NetworkSpec}
    {cycles : List Cycle} {cycle : Cycle} {outcome : Except ReconcileError Reconciled}
    (h : Runs backend previous) (hmem : (cycle, outcome) ∈ outcomes previous cycles) :
    ∃ before, Runs backend before ∧ outcome = reconcile cycle.host cycle.desired before :=
  outcomes_invariant (Runs backend) (fun h hr => ⟨_, rfl, h.sdn?_of_reconcile hr⟩) h hmem

theorem outcomes_share_backend (cycles : List Cycle) :
    ∃ config plugin port mtu, SdnConfig.Accepted config plugin port mtu ∧
      ∀ cycle result, (cycle, .ok result) ∈ outcomes none cycles →
        result.applied.sdn? = some config ∧
          ∃ before, reconcile cycle.host cycle.desired before = .ok result := by
  induction cycles with
  | nil =>
    have hinitial : (SdnConfig.initial.withDefaults 0).errors = [] := by decide
    obtain ⟨plugin, port, mtu, hc⟩ := SdnConfig.accepted_withDefaults hinitial
    exact ⟨_, plugin, port, mtu, hc, by simp [outcomes]⟩
  | cons first rest ih =>
    cases hr : reconcile first.host first.desired none with
    | error e =>
      -- a failed cycle leaves the run where it was
      obtain ⟨config, plugin, port, mtu, hc, hall⟩ := ih
      refine ⟨config, plugin, port, mtu, hc, fun cycle result hmem => hall cycle result ?_⟩
      simpa [outcomes_cons, hr, nextPrevious] using hmem
    | ok result =>
      obtain ⟨config, plugin, port, mtu, hs, hc⟩ := accepted_of_reconcile hr
      refine ⟨config, plugin, port, mtu, hc, fun cycle later hmem => ?_⟩
      rw [outcomes_cons, hr] at hmem
      rcases List.mem_cons.mp hmem with heq | hmem
      · cases heq
        exact ⟨hs, none, hr⟩
      · obtain ⟨before, hruns, hfrom⟩ := Runs.before_outcome ⟨_, rfl, hs⟩ hmem
        exact ⟨hruns.sdn?_of_reconcile hfrom.symm, before, hfrom.symm⟩

/-- Whatever the cycles of a run ask for and wherever they take their templates from, all that
succeed run one and the same backend: mode, port, MTU and openvswitch are those of the first
success, they are set and in range, and so are the parts of the documents that are made from them,
and the flag in the data that the templates are given. -/
theorem runCycles_backend_constant (cycles : List Cycle) :
    ∃ (config : SdnConfig) (plugin : String) (port mtu : UInt32),
      config.Accepted plugin port mtu ∧
      ∀ cycle result, (cycle, .ok result) ∈ outcomes none cycles →
        result.applied.sdn? = some config ∧
        ∃ node controller data rendered,
          NodeConfig.ofSpec result.applied = .ok node ∧ node.mtu = mtu ∧
          node.networkPluginName = plugin ∧
          ControllerConfig.ofSpec result.applied = .ok controller ∧
          controller.networkPluginName = plugin ∧ controller.vxlanPort = port ∧
          result.applied.renderData cycle.host.options = .ok data ∧
          data.get? ["install_ovs"] = some (.bool config.installsOpenvswitch) ∧
          TemplateDirectory.render cycle.host.files
            (joinPath cycle.host.options.manifestDir sdnDirectory) data = .ok rendered ∧
          ManifestSet.check rendered = .ok result.objects := by
  obtain ⟨config, plugin, port, mtu, hc, hall⟩ := outcomes_share_backend cycles
  refine ⟨config, plugin, port, mtu, hc, fun cycle result hmem => ?_⟩
  obtain ⟨hs, before, hr⟩ := hall cycle result hmem
  have hnode := NetworkSpec.nodeConfig_of_accepted hs hc
  have hcontroller := NetworkSpec.controllerConfig_of_accepted hs hc
  have hdata := NetworkSpec.renderData_of_documents cycle.host.options hs hnode hcontroller
  obtain ⟨-, -, -, hrender, -⟩ := reconcile_eq_ok.mp hr
  obtain ⟨data, rendered, hdata', htemplates, hcheck⟩ := NetworkSpec.render_eq_ok.mp hrender
  obtain rfl := Except.ok.inj (hdata.symm.trans hdata')
  exact ⟨hs, _, _, _, rendered, hnode, rfl, rfl, hcontroller, rfl, rfl, hdata, rfl, htemplates,
    hcheck⟩

def namespaceHost : Host where
  options := ⟨"t", "node", "controller"⟩
  files :=
    let text := "apiVersion: v1\nkind: Namespace\nmetadata: \x7bname: sdn\x7d\n".toList
    ⟨.directory [("t", .directory [("network", .directory [("openshift-sdn", .directory
      [("0.yaml", .text text)])])])], []⟩
  mtu := 9000

def bareSpec : NetworkSpec :=
  ⟨"172.30.0.0/16", [⟨"10.128.0.0/14", 9⟩], .openShiftSdn none, none, none⟩

def namespaceResult : Reconciled where
  applied := bareSpec.withDefaults none 9000
  objects := [⟨[("apiVersion", .string "v1"), ("kind", .string "Namespace"),
    ("metadata", .object [("name", .string "sdn")])]⟩]

theorem reconcile_namespaceHost :
    reconcile namespaceHost bareSpec none = .ok namespaceResult :=
  toOption_eq_some.mp (by decide +kernel)

def proxySpec : NetworkSpec := { bareSpec with deployKubeProxy := some true }

def proxyResult : Reconciled :=
  { namespaceResult with applied := proxySpec.withDefaults (some namespaceResult.applied) 1500 }

def portSpec : NetworkSpec :=
  { bareSpec with
    defaultNetwork := .openShiftSdn (some ⟨.networkPolicy, some 4790, none, none⟩) }

/-- Two networks that are accepted, on hosts with different MTUs, and between them one that asks for
another port. -/
def threeCycles : List Cycle :=
  [⟨namespaceHost, bareSpec⟩, ⟨namespaceHost, portSpec⟩,
    ⟨{ namespaceHost with mtu := 1500 }, proxySpec⟩]

theorem runCycles_threeCycles : runCycles none threeCycles =
    [.ok namespaceResult, .error (.unsafeChange [.sdnConfig]), .ok proxyResult] := by
  have hrefused : reconcile namespaceHost portSpec (some namespaceResult.applied) =
      .error (.unsafeChange [.sdnConfig]) := by
    decide +kernel
  have hlast : reconcile { namespaceHost with mtu := 1500 } proxySpec
      (some namespaceResult.applied) = .ok proxyResult :=
    toOption_eq_some.mp (by decide +kernel)
  simp only [threeCycles, runCycles, reconcile_namespaceHost, nextPrevious, hrefused, hlast]

theorem runCycles_backend_constant_threeCycles :
    runCycles none threeCycles =
        [.ok namespaceResult, .error (.unsafeChange [.sdnConfig]), .ok proxyResult] ∧
      namespaceResult.applied ≠ proxyResult.applied ∧
      ∃ config node later, namespaceResult.applied.sdn? = some config ∧
        proxyResult.applied.sdn? = some config ∧
        NodeConfig.ofSpec namespaceResult.applied = .ok node ∧
        NodeConfig.ofSpec proxyResult.applied = .ok later ∧ node.mtu = later.mtu := by
  obtain ⟨config, plugin, port, mtu, -, hall⟩ := runCycles_backend_constant threeCycles
  have houtcomes : outcomes none threeCycles = threeCycles.zip
      [.ok namespaceResult, .error (.unsafeChange [.sdnConfig]), .ok proxyResult] := by
    rw [outcomes, runCycles_threeCycles]
  obtain ⟨hfirst, node, -, -, -, hnode, rfl, -⟩ :=
    hall ⟨namespaceHost, bareSpec⟩ namespaceResult (houtcomes ▸ List.mem_cons_self)
  obtain ⟨hlast, later, -, -, -, hlater, hmtu, -⟩ :=
    hall ⟨{ namespaceHost with mtu := 1500 }, proxySpec⟩ proxyResult
      (houtcomes ▸ List.mem_cons_of_mem _ (List.mem_cons_of_mem _ List.mem_cons_self))
  exact ⟨runCycles_threeCycles, by decide, config, node, later, hfirst, hlast, hnode, hlater,
    hmtu.symm⟩

/-- A network that was accepted is accepted with the same manifests while its backend runs. -/
theorem reconcile_again {host : Host} {desired : NetworkSpec} {previous : Option NetworkSpec}
    {result : Reconciled} (h : reconcile host desired previous = .ok result)
    {before : Option NetworkSpec} (hruns : Runs result.applied.sdn? before)
    (host' : Host) (hoptions : host'.options = host.options) (hfiles : host'.files = host.files)
    {desired' : NetworkSpec} (hdesired : desired' = desired ∨ desired' = result.applied) :
    reconcile host' desired' before = .ok result := by
  obtain ⟨running, rfl, hrun⟩ := hruns
  obtain ⟨happ, herr, -, hrender, hsupp⟩ := reconcile_eq_ok.mp h
  have hsame : result.applied = desired'.withDefaults (some running) host'.mtu := by
    rcases hdesired with rfl | rfl
    · rw [happ] at hrun ⊢
      exact (NetworkSpec.withDefaults_of_sdn? host'.mtu hrun).symm
    · rw [happ]
      exact (NetworkSpec.withDefaults_withDefaults _ _ _ _ _).symm
  refine reconcile_eq_ok.mpr ⟨hsame, herr, ?_, ?_, hsupp⟩
  · intro p hp
    cases hp
    exact hrun
  · rw [hoptions, hfiles]
    exact hrender

/-- Of the files a cycle looks only at the entries of the directory of the templates. -/
theorem reconcile_of_list {host host' : Host} {desired : NetworkSpec}
    {previous : Option NetworkSpec} {result : Reconciled}
    (h : reconcile host desired previous = .ok result) (hoptions : host'.options = host.options)
    (hmtu : host'.mtu = host.mtu)
    (hlist : ∀ entries,
      host.files.list (joinPath host.options.manifestDir sdnDirectory) = .ok entries →
      host'.files.list (joinPath host.options.manifestDir sdnDirectory) = .ok entries) :
    reconcile host' desired previous = .ok result := by
  obtain ⟨happ, herr, hsafe, hrender, hsupp⟩ := reconcile_eq_ok.mp h
  refine reconcile_eq_ok.mpr ⟨hmtu ▸ happ, herr, hsafe, ?_, hsupp⟩
  obtain ⟨data, rendered, hdata, htemplates, hcheck⟩ := NetworkSpec.render_eq_ok.mp hrender
  rw [hoptions]
  refine NetworkSpec.render_eq_ok.mpr ⟨data, rendered, hdata, ?_, hcheck⟩
  simp only [TemplateDirectory.render, bind_eq_ok, mapError_eq_ok] at htemplates ⊢
  obtain ⟨entries, hentries, hrendered⟩ := htemplates
  exact ⟨entries, hlist entries hentries, hrendered⟩

/-- Once a cycle has succeeded, asking again for the same network or for the applied one gives the
same result on hosts of any MTU, at once and at any later point of a run, whatever the cycles in
between ask for and whether they fail. -/
theorem reconcile_steady {host : Host} {desired : NetworkSpec} {previous : Option NetworkSpec}
    {result : Reconciled} (h : reconcile host desired previous = .ok result) :
    (∀ mtu, reconcile { host with mtu } desired (some result.applied) = .ok result) ∧
    (∀ mtu, reconcile { host with mtu } result.applied (some result.applied) = .ok result) ∧
    ∀ (later : List Cycle) (cycle : Cycle) (outcome : Except ReconcileError Reconciled),
      (cycle, outcome) ∈ outcomes (some result.applied) later →
      cycle.host.options = host.options → cycle.host.files = host.files →
      cycle.desired = desired ∨ cycle.desired = result.applied → outcome = .ok result := by
  have hruns : Runs result.applied.sdn? (some result.applied) := ⟨_, rfl, rfl⟩
  refine ⟨fun mtu => ?_, fun mtu => ?_, fun later cycle outcome hmem hoptions hfiles hd => ?_⟩
  · exact reconcile_again h hruns { host with mtu } rfl rfl (.inl rfl)
  · exact reconcile_again h hruns { host with mtu } rfl rfl (.inr rfl)
  · obtain ⟨before, hbefore, rfl⟩ := hruns.before_outcome hmem
    exact reconcile_again h hbefore cycle.host hoptions hfiles hd

theorem reconcile_steady_namespace :
    reconcile namespaceHost bareSpec none = .ok namespaceResult ∧
    (∀ mtu, reconcile { namespaceHost with mtu } bareSpec (some namespaceResult.applied) =
      .ok namespaceResult) ∧
    ∀ outcome, (⟨{ namespaceHost with mtu := 1500 }, bareSpec⟩, outcome) ∈
      outcomes (some namespaceResult.applied)
        [⟨namespaceHost, { bareSpec with serviceNetwork := "" }⟩,
          ⟨{ namespaceHost with mtu := 1500 }, bareSpec⟩] → outcome = .ok namespaceResult := by
  have h := reconcile_namespaceHost
  exact ⟨h, (reconcile_steady h).1, fun outcome hmem =>
    (reconcile_steady h).2.2 _ _ outcome hmem rfl rfl (.inl rfl)⟩

end OverlayConfig
