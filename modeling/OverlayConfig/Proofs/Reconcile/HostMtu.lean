import Mathlib.Data.List.Forall2
import OverlayConfig.Proofs.Reconcile.Runs
/-!
How far the MTU of the host reaches. It is looked at as long as no network has been applied; from
the first success on, the applied network carries the MTU of the overlay, and two runs whose hosts
differ in their MTU alone cannot be told apart.
-/
set_option autoImplicit false

namespace OverlayConfig

structure Cycle.SameButMtu (a b : Cycle) : Prop where
  desired_eq : a.desired = b.desired
  options_eq : a.host.options = b.host.options
  files_eq : a.host.files = b.host.files

theorem NetworkSpec.withDefaults_of_appliedMtu? (spec : NetworkSpec)
    {previous : Option NetworkSpec} {mtu : UInt32} (h : appliedMtu? previous = some mtu)
    (hostMtu hostMtu' : UInt32) :
    spec.withDefaults previous hostMtu = spec.withDefaults previous hostMtu' := by
  simp only [withDefaults, h, Option.getD_some]

/-- The host has a part in the defaults, the options and the files, and in nothing else. -/
theorem reconcile_of_withDefaults {a b : Cycle} (hsame : a.SameButMtu b)
    {previous : Option NetworkSpec}
    (h : a.desired.withDefaults previous a.host.mtu = a.desired.withDefaults previous b.host.mtu) :
    reconcile a.host a.desired previous = reconcile b.host b.desired previous := by
  simp only [reconcile, ← hsame.desired_eq, h, hsame.options_eq, hsame.files_eq]

theorem appliedMtu?_of_reconcile {host : Host} {desired : NetworkSpec}
    {previous : Option NetworkSpec} {result : Reconciled}
    (h : reconcile host desired previous = .ok result) :
    ∃ mtu, NetworkSpec.appliedMtu? (some result.applied) = some mtu := by
  obtain ⟨config, plugin, port, mtu, hs, hc⟩ := accepted_of_reconcile h
  exact ⟨mtu, by simp [NetworkSpec.appliedMtu?, hs, hc.mtu_eq]⟩

theorem appliedMtu?_nextPrevious {host : Host} {desired : NetworkSpec}
    {previous : Option NetworkSpec} {mtu : UInt32}
    (h : NetworkSpec.appliedMtu? previous = some mtu) :
    ∃ mtu', NetworkSpec.appliedMtu? (nextPrevious previous (reconcile host desired previous)) =
      some mtu' := by
  cases hr : reconcile host desired previous with
  | error e => exact ⟨mtu, h⟩
  | ok result => exact appliedMtu?_of_reconcile hr

theorem runCycles_of_appliedMtu? {as bs : List Cycle} (hsame : List.Forall₂ Cycle.SameButMtu as bs)
    {previous : Option NetworkSpec} {mtu : UInt32}
    (h : NetworkSpec.appliedMtu? previous = some mtu) :
    runCycles previous as = runCycles previous bs := by
  induction hsame generalizing previous mtu with
  | nil => rfl
  | @cons a b as bs hfirst hrest ih =>
    have hstep : reconcile a.host a.desired previous = reconcile b.host b.desired previous :=
      reconcile_of_withDefaults hfirst (a.desired.withDefaults_of_appliedMtu? h _ _)
    have hcarried : ∃ mtu', NetworkSpec.appliedMtu?
        (nextPrevious previous (reconcile a.host a.desired previous)) = some mtu' :=
      appliedMtu?_nextPrevious h
    obtain ⟨mtu', hmtu'⟩ := hcarried
    simp only [runCycles, ← hstep]
    rw [ih hmtu']

def NoSuccessBefore (previous : Option NetworkSpec) (cycles : List Cycle) (i : Nat) : Prop :=
  ∀ j < i, ∀ result, (runCycles previous cycles)[j]? ≠ some (.ok result)

theorem noSuccessBefore_zero (previous : Option NetworkSpec) (cycles : List Cycle) :
    NoSuccessBefore previous cycles 0 := fun _ hj => absurd hj (Nat.not_lt_zero _)

theorem NoSuccessBefore.cons {previous : Option NetworkSpec} {first : Cycle} {rest : List Cycle}
    {e : ReconcileError} (hr : reconcile first.host first.desired previous = .error e) {i : Nat}
    (h : NoSuccessBefore previous rest i) : NoSuccessBefore previous (first :: rest) (i + 1) := by
  intro j hj result
  simp only [runCycles, hr, nextPrevious]
  cases j with
  | zero => simp
  | succ j => exact h j (Nat.lt_of_succ_lt_succ hj) result

/-- Two runs ask for the same with the same templates and images, and on hosts of the same MTU up to
the first success. -/
structure AgreeToSuccess (previous : Option NetworkSpec) (as bs : List Cycle) : Prop where
  sameButMtu : List.Forall₂ Cycle.SameButMtu as bs
  mtu_eq : ∀ i, NoSuccessBefore previous as i →
    as[i]?.map (fun c => c.host.mtu) = bs[i]?.map (fun c => c.host.mtu)

/-- Runs that agree up to their first success give the same results in every cycle, whatever the
MTUs of the hosts are later on: the same networks and manifests, and the same errors with the same
findings. -/
theorem runCycles_eq_of_agreeToSuccess {previous : Option NetworkSpec} {as bs : List Cycle}
    (h : AgreeToSuccess previous as bs) : runCycles previous as = runCycles previous bs := by
  obtain ⟨hsame, hmtu⟩ := h
  induction hsame with
  | nil => rfl
  | @cons a b as bs hfirst hrest ih =>
    have hfirstMtu : a.host.mtu = b.host.mtu := by
      simpa using hmtu 0 (noSuccessBefore_zero _ _)
    have hstep : reconcile a.host a.desired previous = reconcile b.host b.desired previous :=
      reconcile_of_withDefaults hfirst (by rw [hfirstMtu])
    simp only [runCycles, ← hstep]
    cases hr : reconcile a.host a.desired previous with
    | ok result =>
      -- from here on the applied network has the MTU
      obtain ⟨mtu, hcarried⟩ := appliedMtu?_of_reconcile hr
      rw [nextPrevious, runCycles_of_appliedMtu? hrest hcarried]
    | error e =>
      have hlater : ∀ i, NoSuccessBefore previous as i →
          as[i]?.map (fun c => c.host.mtu) = bs[i]?.map (fun c => c.host.mtu) :=
        fun i hi => by simpa using hmtu (i + 1) (hi.cons hr)
      rw [nextPrevious, ih hlater]

/-- A run that fails, then succeeds and then finds a host of another MTU. -/
def mtuRun (last : UInt32) : List Cycle :=
  [⟨namespaceHost, { bareSpec with serviceNetwork := "" }⟩, ⟨namespaceHost, bareSpec⟩,
    ⟨{ namespaceHost with mtu := last }, bareSpec⟩]

theorem runCycles_eq_of_agreeToSuccess_mtuRun :
    AgreeToSuccess none (mtuRun 1500) (mtuRun 700) ∧
      runCycles none (mtuRun 1500) = runCycles none (mtuRun 700) ∧
      (runCycles none (mtuRun 1500))[1]? = some (.ok namespaceResult) := by
  have hsecond : (runCycles none (mtuRun 1500))[1]? = some (.ok namespaceResult) := by
    have hbad : ∃ e, reconcile namespaceHost { bareSpec with serviceNetwork := "" } none =
        .error e := ⟨_, rfl⟩
    obtain ⟨e, he⟩ := hbad
    simp only [mtuRun, runCycles, he, nextPrevious]
    exact congrArg some reconcile_namespaceHost
  have hagree : AgreeToSuccess none (mtuRun 1500) (mtuRun 700) := by
    refine ⟨.cons ⟨rfl, rfl, rfl⟩ (.cons ⟨rfl, rfl, rfl⟩ (.cons ⟨rfl, rfl, rfl⟩ .nil)), ?_⟩
    intro i hi
    rcases i with _ | _ | _ | later
    · rfl
    · rfl
    · exact absurd hsecond (hi 1 (by decide) namespaceResult)
    · rfl
  exact ⟨hagree, runCycles_eq_of_agreeToSuccess hagree, hsecond⟩

end OverlayConfig
