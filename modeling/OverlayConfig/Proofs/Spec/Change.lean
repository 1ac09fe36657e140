import OverlayConfig.Proofs.Spec.Defaults
/-!
Changes of the settings of a running overlay. They are compared as they are written, and not as the
overlay is made from them: of two networks with their defaults one can replace the other if they
make the same overlay and both say, or both leave open, who runs openvswitch.
-/
set_option autoImplicit false

namespace OverlayConfig

theorem Mode.orDefault_eq_iff {mode running : Mode} (h : running.orDefault = running) :
    mode.orDefault = running ↔
      mode = running ∨ (mode = .unknown "" ∧ running = .networkPolicy) := by
  constructor
  · rintro rfl
    cases mode with
    | unknown text => by_cases htext : text = "" <;> simp [orDefault, htext]
    | _ => exact .inl rfl
  · rintro (rfl | ⟨rfl, rfl⟩)
    · exact h
    · rfl

namespace SdnConfig

/-- The same overlay is made from two blocks: in the same mode, with the same port and MTU, and with
openvswitch installed for both or for neither. -/
structure SameOverlay (a b : SdnConfig) : Prop where
  mode_eq : a.mode = b.mode
  vxlanPort_eq : a.vxlanPort = b.vxlanPort
  mtu_eq : a.mtu = b.mtu
  installs_eq : a.installsOpenvswitch = b.installsOpenvswitch

/-- Each setting of a block is the running one, written out or left to its default. -/
structure Restates (config running : SdnConfig) : Prop where
  mode : config.mode = running.mode ∨
    (config.mode = .unknown "" ∧ running.mode = .networkPolicy)
  vxlanPort : config.vxlanPort = running.vxlanPort ∨
    (config.vxlanPort = none ∧ running.vxlanPort = some 4789)
  mtu : config.mtu = running.mtu ∨ config.mtu = none
  external : config.externalOpenvswitch = running.externalOpenvswitch

variable {a b config running : SdnConfig}

theorem installs_eq_iff : a.installsOpenvswitch = b.installsOpenvswitch ↔
    a.externalOpenvswitch.getD false = b.externalOpenvswitch.getD false := by
  simp [installsOpenvswitch]

/-- Blocks that make the same overlay differ at most in whether they say who runs openvswitch. -/
theorem eq_iff_sameOverlay :
    a = b ↔ a.SameOverlay b ∧ (a.externalOpenvswitch = none ↔ b.externalOpenvswitch = none) := by
  constructor
  · rintro rfl
    exact ⟨⟨rfl, rfl, rfl, rfl⟩, Iff.rfl⟩
  · rintro ⟨⟨hmode, hport, hmtu, hinstalls⟩, hsaid⟩
    have hexternal : a.externalOpenvswitch = b.externalOpenvswitch := by
      rw [installs_eq_iff] at hinstalls
      cases ha : a.externalOpenvswitch <;> cases hb : b.externalOpenvswitch <;> simp_all
    cases a
    cases b
    simp_all

/-- A block that takes its MTU from a running one comes to be that one if it restates it. -/
theorem withDefaults_eq_iff {mtu : UInt32} (hmode : running.mode.orDefault = running.mode)
    (hport : running.vxlanPort ≠ none) (hmtu : running.mtu = some mtu) :
    config.withDefaults mtu = running ↔ config.Restates running := by
  have hports : some (config.vxlanPort.getD defaultVxlanPort) = running.vxlanPort ↔
      config.vxlanPort = running.vxlanPort ∨
        (config.vxlanPort = none ∧ running.vxlanPort = some 4789) := by
    cases hconfig : config.vxlanPort with
    | none => simp [defaultVxlanPort, eq_comm, hport]
    | some port => simp
  have hmtus : some (config.mtu.getD mtu) = running.mtu ↔
      config.mtu = running.mtu ∨ config.mtu = none := by
    cases hconfig : config.mtu <;> simp [hmtu]
  constructor
  · intro h
    have hexternal : (config.withDefaults mtu).externalOpenvswitch = running.externalOpenvswitch :=
      congrArg externalOpenvswitch h
    exact ⟨(Mode.orDefault_eq_iff hmode).mp (congrArg mode h),
      hports.mp (congrArg vxlanPort h), hmtus.mp (congrArg SdnConfig.mtu h), hexternal⟩
  · intro h
    have hparts : config.withDefaults mtu =
        ⟨running.mode, running.vxlanPort, running.mtu, running.externalOpenvswitch⟩ := by
      rw [withDefaults, (Mode.orDefault_eq_iff hmode).mpr h.mode, hports.mpr h.vxlanPort,
        hmtus.mpr h.mtu, h.external]
    exact hparts

theorem SameOverlay.accepted {plugin : String} {port mtu : UInt32} (h : a.SameOverlay b)
    (ha : a.Accepted plugin port mtu) : b.Accepted plugin port mtu where
  isKnown := h.mode_eq ▸ ha.isKnown
  pluginName_eq := h.mode_eq ▸ ha.pluginName_eq
  vxlanPort_eq := h.vxlanPort_eq ▸ ha.vxlanPort_eq
  vxlanPort_le := ha.vxlanPort_le
  mtu_eq := h.mtu_eq ▸ ha.mtu_eq
  mtu_le := ha.mtu_le

end SdnConfig

namespace NetworkSpec

theorem unsafeChanges_eq_nil {previous next : NetworkSpec} :
    previous.unsafeChanges next = [] ↔ previous.sdn? = next.sdn? := by
  unfold unsafeChanges
  split <;> simp_all

/-- Networks without findings that differ only in their blocks are rendered alike if the blocks make
the same overlay. -/
theorem render_eq_of_sameOverlay {spec other : NetworkSpec} {a b : SdnConfig} {plugin : String}
    {port mtu : UInt32} (hspec : spec.sdn? = some a) (hother : other.sdn? = some b)
    (ha : a.Accepted plugin port mtu) (hsame : a.SameOverlay b)
    (hservice : spec.serviceNetwork = other.serviceNetwork)
    (hclusters : spec.clusterNetworks = other.clusterNetworks)
    (hproxy : spec.kubeProxyConfig = other.kubeProxyConfig) (options : RenderOptions)
    (files : Files) : spec.render options files = other.render options files := by
  have hb := hsame.accepted ha
  have hnode : NodeConfig.ofSpec spec = NodeConfig.ofSpec other := by
    rw [nodeConfig_of_accepted hspec ha, nodeConfig_of_accepted hother hb, hproxy]
  have hcontroller : ControllerConfig.ofSpec spec = ControllerConfig.ofSpec other := by
    rw [controllerConfig_of_accepted hspec ha, controllerConfig_of_accepted hother hb, hclusters,
      hservice]
  have hdata : spec.renderData options = other.renderData options := by
    simp only [renderData, requireSdn, hspec, hother, hnode, hcontroller, OverlayConfig.renderData,
      hsame.installs_eq, bind, Except.bind]
  rw [render, render, hdata]

/-- Of two networks with their defaults one can replace the other if they make the same overlay and
both say, or both leave open, who runs openvswitch; else there is one finding. A network that takes
its defaults from the one it replaces can do so if it restates the settings of the other, as one
with the same block does. -/
theorem unsafeChanges_withDefaults (spec next : NetworkSpec)
    (previous previous' : Option NetworkSpec) (hostMtu hostMtu' : UInt32) :
    let applied := spec.withDefaults previous hostMtu
    let other := next.withDefaults previous' hostMtu'
    ∃ running wanted, applied.sdn? = some running ∧ other.sdn? = some wanted ∧
      (applied.unsafeChanges other = [] ↔ running.SameOverlay wanted ∧
        (running.externalOpenvswitch = none ↔ wanted.externalOpenvswitch = none)) ∧
      (applied.unsafeChanges other = [] ∨ applied.unsafeChanges other = [.sdnConfig]) ∧
      (applied.unsafeChanges (next.withDefaults (some applied) hostMtu') = [] ↔
        (next.sdn?.getD .initial).Restates running) ∧
      (next.sdn? = spec.sdn? →
        applied.unsafeChanges (next.withDefaults (some applied) hostMtu') = []) := by
  intro applied other
  let running := (spec.sdn?.getD .initial).withDefaults
    ((appliedMtu? previous).getD (overlayMtu hostMtu))
  have hrunning : applied.sdn? = some running := sdn?_withDefaults spec previous hostMtu
  obtain ⟨mtu, hmtu⟩ : ∃ mtu, running.mtu = some mtu := ⟨_, rfl⟩
  have happlied : appliedMtu? (some applied) = some mtu := by simp [appliedMtu?, hrunning, hmtu]
  have hrestates (config : SdnConfig) : config.withDefaults mtu = running ↔ config.Restates running :=
    SdnConfig.withDefaults_eq_iff (Mode.orDefault_orDefault _) (Option.some_ne_none _) hmtu
  have hnext : applied.unsafeChanges (next.withDefaults (some applied) hostMtu') = [] ↔
      (next.sdn?.getD .initial).Restates running := by
    rw [unsafeChanges_eq_nil, hrunning, sdn?_withDefaults, happlied, Option.getD_some,
      Option.some.injEq, eq_comm, hrestates]
  refine ⟨running, _, hrunning, sdn?_withDefaults next previous' hostMtu', ?_, ?_, hnext,
    fun hsame => ?_⟩
  · rw [unsafeChanges_eq_nil, hrunning, sdn?_withDefaults, Option.some.injEq,
      SdnConfig.eq_iff_sameOverlay]
  · unfold unsafeChanges
    split <;> simp
  · rw [hnext, hsame, ← hrestates]
    exact SdnConfig.withDefaults_of_mtu hmtu

def plainNetwork (external : Option Bool) : NetworkSpec :=
  ⟨"172.30.0.0/16", [⟨"10.128.0.0/14", 9⟩],
    .openShiftSdn (some ⟨.networkPolicy, none, none, external⟩), none, none⟩

/-- A running network is not allowed to say that its openvswitch is installed, though it is, and
though not one manifest would change. -/
theorem unsafeChanges_plainNetwork :
    ∃ applied next running wanted, applied = (plainNetwork none).withDefaults none 1500 ∧
      next = (plainNetwork (some false)).withDefaults (some applied) 1500 ∧
      applied.errors = [] ∧ next.errors = [] ∧
      applied.sdn? = some running ∧ next.sdn? = some wanted ∧ running.SameOverlay wanted ∧
      (∀ options files, applied.render options files = next.render options files) ∧
      applied.unsafeChanges next = [.sdnConfig] := by
  have hvalid : ((plainNetwork none).withDefaults none 1500).errors = [] := by decide +kernel
  obtain ⟨running, plugin, port, mtu, hrunning, haccepted⟩ := accepted_of_errors hvalid
  obtain rfl := Option.some.inj hrunning
  have hsame : SdnConfig.SameOverlay ⟨.networkPolicy, some 4789, some 1450, none⟩
      ⟨.networkPolicy, some 4789, some 1450, some false⟩ := ⟨rfl, rfl, rfl, rfl⟩
  exact ⟨_, _, _, _, rfl, rfl, hvalid, by decide +kernel, rfl, rfl, hsame,
    render_eq_of_sameOverlay rfl rfl haccepted hsame rfl rfl rfl, by decide⟩

end NetworkSpec

end OverlayConfig
