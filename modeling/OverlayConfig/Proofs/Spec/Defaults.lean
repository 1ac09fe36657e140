import OverlayConfig.Proofs.Results
import OverlayConfig.Reconcile
/-!
What a network has once it has its defaults, and what it has besides once nothing is wrong with it:
everything that the two documents and the templates ask for.
-/
set_option autoImplicit false

namespace OverlayConfig

theorem Mode.orDefault_of_text {mode : Mode} (h : mode.text ≠ "") : mode.orDefault = mode := by
  cases mode with
  | unknown text => exact if_neg h
  | _ => rfl

theorem Mode.text_orDefault (mode : Mode) : mode.orDefault.text ≠ "" := by
  cases mode with
  | unknown other => by_cases h : other = "" <;> simp [orDefault, text, h]
  | _ => simp [orDefault, text]

theorem Mode.orDefault_orDefault (mode : Mode) : mode.orDefault.orDefault = mode.orDefault :=
  orDefault_of_text mode.text_orDefault

theorem Mode.pluginName?_of_isKnown {mode : Mode} (h : mode.isKnown = true) :
    ∃ plugin, mode.pluginName? = some plugin := by
  cases mode with
  | unknown text => simp [isKnown] at h
  | _ => exact ⟨_, rfl⟩

/-- What a block sets is the same in another one. An empty text sets no mode. -/
structure SdnConfig.KeptIn (config filled : SdnConfig) : Prop where
  mode : config.mode.text ≠ "" → filled.mode = config.mode
  vxlanPort : ∀ port, config.vxlanPort = some port → filled.vxlanPort = some port
  mtu : ∀ mtu, config.mtu = some mtu → filled.mtu = some mtu
  external : filled.externalOpenvswitch = config.externalOpenvswitch

/-- What a proxy sets is the same in another one, and arguments get no company. -/
structure ProxyConfig.KeptIn (proxy filled : ProxyConfig) : Prop where
  bindAddress : proxy.bindAddress ≠ "" → filled.bindAddress = proxy.bindAddress
  iptablesSyncPeriod : filled.iptablesSyncPeriod = proxy.iptablesSyncPeriod
  proxyArguments : proxy.proxyArguments ≠ [] → filled.proxyArguments = proxy.proxyArguments

structure NetworkSpec.KeptIn (spec filled : NetworkSpec) : Prop where
  serviceNetwork : filled.serviceNetwork = spec.serviceNetwork
  clusterNetworks : filled.clusterNetworks = spec.clusterNetworks
  sdn : ∀ config, spec.sdn? = some config →
    ∃ config', filled.sdn? = some config' ∧ config.KeptIn config'
  deployKubeProxy : ∀ deploys, spec.deployKubeProxy = some deploys →
    filled.deployKubeProxy = some deploys
  kubeProxyConfig : ∀ proxy, spec.kubeProxyConfig = some proxy →
    ∃ proxy', filled.kubeProxyConfig = some proxy' ∧ proxy.KeptIn proxy'

structure SdnConfig.IsFilled (config : SdnConfig) : Prop where
  mode : config.mode.text ≠ ""
  vxlanPort : ∃ port, config.vxlanPort = some port
  mtu : ∃ mtu, config.mtu = some mtu

structure ProxyConfig.IsFilled (proxy : ProxyConfig) : Prop where
  bindAddress : proxy.bindAddress ≠ ""
  proxyArguments : proxy.proxyArguments ≠ []

structure NetworkSpec.IsFilled (spec : NetworkSpec) : Prop where
  sdn : ∃ config, spec.sdn? = some config ∧ config.IsFilled
  deployKubeProxy : ∃ deploys, spec.deployKubeProxy = some deploys
  kubeProxyConfig : ∃ proxy, spec.kubeProxyConfig = some proxy ∧ proxy.IsFilled

namespace SdnConfig

theorem keptIn_withDefaults (config : SdnConfig) (mtu : UInt32) :
    config.KeptIn (config.withDefaults mtu) where
  mode := Mode.orDefault_of_text
  vxlanPort port h := by simp [withDefaults, h]
  mtu set h := by simp [withDefaults, h]
  external := rfl

theorem isFilled_withDefaults (config : SdnConfig) (mtu : UInt32) :
    (config.withDefaults mtu).IsFilled :=
  ⟨Mode.text_orDefault config.mode, ⟨_, rfl⟩, ⟨_, rfl⟩⟩

theorem IsFilled.withDefaults_eq {config : SdnConfig} (h : config.IsFilled) (mtu : UInt32) :
    config.withDefaults mtu = config := by
  obtain ⟨mode, port, set, external⟩ := config
  obtain ⟨hmode, ⟨_, rfl⟩, ⟨_, rfl⟩⟩ := h
  simp [withDefaults, Mode.orDefault_of_text hmode]

/-- The MTU that a block would take does not matter beyond the MTU that it then has. -/
theorem withDefaults_of_mtu {config : SdnConfig} {mtu mtu' : UInt32}
    (h : (config.withDefaults mtu).mtu = some mtu') :
    config.withDefaults mtu' = config.withDefaults mtu := by
  simp only [withDefaults, Option.some.injEq] at h
  simp only [withDefaults, mk.injEq, Option.some.injEq, true_and, and_true]
  cases hc : config.mtu with
  | none => simpa [hc] using h.symm
  | some v => rfl

/-- A block as a running overlay has it: a known mode with its plugin, and a port and an MTU that
are set and in range. -/
structure Accepted (config : SdnConfig) (plugin : String) (port mtu : UInt32) : Prop where
  isKnown : config.mode.isKnown = true
  pluginName_eq : config.mode.pluginName? = some plugin
  vxlanPort_eq : config.vxlanPort = some port
  vxlanPort_le : port ≤ 65535
  mtu_eq : config.mtu = some mtu
  mtu_le : mtu ≤ 65536

theorem errors_eq_nil {config : SdnConfig} : config.errors = [] ↔
    config.mtuErrors = [] ∧ config.modeErrors = [] ∧ config.portErrors = [] := by
  simp [errors]

/-- A block with its defaults and without findings is one that an overlay can run with. -/
theorem accepted_withDefaults {config : SdnConfig} {mtu : UInt32}
    (h : (config.withDefaults mtu).errors = []) :
    ∃ plugin port mtu', (config.withDefaults mtu).Accepted plugin port mtu' := by
  obtain ⟨hmtu, hmode, hport⟩ := errors_eq_nil.mp h
  have hknown : (config.withDefaults mtu).mode.isKnown = true := by
    simp only [modeErrors] at hmode
    split at hmode
    · cases hmode
    · next hm =>
      cases hk : (config.withDefaults mtu).mode with
      | unknown text => exact absurd hk (hm text)
      | _ => rfl
  obtain ⟨plugin, hplugin⟩ := Mode.pluginName?_of_isKnown hknown
  refine ⟨plugin, config.vxlanPort.getD defaultVxlanPort, config.mtu.getD mtu, hknown, hplugin, rfl,
    ?_, rfl, ?_⟩
  · refine UInt32.not_lt.mp fun hlt => ?_
    have hlt' : maxPort < config.vxlanPort.getD defaultVxlanPort := hlt
    simp [portErrors, withDefaults, hlt'] at hport
  · refine UInt32.not_lt.mp fun hlt => ?_
    have hlt' : maxMtu < config.mtu.getD mtu := hlt
    simp [mtuErrors, withDefaults, hlt'] at hmtu

end SdnConfig

namespace ProxyConfig

theorem keptIn_withDefaults (proxy : ProxyConfig) : proxy.KeptIn proxy.withDefaults where
  bindAddress h := if_neg h
  iptablesSyncPeriod := rfl
  proxyArguments h := if_neg (by simpa using h)

theorem isFilled_withDefaults (proxy : ProxyConfig) : proxy.withDefaults.IsFilled := by
  constructor
  · by_cases h : proxy.bindAddress = "" <;> simp [withDefaults, h]
  · by_cases h : proxy.proxyArguments = [] <;> simp [withDefaults, defaultProxyArguments, h]

theorem IsFilled.withDefaults_eq {proxy : ProxyConfig} (h : proxy.IsFilled) :
    proxy.withDefaults = proxy := by
  have haddress : proxy.withDefaults.bindAddress = proxy.bindAddress := if_neg h.bindAddress
  have harguments : proxy.withDefaults.proxyArguments = proxy.proxyArguments :=
    if_neg (by simpa using h.proxyArguments)
  cases proxy
  simp_all [withDefaults]

end ProxyConfig

namespace NetworkSpec

@[simp] theorem sdn?_withDefaults (spec : NetworkSpec) (previous : Option NetworkSpec)
    (hostMtu : UInt32) :
    (spec.withDefaults previous hostMtu).sdn? = some ((spec.sdn?.getD .initial).withDefaults
      ((appliedMtu? previous).getD (overlayMtu hostMtu))) := rfl

theorem keptIn_withDefaults (spec : NetworkSpec) (previous : Option NetworkSpec)
    (hostMtu : UInt32) : spec.KeptIn (spec.withDefaults previous hostMtu) where
  serviceNetwork := rfl
  clusterNetworks := rfl
  sdn config h := ⟨_, sdn?_withDefaults spec previous hostMtu, by
    rw [h]
    exact config.keptIn_withDefaults _⟩
  deployKubeProxy deploys h := by simp [withDefaults, h]
  kubeProxyConfig proxy h := ⟨_, rfl, by
    rw [h]
    exact proxy.keptIn_withDefaults⟩

theorem isFilled_withDefaults (spec : NetworkSpec) (previous : Option NetworkSpec)
    (hostMtu : UInt32) : (spec.withDefaults previous hostMtu).IsFilled :=
  ⟨⟨_, sdn?_withDefaults spec previous hostMtu, SdnConfig.isFilled_withDefaults _ _⟩, ⟨_, rfl⟩,
    ⟨_, rfl, ProxyConfig.isFilled_withDefaults _⟩⟩

theorem IsFilled.withDefaults_eq {spec : NetworkSpec} (h : spec.IsFilled)
    (previous : Option NetworkSpec) (hostMtu : UInt32) :
    spec.withDefaults previous hostMtu = spec := by
  obtain ⟨service, clusters, ⟨block⟩, deploys, proxy⟩ := spec
  obtain ⟨⟨config, hconfig, hblock⟩, ⟨_, rfl⟩, ⟨_, rfl, hproxy⟩⟩ := h
  obtain rfl : block = some config := hconfig
  simp [withDefaults, sdn?, DefaultNetwork.sdn?, hblock.withDefaults_eq, hproxy.withDefaults_eq]

theorem withDefaults_withDefaults (spec : NetworkSpec) (previous previous' : Option NetworkSpec)
    (hostMtu hostMtu' : UInt32) :
    (spec.withDefaults previous hostMtu).withDefaults previous' hostMtu' =
      spec.withDefaults previous hostMtu :=
  (spec.isFilled_withDefaults previous hostMtu).withDefaults_eq previous' hostMtu'

/-- Defaults that are derived from a network with the same backend come out the same. -/
theorem withDefaults_of_sdn? {spec : NetworkSpec} {previous : Option NetworkSpec}
    {hostMtu : UInt32} (hostMtu' : UInt32) {running : NetworkSpec}
    (h : running.sdn? = (spec.withDefaults previous hostMtu).sdn?) :
    spec.withDefaults (some running) hostMtu' = spec.withDefaults previous hostMtu := by
  have hmtu : (appliedMtu? (some running)).getD (overlayMtu hostMtu') =
      (spec.sdn?.getD .initial).mtu.getD
        ((appliedMtu? previous).getD (overlayMtu hostMtu)) := by
    simp [appliedMtu?, h, SdnConfig.withDefaults]
  have hconfig : (spec.sdn?.getD .initial).withDefaults ((spec.sdn?.getD .initial).mtu.getD
      ((appliedMtu? previous).getD (overlayMtu hostMtu))) =
      (spec.sdn?.getD .initial).withDefaults ((appliedMtu? previous).getD (overlayMtu hostMtu)) :=
    SdnConfig.withDefaults_of_mtu rfl
  simp only [withDefaults, hmtu, hconfig]

/-- A network with its defaults and without findings has a block that an overlay can run with. -/
theorem accepted_of_errors {spec : NetworkSpec} {previous : Option NetworkSpec}
    {hostMtu : UInt32} (h : (spec.withDefaults previous hostMtu).errors = []) :
    ∃ config plugin port mtu, (spec.withDefaults previous hostMtu).sdn? = some config ∧
      config.Accepted plugin port mtu := by
  have hsdn := sdn?_withDefaults spec previous hostMtu
  simp only [errors, sdnErrors, hsdn, List.append_eq_nil_iff] at h
  obtain ⟨plugin, port, mtu, hc⟩ := SdnConfig.accepted_withDefaults h.2.2
  exact ⟨_, plugin, port, mtu, hsdn, hc⟩

theorem nodeConfig_of_accepted {spec : NetworkSpec} {config : SdnConfig} {plugin : String}
    {port mtu : UInt32} (hs : spec.sdn? = some config) (hc : config.Accepted plugin port mtu) :
    NodeConfig.ofSpec spec = .ok ⟨(spec.kubeProxyConfig.getD .empty).bindAddress,
      (spec.kubeProxyConfig.getD .empty).iptablesSyncPeriod,
      (spec.kubeProxyConfig.getD .empty).proxyArguments, plugin, mtu⟩ := by
  simp [NodeConfig.ofSpec, requireSdn, SdnConfig.requirePlugin, hs, hc.pluginName_eq, hc.mtu_eq,
    bind, Except.bind]

theorem controllerConfig_of_accepted {spec : NetworkSpec} {config : SdnConfig} {plugin : String}
    {port mtu : UInt32} (hs : spec.sdn? = some config) (hc : config.Accepted plugin port mtu) :
    ControllerConfig.ofSpec spec =
      .ok ⟨plugin, spec.clusterNetworks, spec.serviceNetwork, port⟩ := by
  simp [ControllerConfig.ofSpec, requireSdn, SdnConfig.requirePlugin, hs, hc.pluginName_eq,
    hc.vxlanPort_eq, bind, Except.bind]

theorem renderData_of_documents {spec : NetworkSpec} {config : SdnConfig} {node : NodeConfig}
    {controller : ControllerConfig} (options : RenderOptions) (hs : spec.sdn? = some config)
    (hn : NodeConfig.ofSpec spec = .ok node) (hr : ControllerConfig.ofSpec spec = .ok controller) :
    spec.renderData options = .ok (OverlayConfig.renderData options config node controller) := by
  simp [renderData, requireSdn, hs, hn, hr, bind, Except.bind]

theorem render_eq_ok {spec : NetworkSpec} {options : RenderOptions} {files : Files}
    {objects : List Manifest} : spec.render options files = .ok objects ↔
      ∃ data rendered, spec.renderData options = .ok data ∧
        TemplateDirectory.render files (joinPath options.manifestDir sdnDirectory) data =
          .ok rendered ∧ ManifestSet.check rendered = .ok objects := by
  simp only [render, bind_eq_ok, mapError_eq_ok, exists_and_left]

/-- Defaults fill what a network leaves open and nothing else, and then there is nothing left to
fill, whatever further defaults would be derived from. -/
theorem withDefaults_closure (spec : NetworkSpec) (previous : Option NetworkSpec)
    (hostMtu : UInt32) :
    let filled := spec.withDefaults previous hostMtu
    spec.KeptIn filled ∧ filled.IsFilled ∧
      ∀ (previous' : Option NetworkSpec) (hostMtu' : UInt32),
        filled.withDefaults previous' hostMtu' = filled :=
  ⟨spec.keptIn_withDefaults previous hostMtu, spec.isFilled_withDefaults previous hostMtu,
    fun previous' hostMtu' => spec.withDefaults_withDefaults previous previous' hostMtu hostMtu'⟩

end NetworkSpec

end OverlayConfig
