import OverlayConfig.Proofs.Spec.Defaults
import OverlayConfig.Proofs.Spec.Wire
/-!
What is found wrong with a network that got its defaults, said of what the network sets itself. A
default is never wrong, apart from an MTU that comes from elsewhere, and it never takes the place of
something wrong.
-/
set_option autoImplicit false

namespace OverlayConfig

def Mode.names : List String := ["NetworkPolicy", "Multitenant", "Subnet"]

theorem Mode.not_mem_names {text : String} (h : (Mode.unknown text).IsOfText) :
    text ∉ Mode.names := by
  intro hmem
  simp only [names, List.mem_cons, List.not_mem_nil, or_false] at hmem
  have hof : ofText text = .unknown text := h
  rcases hmem with rfl | rfl | rfl <;> cases hof

def ConfigError.isInvalidMtu : ConfigError → Bool
  | .invalidMtu _ => true
  | _ => false

namespace SdnConfig

variable {config : SdnConfig}

theorem modeErrors_withDefaults (h : config.mode.IsOfText) (mtu : UInt32) :
    (config.withDefaults mtu).modeErrors =
      if config.mode.text ≠ "" ∧ config.mode.text ∉ Mode.names then
        [.invalidMode config.mode.text]
      else [] := by
  cases hmode : config.mode with
  | unknown text =>
    have hnames : text ∉ Mode.names := Mode.not_mem_names (hmode ▸ h)
    by_cases hempty : text = "" <;>
      simp [modeErrors, withDefaults, Mode.orDefault, Mode.text, hmode, hempty, hnames]
  | _ => simp [modeErrors, withDefaults, Mode.orDefault, Mode.text, Mode.names, hmode]

theorem portErrors_withDefaults (config : SdnConfig) (mtu : UInt32) :
    (config.withDefaults mtu).portErrors = config.portErrors := by
  cases hport : config.vxlanPort with
  | none =>
    have hdefault : ¬ maxPort < defaultVxlanPort := by decide
    simp [portErrors, withDefaults, hport, hdefault]
  | some port => simp [portErrors, withDefaults, hport]

theorem portErrors_eq (config : SdnConfig) :
    config.portErrors = (config.vxlanPort.toList.filter (65535 < ·)).map .invalidVxlanPort := by
  cases hport : config.vxlanPort with
  | none => simp [portErrors, hport]
  | some port =>
    by_cases h : 65535 < port <;> simp [portErrors, maxPort, hport, h]

theorem mtuErrors_withDefaults (config : SdnConfig) (mtu : UInt32) :
    (config.withDefaults mtu).mtuErrors =
      if maxMtu < config.mtu.getD mtu then [.invalidMtu (config.mtu.getD mtu)] else [] := rfl

/-- What is wrong with a completed backend, apart from an MTU that it did not set, is what was wrong
with it before, apart from the mode with the empty text. -/
theorem filter_errors_withDefaults (config : SdnConfig) (mtu : UInt32) :
    (config.withDefaults mtu).errors.filter (fun e => config.mtu.isSome || !e.isInvalidMtu) =
      config.errors.filter (· ≠ .invalidMode "") := by
  have hmtu : (config.withDefaults mtu).mtuErrors.filter
      (fun e => config.mtu.isSome || !e.isInvalidMtu) =
        config.mtuErrors.filter (· ≠ .invalidMode "") := by
    rw [mtuErrors_withDefaults, mtuErrors]
    cases config.mtu with
    | none => split <;> simp [ConfigError.isInvalidMtu]
    | some set => simp only [Option.getD_some]; split <;> simp
  have hmode : (config.withDefaults mtu).modeErrors.filter
      (fun e => config.mtu.isSome || !e.isInvalidMtu) =
        config.modeErrors.filter (· ≠ .invalidMode "") := by
    cases hmode : config.mode with
    | unknown text =>
      by_cases hempty : text = "" <;>
        simp [modeErrors, withDefaults, Mode.orDefault, hmode, hempty, ConfigError.isInvalidMtu]
    | _ => simp [modeErrors, withDefaults, Mode.orDefault, hmode]
  have hport : (config.withDefaults mtu).portErrors.filter
      (fun e => config.mtu.isSome || !e.isInvalidMtu) =
        config.portErrors.filter (· ≠ .invalidMode "") := by
    rw [portErrors_withDefaults, portErrors]
    cases config.vxlanPort with
    | none => rfl
    | some port => simp only; split <;> simp [ConfigError.isInvalidMtu]
  rw [errors, errors, List.filter_append, List.filter_append, List.filter_append,
    List.filter_append, hmtu, hmode, hport]

end SdnConfig

namespace NetworkSpec

variable {spec : NetworkSpec}

/-- The MTU that a network comes to: its own one, else the one that was applied before, else that of
the host less the bytes of the encapsulation, at least zero. -/
def resolvedMtu (spec : NetworkSpec) (previous : Option NetworkSpec) (hostMtu : UInt32) : UInt32 :=
  match spec.sdn?.bind SdnConfig.mtu, previous.bind fun p => p.sdn?.bind SdnConfig.mtu with
  | some mtu, _ => mtu
  | none, some mtu => mtu
  | none, none => UInt32.ofNat (hostMtu.toNat - 50)

def modeText (spec : NetworkSpec) : String := (spec.sdn?.map fun config => config.mode.text).getD ""

/-- What is wrong with a network that is to be completed: the service network, the cluster networks
one after the other, that there are none, the MTU, the mode and the port. -/
def findings (spec : NetworkSpec) (previous : Option NetworkSpec) (hostMtu : UInt32) :
    List ConfigError :=
  (if Cidr.isValid spec.serviceNetwork then [] else [.invalidServiceNetwork spec.serviceNetwork])
    ++ ((spec.clusterNetworks.map ClusterNetwork.cidr).filter fun cidr => !Cidr.isValid cidr).map
      .invalidClusterNetwork
    ++ (if spec.clusterNetworks = [] then [.emptyClusterNetworks] else [])
    ++ (if 65536 < spec.resolvedMtu previous hostMtu then
        [.invalidMtu (spec.resolvedMtu previous hostMtu)]
      else [])
    ++ (if spec.modeText ≠ "" ∧ spec.modeText ∉ Mode.names then [.invalidMode spec.modeText]
      else [])
    ++ ((spec.sdn?.bind SdnConfig.vxlanPort).toList.filter (65535 < ·)).map .invalidVxlanPort

theorem addressErrors_eq (spec : NetworkSpec) : spec.addressErrors =
    (if Cidr.isValid spec.serviceNetwork then [] else [.invalidServiceNetwork spec.serviceNetwork])
      ++ ((spec.clusterNetworks.map ClusterNetwork.cidr).filter fun cidr => !Cidr.isValid cidr).map
        .invalidClusterNetwork := by
  rw [addressErrors, List.filter_map, List.map_map]
  rfl

theorem getD_mtu (spec : NetworkSpec) (previous : Option NetworkSpec) (hostMtu : UInt32) :
    (spec.sdn?.getD .initial).mtu.getD ((appliedMtu? previous).getD (overlayMtu hostMtu)) =
      spec.resolvedMtu previous hostMtu := by
  have happlied : appliedMtu? previous = previous.bind fun p => p.sdn?.bind SdnConfig.mtu := rfl
  have hset : (spec.sdn?.getD .initial).mtu = spec.sdn?.bind SdnConfig.mtu := by
    cases spec.sdn? <;> rfl
  rw [resolvedMtu, happlied, hset]
  cases spec.sdn?.bind SdnConfig.mtu with
  | some mtu => rfl
  | none => cases previous.bind fun p => p.sdn?.bind SdnConfig.mtu <;> rfl

theorem modeErrors_getD (h : ∀ config ∈ spec.sdn?, config.mode.IsOfText) (mtu : UInt32) :
    ((spec.sdn?.getD .initial).withDefaults mtu).modeErrors =
      if spec.modeText ≠ "" ∧ spec.modeText ∉ Mode.names then [.invalidMode spec.modeText]
      else [] := by
  rw [modeText]
  cases hsdn : spec.sdn? with
  | none => simp [SdnConfig.modeErrors, SdnConfig.withDefaults, SdnConfig.initial, Mode.orDefault]
  | some config => exact SdnConfig.modeErrors_withDefaults (h config hsdn) mtu

theorem portErrors_getD (spec : NetworkSpec) (mtu : UInt32) :
    ((spec.sdn?.getD .initial).withDefaults mtu).portErrors =
      ((spec.sdn?.bind SdnConfig.vxlanPort).toList.filter (65535 < ·)).map .invalidVxlanPort := by
  rw [SdnConfig.portErrors_withDefaults]
  cases spec.sdn? with
  | none => rfl
  | some config => exact config.portErrors_eq

/-- The findings about a completed network are those about its addresses and those about the
completed settings of its backend. -/
theorem errors_withDefaults_eq (spec : NetworkSpec) (previous : Option NetworkSpec)
    (hostMtu : UInt32) :
    (spec.withDefaults previous hostMtu).errors =
      spec.addressErrors ++ ((if spec.clusterNetworks.isEmpty then [.emptyClusterNetworks] else [])
        ++ ((spec.sdn?.getD .initial).withDefaults
            ((appliedMtu? previous).getD (overlayMtu hostMtu))).errors) := rfl

theorem errors_withDefaults_eq_findings (h : ∀ config ∈ spec.sdn?, config.mode.IsOfText)
    (previous : Option NetworkSpec) (hostMtu : UInt32) :
    (spec.withDefaults previous hostMtu).errors = spec.findings previous hostMtu := by
  have hempty : spec.clusterNetworks.isEmpty = true ↔ spec.clusterNetworks = [] :=
    List.isEmpty_iff
  rw [errors_withDefaults_eq, SdnConfig.errors, modeErrors_getD h, portErrors_getD,
    SdnConfig.mtuErrors_withDefaults, getD_mtu, addressErrors_eq, findings]
  simp only [hempty, List.append_assoc]
  rfl

theorem filter_addressErrors {p : ConfigError → Bool}
    (hservice : ∀ text, p (.invalidServiceNetwork text) = true)
    (hcluster : ∀ text, p (.invalidClusterNetwork text) = true) (spec : NetworkSpec) :
    spec.addressErrors.filter p = spec.addressErrors := by
  refine List.filter_eq_self.mpr fun e he => ?_
  rcases List.mem_append.mp he with he | he
  · split at he
    · cases he
    · rw [List.mem_singleton.mp he]
      exact hservice _
  · obtain ⟨network, -, rfl⟩ := List.mem_map.mp he
    exact hcluster _

theorem filter_errors_withDefaults (spec : NetworkSpec) (previous : Option NetworkSpec)
    (hostMtu : UInt32) :
    (spec.withDefaults previous hostMtu).errors.filter
        (fun e => (spec.sdn?.bind SdnConfig.mtu).isSome || !e.isInvalidMtu) =
      spec.errors.filter (· ≠ .invalidMode "") := by
  have haddress (p : ConfigError → Bool) (hservice : ∀ text, p (.invalidServiceNetwork text) = true)
      (hcluster : ∀ text, p (.invalidClusterNetwork text) = true) :=
    filter_addressErrors hservice hcluster spec
  rw [errors_withDefaults_eq, errors, sdnErrors, List.filter_append, List.filter_append,
    List.filter_append, List.filter_append, haddress _ (by simp [ConfigError.isInvalidMtu])
    (by simp [ConfigError.isInvalidMtu]), haddress _ (by simp) (by simp)]
  congr 2
  · split <;> simp [ConfigError.isInvalidMtu]
  · cases spec.sdn? with
    | none => exact SdnConfig.initial.filter_errors_withDefaults _
    | some config => exact config.filter_errors_withDefaults _

/-- What is found wrong with a completed network: every bad value that the network sets, each as
often as it is set, and a bad MTU that it gets. So the defaults hide nothing but the mode with the
empty text, which stands for no mode, and add nothing but that MTU. -/
theorem errors_withDefaults {v : Json} {spec : NetworkSpec} (h : ofJson v = .ok spec)
    (previous : Option NetworkSpec) (hostMtu : UInt32) :
    (spec.withDefaults previous hostMtu).errors = spec.findings previous hostMtu ∧
      (spec.withDefaults previous hostMtu).errors.filter
          (fun e => (spec.sdn?.bind SdnConfig.mtu).isSome || !e.isInvalidMtu) =
        spec.errors.filter (· ≠ .invalidMode "") :=
  ⟨errors_withDefaults_eq_findings (isOfText_of_ofJson h) previous hostMtu,
    filter_errors_withDefaults spec previous hostMtu⟩

def faultyForm : Json :=
  let cluster : Json := .array [.string "10.128.0.0/33", .int 9]
  .array [.string "172.30.0.0", .array [cluster, .array [.string "fd01::/48", .int 9], cluster],
    .array [.string "OpenShiftSDN", .array [.string "Bridge", .int 65536]]]

def faultyNetwork : NetworkSpec :=
  ⟨"172.30.0.0", [⟨"10.128.0.0/33", 9⟩, ⟨"fd01::/48", 9⟩, ⟨"10.128.0.0/33", 9⟩],
    .openShiftSdn (some ⟨.unknown "Bridge", some 65536, none, none⟩), none, none⟩

theorem errors_withDefaults_faulty : ofJson faultyForm = .ok faultyNetwork ∧
    (faultyNetwork.withDefaults none 65587).errors =
      [.invalidServiceNetwork "172.30.0.0", .invalidClusterNetwork "10.128.0.0/33",
        .invalidClusterNetwork "10.128.0.0/33", .invalidMtu 65537, .invalidMode "Bridge",
        .invalidVxlanPort 65536] ∧
    (faultyNetwork.withDefaults none 65587).errors.filter (!·.isInvalidMtu) =
      faultyNetwork.errors := by
  have h : ofJson faultyForm = .ok faultyNetwork := by rfl
  obtain ⟨hfindings, hkept⟩ := errors_withDefaults h none 65587
  refine ⟨h, hfindings.trans ?_, hkept.trans ?_⟩
  · decide +kernel
  · decide +kernel

end NetworkSpec

end OverlayConfig
