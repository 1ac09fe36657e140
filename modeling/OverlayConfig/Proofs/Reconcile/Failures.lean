import Mathlib.Control.Monad.Basic
import OverlayConfig.Proofs.Manifest.Checks
import OverlayConfig.Proofs.Reconcile.Runs
/-!
The ways in which a cycle can fail. What the defaults set and the validation asks for is all that
the two documents need, and what the check of a set asks for is all that an object needs to be
applied; so of the errors of the later steps only those are left that depend on the templates.
-/
set_option autoImplicit false

namespace OverlayConfig

open TemplateDirectory

inductive RenderError.IsOfTemplates : RenderError → Prop where
  | file (path : String) (cause : IoError) : IsOfTemplates (.file path cause)
  | template (path : String) (kind : Template.ErrorKind) : IsOfTemplates (.template path kind)
  | yaml (path : String) : IsOfTemplates (.yaml path)
  | object (path kindName : String) : IsOfTemplates (.object path (.notAnObject kindName))

section Templates

variable {path directory : String} {e : RenderError} {data : Json}

theorem Manifest.ofJson_eq_error {v : Json} {cause : ObjectError}
    (h : Manifest.ofJson v = .error cause) : cause = .notAnObject v.kindName := by
  cases v <;> cases h <;> rfl

theorem isOfTemplates_of_objectsOf {vs : List Json} (h : objectsOf path vs = .error e) :
    e.IsOfTemplates := by
  induction vs with
  | nil => cases h
  | cons v rest ih =>
    rw [objectsOf] at h
    split at h
    · exact ih h
    · rcases bind_eq_error.mp h with hobject | ⟨object, -, h⟩
      · obtain ⟨cause, hcause, rfl⟩ := mapError_eq_error.mp hobject
        rw [Manifest.ofJson_eq_error hcause]
        exact .object path _
      · rcases bind_eq_error.mp h with hrest | ⟨objects, -, h⟩
        · exact ih hrest
        · cases h

theorem isOfTemplates_of_parseDocuments {rendered : List Char}
    (h : parseDocuments path rendered = .error e) : e.IsOfTemplates := by
  rw [parseDocuments] at h
  split at h
  · cases h
  · generalize Yaml.values rendered = read at h
    obtain ⟨vs, failed⟩ := read
    rcases bind_eq_error.mp h with hobjects | ⟨objects, -, h⟩
    · exact isOfTemplates_of_objectsOf hobjects
    · cases failed with
      | false => cases h
      | true =>
        cases h
        exact .yaml path

theorem isOfTemplates_of_renderFile {node : FileNode}
    (h : renderFile path node data = .error e) : e.IsOfTemplates := by
  cases node with
  | text source =>
    change (Template.render source data).mapError (.template path) >>= parseDocuments path =
      .error e at h
    rcases bind_eq_error.mp h with hrendered | ⟨rendered, -, h⟩
    · obtain ⟨kind, -, rfl⟩ := mapError_eq_error.mp hrendered
      exact .template path kind
    · exact isOfTemplates_of_parseDocuments h
  | binary =>
    cases h
    exact .file path _
  | directory entries =>
    cases h
    exact .file path _

theorem isOfTemplates_of_renderFiles {files : List (String × FileNode)}
    (h : renderFiles directory data files = .error e) : e.IsOfTemplates := by
  induction files with
  | nil => cases h
  | cons file rest ih =>
    rcases bind_eq_error.mp h with hfirst | ⟨objects, -, h⟩
    · exact isOfTemplates_of_renderFile hfirst
    · rcases bind_eq_error.mp h with hrest | ⟨more, -, h⟩
      · exact ih hrest
      · cases h

theorem isOfTemplates_of_render {files : Files}
    (h : TemplateDirectory.render files directory data = .error e) : e.IsOfTemplates := by
  rcases bind_eq_error.mp h with hlist | ⟨entries, -, h⟩
  · obtain ⟨cause, -, rfl⟩ := mapError_eq_error.mp hlist
    exact .file directory cause
  · exact isOfTemplates_of_renderFiles h

end Templates

namespace NetworkSpec

variable {spec : NetworkSpec} {options : RenderOptions} {files : Files}

/-- A network with its defaults and without findings has what the documents and the templates ask
for. -/
theorem renderData_of_errors {desired : NetworkSpec} {previous : Option NetworkSpec}
    {hostMtu : UInt32} (h : (desired.withDefaults previous hostMtu).errors = [])
    (options : RenderOptions) :
    ∃ config node controller,
      (desired.withDefaults previous hostMtu).sdn? = some config ∧
      NodeConfig.ofSpec (desired.withDefaults previous hostMtu) = .ok node ∧
      ControllerConfig.ofSpec (desired.withDefaults previous hostMtu) = .ok controller ∧
      (desired.withDefaults previous hostMtu).renderData options =
        .ok (OverlayConfig.renderData options config node controller) := by
  obtain ⟨config, plugin, port, mtu, hs, hc⟩ := accepted_of_errors h
  have hnode := nodeConfig_of_accepted hs hc
  have hcontroller := controllerConfig_of_accepted hs hc
  exact ⟨config, _, _, hs, hnode, hcontroller, renderData_of_documents options hs hnode hcontroller⟩

/-- With its documents made, a network is refused by the templates or by the check of what they
give. -/
theorem render_eq_error {data : Json} {e : RenderError} (hdata : spec.renderData options = .ok data)
    (h : spec.render options files = .error e) :
    e.IsOfTemplates ∨ ∃ rendered,
      TemplateDirectory.render files (joinPath options.manifestDir sdnDirectory) data =
        .ok rendered ∧ ManifestSet.Refuses rendered e := by
  rw [render, hdata] at h
  change TemplateDirectory.render files (joinPath options.manifestDir sdnDirectory) data >>=
    ManifestSet.check = .error e at h
  rcases bind_eq_error.mp h with htemplates | ⟨rendered, hrendered, hcheck⟩
  · exact .inl (isOfTemplates_of_render htemplates)
  · exact .inr ⟨rendered, hrendered, ManifestSet.refuses_of_check hcheck⟩

theorem isComplete_of_render {objects : List Manifest}
    (h : spec.render options files = .ok objects) : ∀ o ∈ objects, o.isComplete = true := by
  simp only [render, bind_eq_ok] at h
  obtain ⟨-, -, rendered, -, hcheck⟩ := h
  exact (ManifestSet.check_eq_ok.mp hcheck).2.2.1

end NetworkSpec

def Manifest.BringsSecrets (object : Manifest) : Prop :=
  object.apiVersion = "v1" ∧ object.kind = "ServiceAccount" ∧
    ∃ secret more, object.get? ["secrets"] = some (.array (secret :: more))

theorem Manifest.checkSupported_eq_error {object : Manifest} {cause : ObjectError}
    (hcomplete : object.isComplete = true) (h : object.checkSupported = .error cause) :
    object.BringsSecrets ∧
      cause = .unsupported object.id "cannot create ServiceAccount with secrets" := by
  obtain ⟨hversion, hkind, hname⟩ := isComplete_iff.mp hcomplete
  rw [checkSupported, if_neg hversion, if_neg hkind, if_neg hname] at h
  split at h
  · next haccount =>
    split at h
    · next secret more hsecrets =>
      cases h
      exact ⟨⟨haccount.1, haccount.2, secret, more, hsecrets⟩, rfl⟩
    · cases h
  · cases h

theorem checkAllSupported_eq_error {objects : List Manifest} {cause : ObjectError}
    (hcomplete : ∀ o ∈ objects, o.isComplete = true)
    (h : checkAllSupported objects = .error cause) :
    ∃ o ∈ objects, o.BringsSecrets ∧
      cause = .unsupported o.id "cannot create ServiceAccount with secrets" := by
  induction objects with
  | nil => cases h
  | cons first rest ih =>
    obtain ⟨hfirst, hrest⟩ := List.forall_mem_cons.mp hcomplete
    rcases bind_eq_error.mp h with hunsupported | ⟨-, -, h⟩
    · exact ⟨first, List.mem_cons_self, Manifest.checkSupported_eq_error hfirst hunsupported⟩
    · obtain ⟨o, ho, hsecrets⟩ := ih hrest h
      exact ⟨o, List.mem_cons_of_mem first ho, hsecrets⟩

section Cycle

variable {host : Host} {spec desired : NetworkSpec} {previous : Option NetworkSpec}
  {e : ReconcileError}

theorem checkValid_eq_error :
    checkValid spec = .error e ↔ spec.errors ≠ [] ∧ e = .invalid spec.errors := by
  unfold checkValid
  cases spec.errors <;> simp [eq_comm]

theorem checkChange_eq_error {next : NetworkSpec} : checkChange previous next = .error e ↔
    ∃ running, previous = some running ∧ running.unsafeChanges next ≠ [] ∧
      e = .unsafeChange (running.unsafeChanges next) := by
  cases previous with
  | none => simp [checkChange]
  | some running =>
    simp only [checkChange, Option.some.injEq, exists_eq_left']
    cases running.unsafeChanges next <;> simp [eq_comm]

/-- The errors of a cycle for a network that has its defaults, each with what is the matter then. -/
inductive Fails (host : Host) (spec : NetworkSpec) (previous : Option NetworkSpec) :
    ReconcileError → Prop where
  | invalid (hfound : spec.errors ≠ []) : Fails host spec previous (.invalid spec.errors)
  | unsafeChange {running : NetworkSpec} (hprevious : previous = some running)
      (hfound : running.unsafeChanges spec ≠ []) :
      Fails host spec previous (.unsafeChange (running.unsafeChanges spec))
  | templates {cause : RenderError} (hcause : cause.IsOfTemplates) :
      Fails host spec previous (.render cause)
  | malformed (cause : ManifestSetError) : Fails host spec previous (.render (.malformed cause))
  | deployment {data : Json} {rendered : List Manifest} {object : Manifest} {cause : DecodeError}
      (hdata : spec.renderData host.options = .ok data)
      (hrendered : TemplateDirectory.render host.files
        (joinPath host.options.manifestDir sdnDirectory) data = .ok rendered)
      (hmem : object ∈ rendered) (hkind : object.kind = "Deployment")
      (hshape : Shape.check object.toJson Kubernetes.deployment = .error cause) :
      Fails host spec previous (.render (.deployment cause))
  | accountSecrets {objects : List Manifest} {object : Manifest}
      (hrender : spec.render host.options host.files = .ok objects) (hmem : object ∈ objects)
      (hsecrets : object.BringsSecrets) :
      Fails host spec previous
        (.apply (.unsupported object.id "cannot create ServiceAccount with secrets"))

theorem fails_of_render {data : Json} {cause : RenderError}
    (hdata : spec.renderData host.options = .ok data)
    (h : spec.render host.options host.files = .error cause) :
    Fails host spec previous (.render cause) := by
  rcases NetworkSpec.render_eq_error hdata h with htemplates | ⟨rendered, hrendered, hrefuses⟩
  · exact .templates htemplates
  · cases hrefuses with
    | malformed cause => exact .malformed cause
    | deployment hmem hkind hshape => exact .deployment hdata hrendered hmem hkind hshape

theorem fails_of_reconcile (h : reconcile host desired previous = .error e) :
    Fails host (desired.withDefaults previous host.mtu) previous e := by
  rcases bind_eq_error.mp h with hvalid | ⟨_, hvalid, h⟩
  · obtain ⟨hfound, rfl⟩ := checkValid_eq_error.mp hvalid
    exact .invalid hfound
  -- no finding is left, so that the documents lack nothing from here on
  have herrors := checkValid_eq_ok.mp hvalid
  rcases bind_eq_error.mp h with hchange | ⟨_, -, h⟩
  · obtain ⟨running, hprevious, hfound, rfl⟩ := checkChange_eq_error.mp hchange
    exact .unsafeChange hprevious hfound
  obtain ⟨config, node, controller, -, -, -, hdata⟩ :=
    NetworkSpec.renderData_of_errors herrors host.options
  rcases bind_eq_error.mp h with hrender | ⟨objects, hrender, h⟩
  · obtain ⟨cause, hcause, rfl⟩ := mapError_eq_error.mp hrender
    exact fails_of_render hdata hcause
  have hobjects := mapError_eq_ok.mp hrender
  rcases bind_eq_error.mp h with hsupported | ⟨_, -, h⟩
  · obtain ⟨cause, hcause, rfl⟩ := mapError_eq_error.mp hsupported
    obtain ⟨o, ho, hsecrets, rfl⟩ :=
      checkAllSupported_eq_error (NetworkSpec.isComplete_of_render hobjects) hcause
    exact .accountSecrets hobjects ho hsecrets
  · cases h

theorem RenderError.IsOfTemplates.ne_incomplete {cause : RenderError} (h : cause.IsOfTemplates)
    (missing : IncompleteSpec) : cause ≠ .incomplete missing := by
  rintro rfl
  cases h

/-- Whatever is asked for after whatever ran before, and whatever the templates are, a cycle fails
for its findings, for its templates, for a set of objects that does not hold together or for a
service account with secrets. The documents lack nothing once there are no findings, and no object
of a checked set lacks what it needs to be applied. -/
theorem reconcile_failures (host : Host) (desired : NetworkSpec) (previous : Option NetworkSpec) :
    (∀ e, reconcile host desired previous = .error e →
      Fails host (desired.withDefaults previous host.mtu) previous e ∧
        (∀ missing, e ≠ .render (.incomplete missing)) ∧
        (∀ name, e ≠ .apply (.missingField name)) ∧
        ∀ kindName, e ≠ .apply (.notAnObject kindName)) ∧
    ((desired.withDefaults previous host.mtu).errors = [] →
      ∃ config plugin port mtu node controller,
        (desired.withDefaults previous host.mtu).sdn? = some config ∧
        config.Accepted plugin port mtu ∧
        NodeConfig.ofSpec (desired.withDefaults previous host.mtu) = .ok node ∧
        ControllerConfig.ofSpec (desired.withDefaults previous host.mtu) = .ok controller) ∧
    ∀ rendered objects, ManifestSet.check rendered = .ok objects →
      ∀ o ∈ objects, o.apiVersion ≠ "" ∧ o.kind ≠ "" ∧ o.name ≠ "" := by
  refine ⟨fun e he => ?_, fun herrors => ?_, fun rendered objects hcheck o ho => ?_⟩
  · have hfails := fails_of_reconcile he
    refine ⟨hfails, fun missing heq => ?_, fun name heq => ?_, fun kindName heq => ?_⟩
    · subst heq
      cases hfails with
      | templates hcause => exact hcause.ne_incomplete missing rfl
    · subst heq
      cases hfails
    · subst heq
      cases hfails
  · obtain ⟨config, plugin, port, mtu, hs, hc⟩ := NetworkSpec.accepted_of_errors herrors
    exact ⟨config, plugin, port, mtu, _, _, hs, hc, NetworkSpec.nodeConfig_of_accepted hs hc,
      NetworkSpec.controllerConfig_of_accepted hs hc⟩
  · exact Manifest.isComplete_iff.mp ((ManifestSet.check_eq_ok.mp hcheck).2.2.1 o ho)

def secretsHost : Host where
  options := namespaceHost.options
  files :=
    let namespaceText := "apiVersion: v1\nkind: Namespace\nmetadata: \x7bname: sdn\x7d\n".toList
    let accountText :=
      "apiVersion: v1\nkind: ServiceAccount\nmetadata: \x7bname: sdn\x7d\nsecrets: [t]\n".toList
    ⟨.directory [("t", .directory [("network", .directory [("openshift-sdn", .directory
      [("0.yaml", .text namespaceText), ("1.yaml", .text accountText)])])])], []⟩
  mtu := 9000

theorem reconcile_failures_secrets :
    (reconcile secretsHost bareSpec none = .error (.apply (.unsupported
        ⟨"ServiceAccount", "", "sdn"⟩ "cannot create ServiceAccount with secrets")) ∧
      Fails secretsHost (bareSpec.withDefaults none 9000) none (.apply (.unsupported
        ⟨"ServiceAccount", "", "sdn"⟩ "cannot create ServiceAccount with secrets"))) ∧
    ((bareSpec.withDefaults none 9000).errors = [] ∧
      ∃ node controller, NodeConfig.ofSpec (bareSpec.withDefaults none 9000) = .ok node ∧
        ControllerConfig.ofSpec (bareSpec.withDefaults none 9000) = .ok controller) ∧
    ManifestSet.check namespaceResult.objects = .ok namespaceResult.objects ∧
      ∀ o ∈ namespaceResult.objects, o.apiVersion ≠ "" ∧ o.kind ≠ "" ∧ o.name ≠ "" := by
  have h : reconcile secretsHost bareSpec none = .error (.apply (.unsupported
      ⟨"ServiceAccount", "", "sdn"⟩ "cannot create ServiceAccount with secrets")) := by
    simp only [reconcile, NetworkSpec.render, ManifestSet.check_eq, ManifestSet.namespacesFirst_eq]
    decide +kernel
  have herrors : (bareSpec.withDefaults none 9000).errors = [] := by decide +kernel
  have hcheck : ManifestSet.check namespaceResult.objects = .ok namespaceResult.objects := by
    decide +kernel
  obtain ⟨hfails, hdocuments, hcomplete⟩ := reconcile_failures secretsHost bareSpec none
  obtain ⟨-, -, -, -, node, controller, -, -, hnode, hcontroller⟩ := hdocuments herrors
  exact ⟨⟨h, (hfails _ h).1⟩, ⟨herrors, node, controller, hnode, hcontroller⟩, hcheck,
    hcomplete _ _ hcheck⟩

end Cycle

end OverlayConfig
