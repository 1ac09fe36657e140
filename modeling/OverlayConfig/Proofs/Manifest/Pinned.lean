import OverlayConfig.Proofs.Kubernetes.Deployment
import OverlayConfig.Proofs.Manifest.Checks
import OverlayConfig.Proofs.Reconcile.Runs
/-!
Deployments that run on the masters. Whether one does is told by its record as well as by the path
through its fields, and both come to the same for every object that reads as a deployment.
-/
set_option autoImplicit false

namespace OverlayConfig

namespace Manifest

open Kubernetes

variable {object : Manifest} {deployment : Deployment}

theorem textsOf_ofTexts (texts : Fields String) : textsOf (Json.ofTexts texts) = some texts := by
  induction texts with
  | nil => rfl
  | cons p rest ih =>
    rw [Json.ofTexts] at ih ⊢
    simp [textsOf, Json.text?, ih]

theorem texts?_nodeSelector (h : Deployment.ofJson object.toJson = .ok deployment) :
    object.texts? ["spec", "template", "spec", "nodeSelector"] = deployment.nodeSelector := by
  have htexts : object.texts? ["spec", "template", "spec", "nodeSelector"] =
      ((object.get? ["spec", "template", "spec", "nodeSelector"]).bind Json.fields?).bind textsOf :=
    (Option.bind_assoc ..).symm
  rw [htexts, get?_nodeSelector h]
  cases deployment.nodeSelector with
  | none => rfl
  | some texts => exact textsOf_ofTexts texts

theorem checkPinned_eq_untyped (object : Manifest) : object.checkPinned =
    (Shape.check object.toJson Kubernetes.deployment).mapError .deployment >>= fun _ =>
      if (object.texts? ["spec", "template", "spec", "nodeSelector"]).any fun selector =>
        selector.contains masterNodeLabel then .ok ()
      else .error (.malformed (.unpinnedDeployment object.id)) := by
  rw [checkPinned, ← isReader_deployment.fits]
  cases hread : Deployment.ofJson object.toJson with
  | error e => rfl
  | ok deployment =>
    rw [texts?_nodeSelector hread]
    rfl

/-- The record of a deployment and the path through its fields agree about the nodes that its pods
run on. The check of an object that reads as a deployment lets it pass if and only if the path leads
to a mapping of texts with the label of the masters, and so it does in every deployment that is
rendered, from whatever templates. -/
theorem nodeSelector_views_agree :
    (∀ object : Manifest,
      (object.checkPinned =
        (Deployment.ofJson object.toJson).mapError .deployment >>= fun deployment =>
          if deployment.selects "node-role.kubernetes.io/master" then .ok ()
          else .error (.malformed (.unpinnedDeployment object.id))) ∧
      object.checkPinned =
        (Shape.check object.toJson Kubernetes.deployment).mapError .deployment >>= fun _ =>
          if (object.texts? ["spec", "template", "spec", "nodeSelector"]).any fun selector =>
            selector.contains "node-role.kubernetes.io/master" then .ok ()
          else .error (.malformed (.unpinnedDeployment object.id))) ∧
    (∀ (object : Manifest) (deployment : Deployment),
      Deployment.ofJson object.toJson = .ok deployment →
        object.texts? ["spec", "template", "spec", "nodeSelector"] = deployment.nodeSelector ∧
        (object.checkPinned = .ok () ↔ ∃ selector,
          object.texts? ["spec", "template", "spec", "nodeSelector"] = some selector ∧
            selector.contains "node-role.kubernetes.io/master" = true)) ∧
    ∀ (spec : NetworkSpec) (options : RenderOptions) (files : Files) (objects : List Manifest),
      spec.render options files = .ok objects → ∀ object ∈ objects, object.kind = "Deployment" →
        ∃ selector, object.texts? ["spec", "template", "spec", "nodeSelector"] = some selector ∧
          selector.contains "node-role.kubernetes.io/master" = true := by
  refine ⟨fun object => ⟨rfl, object.checkPinned_eq_untyped⟩, fun object deployment hread => ⟨texts?_nodeSelector hread, ?_⟩,
    fun spec options files objects hrender object hmem hkind => ?_⟩
  · rw [texts?_nodeSelector hread, checkPinned_eq_ok_iff_selects, hread]
    simp only [Except.ok.injEq, exists_eq_left']
    exact Option.any_eq_true ..
  · obtain ⟨-, rendered, -, -, hcheck⟩ := NetworkSpec.render_eq_ok.mp hrender
    have hpinned := (ManifestSet.check_eq_ok.mp hcheck).2.2.2.2 object hmem hkind
    obtain ⟨deployment, hread, hselects⟩ := checkPinned_eq_ok_iff_selects.mp hpinned
    rw [texts?_nodeSelector hread]
    exact Option.any_eq_true .. |>.mp hselects

def masterDeployment : Manifest :=
  ⟨[("apiVersion", .string "apps/v1"), ("kind", .string "Deployment"),
    ("metadata", .object [("name", .string "x")]),
    ("spec", .object [("strategy", .null), ("template", .object [("spec", .object
      [("nodeSelector", .object [("node-role.kubernetes.io/master", .string "")])])])])]⟩

def bareDeployment : Manifest :=
  ⟨[("kind", .string "Deployment"), ("spec", .object [("template", .null)])]⟩

def deploymentFiles : Files :=
  let namespaceText := "apiVersion: v1\nkind: Namespace\nmetadata: \x7bname: sdn\x7d\n".toList
  let deploymentText := ("apiVersion: apps/v1\nkind: Deployment\nmetadata: \x7bname: x\x7d\n" ++
    "spec:\n  strategy:\n  template: \x7bspec: \x7bnodeSelector: " ++
      "\x7bnode-role.kubernetes.io/master: \"\"\x7d\x7d\x7d\n").toList
  ⟨.directory [("t", .directory [("network", .directory [("openshift-sdn", .directory
    [("0.yaml", .text namespaceText), ("1.yaml", .text deploymentText)])])])], []⟩

theorem nodeSelector_views_agree_master :
    Deployment.ofJson masterDeployment.toJson =
        .ok ⟨some ⟨⟨some ⟨some [("node-role.kubernetes.io/master", "")]⟩⟩⟩⟩ ∧
      masterDeployment.texts? ["spec", "template", "spec", "nodeSelector"] =
        some [("node-role.kubernetes.io/master", "")] ∧
      masterDeployment.checkPinned = .ok () ∧
      Deployment.ofJson bareDeployment.toJson = .ok ⟨some ⟨⟨none⟩⟩⟩ ∧
      bareDeployment.texts? ["spec", "template", "spec", "nodeSelector"] = none ∧
      bareDeployment.checkPinned ≠ .ok () ∧
      (bareSpec.withDefaults none 9000).render namespaceHost.options deploymentFiles =
        .ok [⟨[("apiVersion", .string "v1"), ("kind", .string "Namespace"),
          ("metadata", .object [("name", .string "sdn")])]⟩, masterDeployment] ∧
      ∃ selector,
        masterDeployment.texts? ["spec", "template", "spec", "nodeSelector"] = some selector ∧
          selector.contains "node-role.kubernetes.io/master" = true := by
  obtain ⟨-, hviews, hrendered⟩ := nodeSelector_views_agree
  have hmaster : Deployment.ofJson masterDeployment.toJson =
      .ok ⟨some ⟨⟨some ⟨some [("node-role.kubernetes.io/master", "")]⟩⟩⟩⟩ :=
    toOption_eq_some.mp (by decide +kernel)
  have hbare : Deployment.ofJson bareDeployment.toJson = .ok ⟨some ⟨⟨none⟩⟩⟩ :=
    toOption_eq_some.mp (by decide +kernel)
  have hrender : (bareSpec.withDefaults none 9000).render namespaceHost.options deploymentFiles =
      .ok [⟨[("apiVersion", .string "v1"), ("kind", .string "Namespace"),
        ("metadata", .object [("name", .string "sdn")])]⟩, masterDeployment] := by
    simp only [NetworkSpec.render, ManifestSet.check_eq, ManifestSet.namespacesFirst_eq]
    exact toOption_eq_some.mp (by decide +kernel)
  obtain ⟨hmasterTexts, hmasterPinned⟩ := hviews _ _ hmaster
  obtain ⟨hbareTexts, hbarePinned⟩ := hviews _ _ hbare
  refine ⟨hmaster, hmasterTexts, hmasterPinned.mpr ⟨_, hmasterTexts, by decide⟩, hbare, hbareTexts,
    fun hok => ?_, hrender, hrendered _ _ _ _ hrender masterDeployment (by simp) (by decide)⟩
  obtain ⟨selector, hselector, -⟩ := hbarePinned.mp hok
  cases hbareTexts.symm.trans hselector

end Manifest

end OverlayConfig
