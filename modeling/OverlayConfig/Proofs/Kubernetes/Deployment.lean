import OverlayConfig.Kubernetes.Deployment
import OverlayConfig.Proofs.Json.Decode
import OverlayConfig.Proofs.Manifest.Path
import OverlayConfig.Proofs.Results
/-!
Deployments read as records, with what their records say about the nodes that the pods run on. A
reader visits the fields of each record once, in their order, and keeps one of them. It fails where
the shape of deployments does and with the same error, and the node selector that it comes to is the
mapping at the end of the path through the value itself.
-/
set_option autoImplicit false

namespace OverlayConfig

namespace Shape

variable {α : Type}

def field? (shape : Shape) (key : String) : Option (Presence × Shape) :=
  match shape with
  | .record _ _ known _ => Fields.get? key known
  | _ => none

end Shape

namespace Json

def ofTexts (texts : Fields String) : Fields Json := texts.map fun p => (p.1, .string p.2)

theorem keys_ofTexts (texts : Fields String) : (ofTexts texts).keys = texts.keys := by
  simp [ofTexts, Fields.keys]

theorem eq_ofTexts_of_decode {fields : Fields Json} {texts : Fields String}
    (h : decodeValues decodeString fields = .ok texts) : fields = ofTexts texts := by
  induction fields generalizing texts with
  | nil =>
    cases h
    rfl
  | cons p rest ih =>
    rw [decodeValues] at h
    simp only [bind_eq_ok] at h
    obtain ⟨text, htext, others, hothers, hall⟩ := h
    cases hall
    obtain ⟨k, v⟩ := p
    cases v with
    | string s =>
      cases htext
      rw [ih hothers]
      rfl
    | _ => cases htext

theorem reach_null_bind_fields? (path : KeyPath) :
    (reach path (some .null)).bind fields? = none := by
  cases path with
  | nil => rfl
  | cons k rest => exact congrArg (Option.bind · fields?) (reach_none rest)

end Json

namespace Shape

variable {α β : Type} {read : Json → Except DecodeError α} {shape record : Shape} {path : KeyPath}
  {view : α → Option (Fields String)} {known : List (String × Presence × Shape)} {key : String}

/-- A reader for values of a shape, which sees the texts at the end of a path. -/
structure IsReader (read : Json → Except DecodeError α) (shape : Shape) (path : KeyPath)
    (view : α → Option (Fields String)) : Prop where
  /-- The reader fails where the shape does not fit, with the same error. -/
  fits (v : Json) : (read v).map (fun _ => ()) = check v shape
  /-- The path leads to the mapping of the texts that are seen, and to none where none are. -/
  sees {v : Json} {x : α} (h : read v = .ok x) :
    (Json.reach path (some v)).bind Json.fields? = (view x).map Json.ofTexts

theorem checkFields_cons (k : String) (v : Json) (rest : Fields Json) :
    checkFields known ((k, v) :: rest) =
      checkFields known [(k, v)] >>= fun _ => checkFields known rest := by
  simp only [checkFields]
  cases Fields.get? k known with
  | none => rfl
  | some entry =>
    by_cases hnull : entry.1.allowsNull ∧ v = .null
    · simp only [hnull, and_self, if_true]
      rfl
    · simp only [hnull, if_false]
      cases check v entry.2 <;> rfl

theorem checkFields_of_nullable (hkey : Fields.get? key known = some (.nullable, shape))
    (v : Json) : checkFields known [(key, v)] = if v = .null then .ok () else check v shape := by
  simp only [checkFields, hkey, Presence.allowsNull, true_and]
  split
  · rfl
  · cases check v shape <;> rfl

theorem IsReader.fits_option (h : IsReader read shape path view) (v : Json) :
    (Json.decodeOption read v).map (fun _ => ()) =
      if v = .null then .ok () else check v shape := by
  by_cases hnull : v = .null
  · rw [hnull, if_pos rfl]
    rfl
  · rw [Json.decodeOption_eq_map hnull, if_neg hnull, ← h.fits]
    cases read v <;> rfl

theorem IsReader.fits_fields (h : IsReader read shape path view)
    (hkey : Fields.get? key known = some (.nullable, shape)) (fields : Fields Json) :
    (readFields known key read fields).map (fun _ => ()) = checkFields known fields := by
  induction fields with
  | nil => rfl
  | cons p rest ih =>
    obtain ⟨k, v⟩ := p
    rw [checkFields_cons, ← ih, readFields]
    by_cases hk : k = key
    · rw [if_pos hk, hk, checkFields_of_nullable hkey, ← h.fits_option]
      cases Json.decodeOption read v with
      | error e => rfl
      | ok x => cases readFields known key read rest <;> rfl
    · rw [if_neg hk]
      cases checkFields known [(k, v)] <;> rfl

theorem of_readFields {fields : Fields Json} {x : Option α}
    (h : readFields known key read fields = .ok x) :
    (fields.get? key = none ∧ x = none) ∨
      ∃ v, fields.get? key = some v ∧ Json.decodeOption read v = .ok x := by
  induction fields with
  | nil =>
    cases h
    exact .inl ⟨rfl, rfl⟩
  | cons p rest ih =>
    obtain ⟨k, v⟩ := p
    rw [readFields] at h
    rw [Fields.get?]
    split at h
    · next hk =>
      simp only [bind_eq_ok] at h
      obtain ⟨y, hy, _, -, hx⟩ := h
      cases hx
      exact .inr ⟨v, if_pos hk, hy⟩
    · next hk =>
      obtain ⟨_, -, hrest⟩ := bind_eq_ok.mp h
      rw [if_neg hk]
      exact ih hrest

theorem IsReader.sees_option (h : IsReader read shape path view) {v : Json} {x : Option α}
    (hx : Json.decodeOption read v = .ok x) :
    (Json.reach path (some v)).bind Json.fields? = (x.bind view).map Json.ofTexts := by
  by_cases hnull : v = .null
  · subst hnull
    cases hx
    exact Json.reach_null_bind_fields? path
  · rw [Json.decodeOption_eq_map hnull, map_eq_ok] at hx
    obtain ⟨y, hy, rfl⟩ := hx
    exact h.sees hy

theorem IsReader.fits_part (h : IsReader read shape path view)
    (hkey : record.field? key = some (.nullable, shape)) (v : Json) :
    (record.readPart key read v).map (fun _ => ()) = check v record := by
  cases record with
  | record words strict known condition =>
    cases v with
    | object fields =>
      rw [readPart, check, ← h.fits_fields hkey]
      cases readFields known key read fields with
      | error e => rfl
      | ok x =>
        cases checkMissing (Fields.keys fields) known with
        | error e => rfl
        | ok u => cases condition (.object fields) <;> rfl
    | _ => simp [readPart, check, checkLeaf, Except.map, Shape.words]
  | _ => cases hkey

theorem IsReader.sees_part (h : IsReader read shape path view)
    (hkey : record.field? key = some (.nullable, shape)) {v : Json} {x : Option α}
    (hx : record.readPart key read v = .ok x) :
    (Json.reach (key :: path) (some v)).bind Json.fields? = (x.bind view).map Json.ofTexts := by
  cases record with
  | record words strict known condition =>
    cases v with
    | object fields =>
      rw [readPart] at hx
      simp only [bind_eq_ok] at hx
      obtain ⟨y, hy, _, -, _, -, hxy⟩ := hx
      cases hxy
      rw [Json.reach, Json.children_object]
      rcases of_readFields hy with ⟨hnone, rfl⟩ | ⟨v, hv, hread⟩
      · rw [hnone, Json.reach_none]
        rfl
      · rw [hv]
        exact h.sees_option hread
    | _ => cases hx
  | _ => cases hkey

/-- A reader of a field gives a reader of the records that have it, and what it sees is seen from
there by a path that starts with the key. -/
theorem IsReader.part (h : IsReader read shape path view)
    (hkey : record.field? key = some (.nullable, shape)) :
    IsReader (record.readPart key read) record (key :: path) fun x => x.bind view :=
  ⟨h.fits_part hkey, h.sees_part hkey⟩

theorem IsReader.map (h : IsReader read shape path view) {f : α → β}
    {view' : β → Option (Fields String)} (hview : ∀ x, view' (f x) = view x) :
    IsReader (fun v => (read v).map f) shape path view' where
  fits v := by
    rw [← h.fits]
    cases read v <;> rfl
  sees {v y} hy := by
    obtain ⟨x, hx, rfl⟩ := map_eq_ok.mp hy
    rw [h.sees hx, hview]

theorem fits_decodeValues (fields : Fields Json) :
    (Json.decodeValues Json.decodeString fields).map (fun _ => ()) = checkValues .text fields := by
  induction fields with
  | nil => rfl
  | cons p rest ih =>
    obtain ⟨k, v⟩ := p
    rw [Json.decodeValues, checkValues, ← ih]
    cases v with
    | string s => cases Json.decodeValues Json.decodeString rest <;> rfl
    | _ => rfl

theorem isReader_texts :
    IsReader (Json.decodeMapping Json.decodeString) (.table .text) [] some where
  fits v := by
    cases v with
    | object fields => exact fits_decodeValues fields
    | _ => rfl
  sees {v texts} h := by
    cases v with
    | object fields =>
      obtain rfl := Json.eq_ofTexts_of_decode h
      rfl
    | _ => cases h

end Shape

namespace Kubernetes

open Shape (IsReader isReader_texts)

theorem isReader_podSpec :
    IsReader PodSpec.ofJson podSpec ["nodeSelector"] PodSpec.nodeSelector :=
  (isReader_texts.part rfl).map fun x => by cases x <;> rfl

theorem isReader_podTemplate :
    IsReader PodTemplate.ofJson podTemplate ["spec", "nodeSelector"] fun template =>
      template.spec.bind PodSpec.nodeSelector :=
  (isReader_podSpec.part rfl).map fun _ => rfl

theorem isReader_deploymentSpec :
    IsReader DeploymentSpec.ofJson deploymentSpec ["template", "spec", "nodeSelector"] fun spec =>
      spec.template.spec.bind PodSpec.nodeSelector :=
  (isReader_podTemplate.part rfl).map fun x => by cases x <;> rfl

/-- Reading a deployment fails exactly where its shape does not fit, and its node selector is the
one that the path through the value leads to. -/
theorem isReader_deployment :
    IsReader Deployment.ofJson deployment ["spec", "template", "spec", "nodeSelector"]
      Deployment.nodeSelector :=
  (isReader_deploymentSpec.part rfl).map fun x => by cases x <;> rfl

theorem exists_ofJson {v : Json} :
    (∃ x, Deployment.ofJson v = .ok x) ↔ Shape.check v deployment = .ok () := by
  rw [← isReader_deployment.fits]
  cases Deployment.ofJson v <;> simp [Except.map]

theorem ofJson_eq_error {v : Json} {cause : DecodeError} :
    Deployment.ofJson v = .error cause ↔ Shape.check v deployment = .error cause := by
  rw [← isReader_deployment.fits]
  cases Deployment.ofJson v <;> simp [Except.map]

end Kubernetes

end OverlayConfig
