import OverlayConfig.Proofs.Json.RoundTrip
import OverlayConfig.Proofs.Results
import OverlayConfig.Yaml.Read
set_option autoImplicit false

namespace OverlayConfig.Yaml

section Gives

variable {α β : Type} {P : α → Prop} {Q : β → Prop} {step : Read α}

def Gives (P : α → Prop) (step : Read α) : Prop := ∀ n a m, step n = .ok (a, m) → P a

theorem Gives.any (step : Read α) : Gives (fun _ => True) step := fun _ _ _ _ => trivial

theorem Gives.pure {a : α} (h : P a) : Gives P (Pure.pure a) := by
  intro n b m heq
  cases heq
  exact h

theorem Gives.throw (e : ReadError) : Gives P (throw e) := nofun

theorem Gives.bind {f : α → Read β} (hstep : Gives P step) (hf : ∀ a, P a → Gives Q (f a)) :
    Gives Q (step >>= f) := by
  intro n b m heq
  change (step n >>= fun p => f p.1 p.2) = .ok (b, m) at heq
  cases hx : step n with
  | error e =>
    rw [hx] at heq
    cases heq
  | ok p =>
    rw [hx] at heq
    exact hf p.1 (hstep n p.1 p.2 hx) p.2 b m heq

theorem Gives.located (place : Place) (h : Gives P step) : Gives P (located place step) := by
  intro n a m heq
  unfold Yaml.located at heq
  cases hx : step n with
  | error e =>
    rw [hx] at heq
    cases heq
  | ok p =>
    rw [hx] at heq
    cases heq
    exact h n a m hx

theorem Gives.ite {c : Prop} [Decidable c] {other : Read α} (h : Gives P step)
    (hother : Gives P other) : Gives P (if c then step else other) := by
  split
  · exact h
  · exact hother

theorem Gives.ofResult {x : Except DecodeError α} (h : ∀ a, x = .ok a → P a) :
    Gives P (ofResult x) := by
  cases x with
  | error e => exact .throw _
  | ok a => exact .pure (h a rfl)

end Gives

def InOrder (fields : Fields Json) : Prop :=
  fields.Sorted ∧ ∀ p ∈ fields, p.2.ordered = p.2

namespace InOrder

variable {fields : Fields Json}

theorem nil : InOrder [] := ⟨.nil, nofun⟩

theorem insert (h : InOrder fields) (k : String) {v : Json} (hv : v.ordered = v) :
    InOrder (fields.insert k v) := by
  refine ⟨Fields.sorted_insert h.1 k v, fun p hp => ?_⟩
  rcases Fields.mem_insert hp with rfl | hp
  · exact hv
  · exact h.2 p hp

theorem erase (h : InOrder fields) (k : String) : InOrder (fields.erase k) :=
  ⟨h.1.sublist (Fields.erase_sublist k fields),
    fun p hp => h.2 p ((Fields.erase_sublist k fields).subset hp)⟩

theorem fillTexts (h : InOrder fields) (known : List (String × Presence × Shape)) :
    InOrder (fillTexts fields known) := by
  induction known generalizing fields with
  | nil => exact h
  | cons p rest ih =>
    rw [Yaml.fillTexts]
    split
    · exact ih (h.insert p.1 rfl)
    · exact ih h

end InOrder

section Scalar

variable {shape : Shape} {text : List Char} {kind : ScalarKind} {tag : Option (List Char)} {v : Json}

theorem unfit_ne_ok : unfit shape text kind tag ≠ .ok v := by
  unfold unfit
  split <;> nofun

theorem ordered_of_anyScalar (h : anyScalar text kind tag = .ok v) : v.ordered = v := by
  unfold anyScalar at h
  split at h
  · cases h
  · obtain ⟨found, -, h⟩ := bind_eq_ok.mp h
    split at h
    case h_3 d =>
      cases h
      split <;> rfl
    all_goals
      cases h
      try rfl

theorem ordered_of_readScalar (h : readScalar shape text kind tag = .ok v) : v.ordered = v := by
  have hempty {empty : Json} (hv : empty.ordered = empty) {blank : Bool}
      (h : (if blank then .ok empty else unfit shape text kind tag) = .ok v) : v.ordered = v := by
    split at h
    · cases h
      exact hv
    · exact absurd h unfit_ne_ok
  cases shape with
  | anything => exact ordered_of_anyScalar h
  | deeper => exact ordered_of_anyScalar h
  | text => cases h; rfl
  | constant value =>
    obtain ⟨-, -, h⟩ := bind_eq_ok.mp h
    cases h
    rfl
  | flag =>
    simp only [readScalar] at h
    split at h
    · split at h
      · cases h
        rfl
      · exact absurd h unfit_ne_ok
    · exact absurd h unfit_ne_ok
  | integer low high words =>
    simp only [readScalar] at h
    split at h
    · split at h
      · obtain ⟨-, -, h⟩ := bind_eq_ok.mp h
        cases h
        rfl
      · exact absurd h unfit_ne_ok
    · exact absurd h unfit_ne_ok
  | textOrInteger =>
    obtain ⟨found, -, h⟩ := bind_eq_ok.mp h
    split at h
    · obtain ⟨-, -, h⟩ := bind_eq_ok.mp h
      cases h
      rfl
    · cases h
      rfl
    · cases h
  | quantity =>
    obtain ⟨found, -, h⟩ := bind_eq_ok.mp h
    split at h <;> cases h <;> rfl
  | timestamp =>
    obtain ⟨t, -, rfl⟩ := map_eq_ok.mp h
    rfl
  | list item => exact hempty rfl h
  | table value => exact hempty rfl h
  | record words strict known condition => exact hempty rfl h

end Scalar

section Collections

variable {read : Place → Node → Read Json} {place : Place} {anchors : Anchors}

theorem Gives.readItems (hread : ∀ place node, Gives (fun v => v.ordered = v) (read place node))
    (index : Nat) (nodes : List Node) :
    Gives (fun vs => ∀ v ∈ vs, v.ordered = v) (readItems read place index nodes) := by
  induction nodes generalizing index with
  | nil => exact .pure nofun
  | cons node rest ih =>
    exact .bind (hread _ node) fun v hv => .bind (ih (index + 1)) fun vs hvs =>
      .pure (List.forall_mem_cons.mpr ⟨hv, hvs⟩)

theorem Gives.readEntries
    (hread : ∀ place node, Gives (fun v => v.ordered = v) (read place node))
    (first others : String) {done : Fields Json} (hdone : InOrder done)
    (entries : List (Node × Node)) :
    Gives InOrder (readEntries anchors first others read place done entries) := by
  induction entries generalizing first done with
  | nil => exact .pure hdone
  | cons entry rest ih =>
    exact .bind (.any _) fun p _ => .bind (hread _ entry.2) fun v hv =>
      ih others (hdone.insert (String.ofList p.1) hv)

theorem Gives.readFields {read : Shape → Place → Node → Read Json}
    (hread : ∀ shape place node, Gives (fun v => v.ordered = v) (read shape place node))
    (strict : Bool) (known : List (String × Presence × Shape)) (seen : List String)
    {done : Fields Json} (hdone : InOrder done) (entries : List (Node × Node)) :
    Gives (fun p => InOrder p.2)
      (readFields anchors read strict known place seen done entries) := by
  induction entries generalizing seen done with
  | nil => exact .pure hdone
  | cons entry rest ih =>
    refine .bind (.any _) fun p _ => ?_
    dsimp only
    split
    · exact ih seen hdone
    · next presence shape hget =>
      have hmissing := Gives.bind (.pure (hdone.erase (String.ofList p.1))) fun _ hdone =>
        ih (String.ofList p.1 :: seen) hdone
      have hvalue (node : Node) := Gives.bind (hread shape (p.2 :: place) node) fun _ hv =>
        Gives.bind (.pure (hdone.insert (String.ofList p.1) hv)) fun _ hdone =>
          ih (String.ofList p.1 :: seen) hdone
      split
      · refine .bind (.any _) fun _ _ => ?_
        exact .ite (.bind (.any _) fun q _ => .ite hmissing (hvalue q.2)) (hvalue entry.2)
      · exact .ite (.bind (.any _) fun q _ => .ite hmissing (hvalue q.2)) (hvalue entry.2)

end Collections

theorem InOrder.finishRecord {known : List (String × Presence × Shape)} {seen : List String}
    {fields done : Fields Json} (h : InOrder fields)
    (hdone : finishRecord known seen fields = .ok done) : InOrder done := by
  obtain ⟨-, -, hfill⟩ := bind_eq_ok.mp hdone
  cases hfill
  exact h.fillTexts known

theorem InOrder.ordered_object {fields : Fields Json} (h : InOrder fields) :
    (Json.object fields).ordered = .object fields := Json.ordered_object_eq_self.mpr h

theorem gives_readNode_of {anchors : Anchors} {depth : Nat} {shape : Shape}
    (hshape : shape ≠ .deeper)
    (hinner : ∀ d, depth = d + 1 → ∀ shape place node,
      Gives (fun v => v.ordered = v) (readNode anchors d shape place node))
    (place : Place) (node : Node) :
    Gives (fun v => v.ordered = v) (readNode anchors depth shape place node) := by
  have hrecord {known : List (String × Presence × Shape)} {seen : List String}
      {fields : Fields Json} (h : InOrder fields) :
      Gives InOrder (ofResult (finishRecord known seen fields)) :=
    .ofResult fun _ hdone => h.finishRecord hdone
  unfold readNode
  split
  · exact absurd rfl hshape
  · exact absurd rfl hshape
  · refine .bind (.any _) fun node _ => ?_
    split
    · exact .throw _
    · have hscalar {shape : Shape} {text : List Char} {kind : ScalarKind}
          {tag : Option (List Char)} : Gives (fun v => v.ordered = v)
          (located place (ofResult (readScalar shape text kind tag))) :=
        .located _ (.ofResult fun _ h => ordered_of_readScalar h)
      split
      · refine .bind hscalar fun v hv => .bind (.located _ (hrecord ?_)) fun fields hfields =>
          .bind (.any _) fun _ _ => .pure hfields.ordered_object
        cases v with
        | object fields => exact Json.ordered_object_eq_self.mp hv
        | _ => exact .nil
      · exact hscalar
    · have hitems {vs : List Json} (h : ∀ v ∈ vs, v.ordered = v) :
          Gives (fun v => v.ordered = v) (pure (Json.array vs)) :=
        .pure (Json.ordered_array_eq_self.mpr h)
      split
      · refine .ite (.located _ (.throw _)) ?_
        split
        · exact .throw _
        · exact .bind (.readItems (hinner _ rfl _) _ _) fun _ hvs => hitems hvs
      · split
        · exact .throw _
        · exact .bind (.located _ (.readItems (hinner _ rfl _) _ _)) fun _ hvs => hitems hvs
      · exact .located _ (.throw _)
    · split
      · refine .ite (.located _ (.throw _)) ?_
        split
        · exact .throw _
        · exact .bind (.located _ (.readEntries (hinner _ rfl _) _ _ .nil _)) fun _ h =>
            .pure h.ordered_object
      · split
        · exact .throw _
        · exact .bind (.located _ (.readEntries (hinner _ rfl _) _ _ .nil _)) fun _ h =>
            .pure h.ordered_object
      · split
        · exact .throw _
        · refine .bind (.located _ ?_) fun _ h => .bind (.any _) fun _ _ =>
            .pure (InOrder.ordered_object h)
          exact .bind (.readFields (hinner _ rfl) _ _ _ .nil _) fun _ h => hrecord h
      · exact .located _ (.throw _)

theorem gives_readNode (anchors : Anchors) (depth : Nat) (shape : Shape) (place : Place)
    (node : Node) : Gives (fun v => v.ordered = v) (readNode anchors depth shape place node) := by
  induction depth generalizing shape place node with
  | zero =>
    by_cases hshape : shape = .deeper
    · subst hshape
      exact .throw _
    · exact gives_readNode_of hshape (fun d h => absurd h (Nat.succ_ne_zero d).symm) place node
  | succ depth ih =>
    by_cases hshape : shape = .deeper
    · subst hshape
      rw [readNode]
      exact ih .anything place node
    · refine gives_readNode_of hshape ?_ place node
      rintro _ ⟨⟩
      exact ih

theorem ordered_of_readDocument {shape : Shape} {cs : List Char} {v : Json}
    (h : readDocument shape cs = .ok v) : v.ordered = v := by
  unfold readDocument at h
  split at h
  · cases h
  · next d hdocuments =>
    replace h := mapError_eq_ok.mp h
    unfold Document.read at h
    split at h
    · next w n hread =>
      cases h
      exact Gives.located [] (gives_readNode d.anchors maxDepth shape [] d.root) _ _ _ hread
    · cases h
  · cases h

end OverlayConfig.Yaml
