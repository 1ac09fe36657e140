import OverlayConfig.Proofs.Fields
import OverlayConfig.Proofs.Yaml.Frame
import OverlayConfig.Yaml.Read
/-!
The texts of quoted and literal scalars are opaque. Neither the grammar nor the reader looks into
them, so documents with other texts in their place are read to the same values with these texts in
their place, as long as the texts are no keys.
-/
set_option autoImplicit false

namespace OverlayConfig

mutual
def Json.retext (f : List Char → List Char) : Json → Json
  | .string s => .string (String.ofList (f s.toList))
  | .array items => .array (Json.retextItems f items)
  | .object fields => .object (Json.retextFields f fields)
  | v => v

def Json.retextItems (f : List Char → List Char) : List Json → List Json
  | [] => []
  | v :: rest => v.retext f :: Json.retextItems f rest

def Json.retextFields (f : List Char → List Char) : List (String × Json) → List (String × Json)
  | [] => []
  | (k, v) :: rest => (k, v.retext f) :: Json.retextFields f rest
end

namespace Yaml

/-- The text of a scalar after a replacement, which plain scalars are exempt from. -/
def ScalarKind.retext (f : List Char → List Char) (kind : ScalarKind) (text : List Char) :
    List Char :=
  if kind = .plain then text else f text

def Token.retext (f : List Char → List Char) : Token → Token
  | .scalar text kind => .scalar (kind.retext f text) kind
  | t => t

mutual
def Node.retext (f : List Char → List Char) : Node → Node
  | .scalar text kind tag => .scalar (kind.retext f text) kind tag
  | .sequence items tag => .sequence (Node.retextItems f items) tag
  | .mapping entries tag => .mapping (Node.retextEntries f entries) tag
  | .alias slot => .alias slot

def Node.retextItems (f : List Char → List Char) : List Node → List Node
  | [] => []
  | n :: rest => n.retext f :: Node.retextItems f rest

def Node.retextEntries (f : List Char → List Char) : List (Node × Node) → List (Node × Node)
  | [] => []
  | (k, v) :: rest => (k.retext f, v.retext f) :: Node.retextEntries f rest
end

mutual
@[simp] theorem Node.size_retext (f : List Char → List Char) :
    (n : Node) → (n.retext f).size = n.size
  | .scalar .. | .alias _ => rfl
  | .sequence items _ => by simp [retext, size, sizeOfItems_retext f items]
  | .mapping entries _ => by simp [retext, size, sizeOfEntries_retext f entries]

theorem Node.sizeOfItems_retext (f : List Char → List Char) :
    (items : List Node) → sizeOfItems (retextItems f items) = sizeOfItems items
  | [] => rfl
  | n :: rest => by simp [retextItems, sizeOfItems, size_retext f n, sizeOfItems_retext f rest]

theorem Node.sizeOfEntries_retext (f : List Char → List Char) :
    (entries : List (Node × Node)) → sizeOfEntries (retextEntries f entries) = sizeOfEntries entries
  | [] => rfl
  | (k, v) :: rest => by
    simp [retextEntries, sizeOfEntries, size_retext f k, size_retext f v,
      sizeOfEntries_retext f rest]
end

def Anchors.retext (f : List Char → List Char) (anchors : Anchors) : Anchors :=
  { anchors with nodes := anchors.nodes.map fun p => (p.1, p.2.retext f) }

def Document.retext (f : List Char → List Char) (d : Document) : Document :=
  ⟨d.root.retext f, d.anchors.retext f⟩

def GrammarState.retext (f : List Char → List Char) (s : GrammarState) : GrammarState :=
  { s with tokens := s.tokens.map (Token.retext f), anchors := s.anchors.retext f }

namespace Grammar

variable {f : List Char → List Char} {α β : Type}

/-- After the replacement the second step does what the first one does before it; `r` replaces texts
in the result. -/
def Follows (f : List Char → List Char) (r : α → α) (x x' : Grammar α) : Prop :=
  ∀ s, x'.run (s.retext f) = (x.run s).map fun p => (r p.1, p.2.retext f)

theorem Follows.pure {r : α → α} {a b : α} (h : b = r a) :
    Follows f r (Pure.pure a) (Pure.pure b) := by
  intro s
  rw [h]
  rfl

theorem Follows.fail (r : α → α) (e : SyntaxError) : Follows f r (fail e) (fail e) := fun _ => rfl

theorem Follows.bind {r : α → α} {q : β → β} {x x' : Grammar α} {k k' : α → Grammar β}
    (hx : Follows f r x x') (hk : ∀ a, Follows f q (k a) (k' (r a))) :
    Follows f q (x >>= k) (x' >>= k') := by
  intro s
  simp only [StateT.run_bind, hx s]
  cases hs : x.run s with
  | error e => rfl
  | ok p => exact hk p.1 p.2

theorem Follows.of_eq {r : α → α} {x x' : Grammar α} (heq : x' = x) (hx : Follows f r x x) :
    Follows f r x x' := heq ▸ hx

theorem Follows.get {r : α → α} {k k' : GrammarState → Grammar α}
    (h : ∀ s, Follows f r (k s) (k' (s.retext f))) :
    Follows f r (MonadState.get >>= k) (MonadState.get >>= k') := fun s => h s s

theorem Follows.change {g : GrammarState → GrammarState}
    (h : ∀ s, g (s.retext f) = (g s).retext f) : Follows f id (modify g) (modify g) := by
  intro s
  exact congrArg (fun s => Except.ok ((), s)) (h s)

theorem Follows.peek : Follows f (Token.retext f) peek peek := by
  intro s
  obtain ⟨tokens, failure, handles, anchors⟩ := s
  cases tokens <;> rfl

theorem Follows.skip : Follows f id skip skip := by
  intro s
  obtain ⟨tokens, failure, handles, anchors⟩ := s
  cases tokens <;> rfl

theorem Follows.anchor? : Follows f id anchor? anchor? := by
  refine .bind .peek fun t => ?_
  cases t
  case anchor name => exact .bind .skip fun _ => .pure rfl
  all_goals exact .pure rfl

theorem Follows.tag? : Follows f id tag? tag? := by
  refine .bind .peek fun t => ?_
  cases t
  case tag handle suffix =>
    refine .bind .skip fun _ => ?_
    split
    · exact .pure rfl
    · refine .get fun s => ?_
      rw [show (s.retext f).handles = s.handles from rfl]
      cases s.handles.lookup handle with
      | some start => exact .pure rfl
      | none => exact .fail _ _
  all_goals exact .pure rfl

theorem Follows.properties : Follows f id properties properties := by
  refine .bind .anchor? fun name => ?_
  cases name with
  | some name => exact .bind .tag? fun _ => .pure rfl
  | none => exact .bind .tag? fun _ => .bind .anchor? fun _ => .pure rfl

theorem Follows.aliasNode (name : List Char) :
    Follows f (Node.retext f) (aliasNode name) (aliasNode name) := by
  refine .get fun s => ?_
  rw [show (s.retext f).anchors.slot? name = s.anchors.slot? name from rfl]
  cases s.anchors.slot? name with
  | some slot => exact .pure rfl
  | none => exact .fail _ _

theorem Follows.begin (name : Option (List Char)) : Follows f id (begin name) (begin name) := by
  cases name with
  | none => exact .pure rfl
  | some name => exact fun _ => rfl

theorem Follows.finish (number : Option Nat) (n : Node) :
    Follows f (Node.retext f) (finish number n) (finish number (n.retext f)) := by
  cases number with
  | none => exact .pure rfl
  | some number => exact fun _ => rfl

theorem Follows.separator (first : Bool) : Follows f id (separator first) (separator first) := by
  cases first
  · refine .bind .peek fun t => ?_
    cases t
    case flowEntry => exact .skip
    all_goals exact .fail _ _
  · exact .pure rfl

/-- With some fuel every rule of the grammar leaves the texts alone. -/
structure FollowsAt (f : List Char → List Char) (fuel : Nat) : Prop where
  node (block indentless : Bool) :
    Follows f (Node.retext f) (node block indentless fuel) (node block indentless fuel)
  blockItems : Follows f (Node.retextItems f) (blockItems fuel) (blockItems fuel)
  indentlessItems : Follows f (Node.retextItems f) (indentlessItems fuel) (indentlessItems fuel)
  blockPart : Follows f (Node.retext f) (blockPart fuel) (blockPart fuel)
  blockEntries : Follows f (Node.retextEntries f) (blockEntries fuel) (blockEntries fuel)
  flowItems (first : Bool) :
    Follows f (Node.retextItems f) (flowItems first fuel) (flowItems first fuel)
  flowPair :
    Follows f (fun p => (p.1.retext f, p.2.retext f)) (flowPair fuel) (flowPair fuel)
  flowEntries (first : Bool) :
    Follows f (Node.retextEntries f) (flowEntries first fuel) (flowEntries first fuel)

section Rules

variable {fuel : Nat} (h : FollowsAt f fuel)

include h

theorem node_follows (block indentless : Bool) :
    Follows f (Node.retext f) (node block indentless (fuel + 1))
      (node block indentless (fuel + 1)) := by
  refine .bind .peek fun t => ?_
  split
  · exact .bind .skip fun _ => .aliasNode _
  · next hne =>
    refine .of_eq ?_ ?_
    · cases t <;> first | rfl | exact (hne _ rfl).elim
    · refine .bind .properties fun p => .bind (.begin _) fun number => ?_
      have hfinish {x x' : Grammar Node} (hx : Follows f (Node.retext f) x x') :
          Follows f (Node.retext f) (x >>= finish number) (x' >>= finish number) :=
        .bind hx (.finish number)
      have hblank : Follows f (Node.retext f)
          (if p.1.isSome || p.2.isSome then pure (.scalar [] .plain p.2) else fail .missingContent)
          (if p.1.isSome || p.2.isSome then pure (.scalar [] .plain p.2)
            else fail .missingContent) := by
        split
        · exact .pure rfl
        · exact .fail _ _
      refine .bind .peek fun t => ?_
      cases t
      case scalar text kind => exact .bind .skip fun _ => hfinish (.pure rfl)
      case blockEntry =>
        cases indentless
        · exact hfinish hblank
        · exact .bind h.indentlessItems fun _ => hfinish (.pure rfl)
      case flowSequence =>
        exact .bind .skip fun _ => .bind (h.flowItems true) fun _ => hfinish (.pure rfl)
      case flowMapping =>
        exact .bind .skip fun _ => .bind (h.flowEntries true) fun _ => hfinish (.pure rfl)
      case blockSequence =>
        cases block
        · exact hfinish hblank
        · exact .bind .skip fun _ => .bind h.blockItems fun _ => hfinish (.pure rfl)
      case blockMapping =>
        cases block
        · exact hfinish hblank
        · exact .bind .skip fun _ => .bind h.blockEntries fun _ => hfinish (.pure rfl)
      all_goals exact hfinish hblank

theorem blockItems_follows :
    Follows f (Node.retextItems f) (blockItems (fuel + 1)) (blockItems (fuel + 1)) := by
  refine .bind .peek fun t => ?_
  cases t
  case blockEntry =>
    refine .bind .skip fun _ => .bind .peek fun t => ?_
    extract_lets join
    have hjoin (item : Node) : Follows f (Node.retextItems f) (join item) (join (item.retext f)) :=
      .bind h.blockItems fun _ => .pure rfl
    cases t
    case blockEntry => exact hjoin .empty
    case blockEnd => exact hjoin .empty
    all_goals exact .bind (h.node true false) hjoin
  case blockEnd => exact .bind .skip fun _ => .pure rfl
  all_goals exact .fail _ _

theorem indentlessItems_follows :
    Follows f (Node.retextItems f) (indentlessItems (fuel + 1)) (indentlessItems (fuel + 1)) := by
  refine .bind .peek fun t => ?_
  cases t
  case blockEntry =>
    refine .bind .skip fun _ => .bind .peek fun t => ?_
    extract_lets join
    have hjoin (item : Node) : Follows f (Node.retextItems f) (join item) (join (item.retext f)) :=
      .bind h.indentlessItems fun _ => .pure rfl
    cases t
    case blockEntry => exact hjoin .empty
    case key => exact hjoin .empty
    case value => exact hjoin .empty
    case blockEnd => exact hjoin .empty
    all_goals exact .bind (h.node true false) hjoin
  all_goals exact .pure rfl

theorem blockPart_follows :
    Follows f (Node.retext f) (blockPart (fuel + 1)) (blockPart (fuel + 1)) := by
  refine .bind .peek fun t => ?_
  cases t
  case key => exact .pure rfl
  case value => exact .pure rfl
  case blockEnd => exact .pure rfl
  all_goals exact h.node true true

theorem blockEntries_follows :
    Follows f (Node.retextEntries f) (blockEntries (fuel + 1)) (blockEntries (fuel + 1)) := by
  refine .bind .peek fun t => ?_
  cases t
  case key =>
    refine .bind .skip fun _ => .bind h.blockPart fun key => .bind .peek fun t => ?_
    extract_lets join join'
    have hjoin (value : Node) :
        Follows f (Node.retextEntries f) (join value) (join' (value.retext f)) :=
      .bind h.blockEntries fun _ => .pure rfl
    cases t
    case value => exact .bind .skip fun _ => .bind h.blockPart hjoin
    all_goals exact hjoin .empty
  case blockEnd => exact .bind .skip fun _ => .pure rfl
  all_goals exact .fail _ _

theorem flowItems_follows (first : Bool) :
    Follows f (Node.retextItems f) (flowItems first (fuel + 1)) (flowItems first (fuel + 1)) := by
  refine .bind .peek fun t => ?_
  split
  · exact .bind .skip fun _ => .pure rfl
  · next hne =>
    refine .of_eq ?_ ?_
    · cases t <;> first | rfl | exact (hne rfl).elim
    · refine .bind (.separator first) fun _ => .bind .peek fun t => ?_
      cases t
      case key =>
        exact .bind .skip fun _ => .bind h.flowPair fun _ => .bind (h.flowItems false) fun _ =>
          .pure rfl
      case flowSequenceEnd => exact .bind .skip fun _ => .pure rfl
      all_goals
        exact .bind (h.node false false) fun _ => .bind (h.flowItems false) fun _ => .pure rfl

theorem flowPair_follows :
    Follows f (fun p => (p.1.retext f, p.2.retext f)) (flowPair (fuel + 1))
      (flowPair (fuel + 1)) := by
  refine .bind .peek fun t => ?_
  extract_lets join
  have hjoin (key : Node) :
      Follows f (fun p => (p.1.retext f, p.2.retext f)) (join key) (join (key.retext f)) := by
    refine .bind .peek fun t => ?_
    cases t
    case value =>
      refine .bind .skip fun _ => .bind .peek fun t => ?_
      cases t
      case flowEntry => exact .pure rfl
      case flowSequenceEnd => exact .pure rfl
      all_goals exact .bind (h.node false false) fun _ => .pure rfl
    all_goals exact .pure rfl
  cases t
  case value => exact .bind .skip fun _ => hjoin .empty
  case flowEntry => exact .bind .skip fun _ => hjoin .empty
  case flowSequenceEnd => exact .bind .skip fun _ => hjoin .empty
  all_goals exact .bind (h.node false false) hjoin

theorem flowEntries_follows (first : Bool) :
    Follows f (Node.retextEntries f) (flowEntries first (fuel + 1))
      (flowEntries first (fuel + 1)) := by
  refine .bind .peek fun t => ?_
  split
  · exact .bind .skip fun _ => .pure rfl
  · next hne =>
    refine .of_eq ?_ ?_
    · cases t <;> first | rfl | exact (hne rfl).elim
    · refine .bind (.separator first) fun _ => .bind .peek fun t => ?_
      cases t
      case key =>
        refine .bind .skip fun _ => .bind .peek fun t => ?_
        extract_lets join
        have hjoin (key : Node) :
            Follows f (Node.retextEntries f) (join key) (join (key.retext f)) := by
          refine .bind .peek fun t => ?_
          extract_lets join join'
          have hjoin (value : Node) :
              Follows f (Node.retextEntries f) (join value) (join' (value.retext f)) :=
            .bind (h.flowEntries false) fun _ => .pure rfl
          cases t
          case value =>
            refine .bind .skip fun _ => .bind .peek fun t => ?_
            cases t
            case flowEntry => exact hjoin .empty
            case flowMappingEnd => exact hjoin .empty
            all_goals exact .bind (h.node false false) hjoin
          all_goals exact hjoin .empty
        cases t
        case value => exact hjoin .empty
        case flowEntry => exact hjoin .empty
        case flowMappingEnd => exact hjoin .empty
        all_goals exact .bind (h.node false false) hjoin
      case flowMappingEnd => exact .bind .skip fun _ => .pure rfl
      all_goals
        exact .bind (h.node false false) fun _ => .bind (h.flowEntries false) fun _ => .pure rfl

end Rules

theorem followsAt (f : List Char → List Char) (fuel : Nat) : FollowsAt f fuel := by
  -- the readers call each other, so all of them are taken through one induction
  induction fuel with
  | zero =>
    exact ⟨fun _ _ => .fail _ _, .fail _ _, .fail _ _, .fail _ _, .fail _ _, fun _ => .fail _ _,
      .fail _ _, fun _ => .fail _ _⟩
  | succ fuel ih =>
    exact ⟨node_follows ih, blockItems_follows ih, indentlessItems_follows ih,
      blockPart_follows ih, blockEntries_follows ih, flowItems_follows ih, flowPair_follows ih,
      flowEntries_follows ih⟩

theorem directives_retext (versioned : Bool) (handles : List (List Char × List Char))
    (ts : List Token) :
    directives versioned handles (ts.map (Token.retext f)) =
      (directives versioned handles ts).map fun p => (p.1, p.2.map (Token.retext f)) := by
  induction ts generalizing versioned handles with
  | nil => rfl
  | cons t ts ih =>
    cases t
    case versionDirective major minor =>
      simp only [List.map_cons, Token.retext, directives, ih]
      split
      · rfl
      · split <;> rfl
    case tagDirective handle start =>
      simp only [List.map_cons, Token.retext, directives, ih]
      split <;> rfl
    all_goals rfl

theorem root_follows (fuel : Nat) : Follows f (Node.retext f) (root fuel) (root fuel) := by
  refine .bind .peek fun t => ?_
  cases t
  case versionDirective => exact .pure rfl
  case tagDirective => exact .pure rfl
  case documentStart => exact .pure rfl
  case documentEnd => exact .pure rfl
  case streamEnd => exact .pure rfl
  all_goals exact (followsAt f fuel).node true false

theorem retext_eq_streamEnd {t : Token} : t.retext f = .streamEnd ↔ t = .streamEnd := by
  cases t <;> simp [Token.retext]

theorem dropWhile_documentEnd_retext (ts : List Token) :
    (ts.map (Token.retext f)).dropWhile (· = .documentEnd) =
      (ts.dropWhile (· = .documentEnd)).map (Token.retext f) := by
  induction ts with
  | nil => rfl
  | cons t ts ih =>
    cases t
    case documentEnd => exact ih
    all_goals rfl

theorem document_follows (first : Bool) (fuel : Nat) :
    Follows f (Option.map (Document.retext f)) (document first fuel) (document first fuel) := by
  unfold document
  extract_lets join rest
  have hjoin (n : Node) :
      Follows f (Option.map (Document.retext f)) (join n) (join (n.retext f)) := by
    refine .bind .peek fun t => ?_
    cases t
    case documentEnd => exact .bind .skip fun _ => .get fun _ => .pure rfl
    all_goals exact .get fun _ => .pure rfl
  have hrest : Follows f (Option.map (Document.retext f)) (rest ()) (rest ()) := by
    refine .bind (.change fun s => rfl) fun _ => .bind .peek fun start => ?_
    extract_lets bare bare'
    have hbare : bare' = bare := by cases start <;> rfl
    simp only [retext_eq_streamEnd, hbare]
    split
    · exact .pure rfl
    · split
      · exact .bind ((followsAt f fuel).node true false) hjoin
      · refine .get fun s => ?_
        rw [show (s.retext f).tokens = s.tokens.map (Token.retext f) from rfl, directives_retext]
        cases directives false [] s.tokens with
        | error e => exact fun _ => rfl
        | ok p =>
          refine .bind (r := fun p => (p.1, p.2.map (Token.retext f))) (fun _ => rfl) fun p => ?_
          refine .bind (r := id) (fun _ => rfl) fun _ => .bind .peek fun t => ?_
          cases t
          case documentStart => exact .bind .skip fun _ => .bind (root_follows fuel) hjoin
          all_goals exact .bind (.fail (Node.retext f) _) hjoin
  cases first
  · refine .bind (.change fun s => ?_) fun _ => hrest
    simp [GrammarState.retext, dropWhile_documentEnd_retext]
  · exact hrest

/-- The documents of tokens with other texts are the same documents with these texts. -/
theorem documents_retext (fuel n : Nat) (first : Bool) (s : GrammarState) :
    documents fuel first n (s.retext f) =
      ((documents fuel first n s).1.map (Document.retext f), (documents fuel first n s).2) := by
  induction n generalizing first s with
  | zero => rfl
  | succ n ih =>
    simp only [documents]
    rw [document_follows first fuel s]
    cases (document first fuel).run s with
    | error e => rfl
    | ok p =>
      obtain ⟨d, t⟩ := p
      cases d with
      | none => rfl
      | some d => simp [Except.map, ih]

end Grammar

def documentsOf (ts : List Token) : List Document × Option SyntaxError :=
  match Grammar.documents (3 * ts.length + 3) true (ts.length + 1) ⟨ts, .outOfFuel, [], .empty⟩ with
  | ([], none) => ([⟨.empty, .empty⟩], none)
  | result => result

theorem documents_of_tokens {cs : List Char} {ts : List Token} (h : tokens cs = (ts, none)) :
    documents cs = documentsOf ts := by
  simp only [documents, h]
  rfl

theorem documentsOf_retext (f : List Char → List Char) (ts : List Token) :
    documentsOf (ts.map (Token.retext f)) =
      ((documentsOf ts).1.map (Document.retext f), (documentsOf ts).2) := by
  have hstate : (⟨ts.map (Token.retext f), .outOfFuel, [], .empty⟩ : GrammarState) =
      GrammarState.retext f ⟨ts, .outOfFuel, [], .empty⟩ := rfl
  simp only [documentsOf, List.length_map, hstate, Grammar.documents_retext]
  generalize Grammar.documents _ _ _ _ = result
  obtain ⟨ds, e⟩ := result
  cases ds <;> cases e <;> rfl

mutual
/-- The node has no aliases and tags, and neither its keys nor its plain scalars are names. -/
def Node.avoids (names : List (List Char)) : Node → Bool
  | .scalar text kind tag => tag.isNone && (kind ≠ .plain || !names.contains text)
  | .sequence items tag => tag.isNone && Node.itemsAvoid names items
  | .mapping entries tag => tag.isNone && Node.entriesAvoid names entries
  | .alias _ => false

def Node.itemsAvoid (names : List (List Char)) : List Node → Bool
  | [] => true
  | n :: rest => n.avoids names && Node.itemsAvoid names rest

def Node.entriesAvoid (names : List (List Char)) : List (Node × Node) → Bool
  | [] => true
  | (.scalar text _ _, v) :: rest =>
    !names.contains text && v.avoids names && Node.entriesAvoid names rest
  | _ :: _ => false
end

section Reading

variable {f : List Char → List Char} {α β : Type}

/-- Where the first step succeeds, so does the second one, and `r` gives its result. -/
def Yields (r : α → β) (x : Read α) (x' : Read β) : Prop :=
  ∀ n a m, x.run n = .ok (a, m) → x'.run n = .ok (r a, m)

theorem Yields.pure {r : α → β} {a : α} {b : β} (h : b = r a) :
    Yields r (Pure.pure a) (Pure.pure b) := by
  intro n a' m heq
  cases heq
  rw [h]
  rfl

theorem Yields.bind {γ δ : Type} {r : α → β} {q : γ → δ} {x : Read α} {x' : Read β}
    {k : α → Read γ} {k' : β → Read δ} (hx : Yields r x x') (hk : ∀ a, Yields q (k a) (k' (r a))) :
    Yields q (x >>= k) (x' >>= k') := by
  intro n c m h
  obtain ⟨⟨a, l⟩, ha, h⟩ := bind_eq_ok.mp h
  exact bind_eq_ok.mpr ⟨(r a, l), hx n a l ha, hk a l c m h⟩

theorem Yields.located {r : α → β} {x : Read α} {x' : Read β} (place : Place)
    (h : Yields r x x') : Yields r (Yaml.located place x) (Yaml.located place x') := by
  intro n a m heq
  simp only [StateT.run, Yaml.located] at heq ⊢
  cases hx : x n with
  | error e =>
    rw [hx] at heq
    cases heq
  | ok p =>
    rw [hx] at heq
    cases heq
    rw [show x' n = .ok (r a, m) from h n a m hx]

theorem Yields.ofResult {r : α → β} {x : Except DecodeError α} {x' : Except DecodeError β}
    (h : ∀ a, x = .ok a → x' = .ok (r a)) : Yields r (Yaml.ofResult x) (Yaml.ofResult x') := by
  intro n a m heq
  cases hx : x with
  | error e =>
    rw [hx] at heq
    cases heq
  | ok b =>
    rw [hx] at heq
    cases heq
    rw [h a hx]
    rfl

variable {names : List (List Char)}

theorem retext_of_anyScalar {text : List Char} (htext : f text = text) {v : Json}
    (hv : anyScalar text .plain none = .ok v) : v.retext f = v := by
  simp only [anyScalar, scalarFound, Option.any_none, Bool.false_eq_true, if_false] at hv
  cases hp : plainValue text with
  | text =>
    rw [hp] at hv
    cases hv
    simp [Json.retext, htext]
  | null =>
    rw [hp] at hv
    cases hv
    rfl
  | bool b =>
    rw [hp] at hv
    cases hv
    rfl
  | double d =>
    rw [hp] at hv
    cases hv
    split <;> rfl
  | int n =>
    rw [hp] at hv
    cases hn : fitsWord n <;> simp [hn, bind, Except.bind] at hv
    all_goals
      subst hv
      rfl

theorem anyScalar_retext (hf : ∀ text, text ∉ names → f text = text) {text : List Char}
    {kind : ScalarKind} (h : (Node.scalar text kind none).avoids names) {v : Json}
    (hv : anyScalar text kind none = .ok v) :
    anyScalar (kind.retext f text) kind none = .ok (v.retext f) := by
  by_cases hkind : kind = .plain
  · subst hkind
    have htext : f text = text := hf text (by simpa [Node.avoids] using h)
    rw [ScalarKind.retext, if_pos rfl, hv, retext_of_anyScalar htext hv]
  · simp only [anyScalar, scalarFound, if_neg hkind, ScalarKind.retext] at hv ⊢
    cases hv
    simp [Json.retext, bind, Except.bind]

theorem retextFields_eq_map (fields : Fields Json) :
    Json.retextFields f fields = fields.map fun p => (p.1, p.2.retext f) := by
  induction fields with
  | nil => rfl
  | cons p rest ih => rw [Json.retextFields, List.map_cons, ih]

theorem insert_retextFields (k : String) (v : Json) (fields : Fields Json) :
    Json.retextFields f (Fields.insert k v fields) =
      Fields.insert k (v.retext f) (Json.retextFields f fields) := by
  rw [retextFields_eq_map, retextFields_eq_map, Fields.insert_map]

theorem Yields.readItems {read read' : Place → Node → Read Json} {items : List Node}
    (hitems : Node.itemsAvoid names items) (place : Place)
    (hread : ∀ place n, n.avoids names →
      Yields (Json.retext f) (read place n) (read' place (n.retext f))) (index : Nat) :
    Yields (Json.retextItems f) (Yaml.readItems read place index items)
      (Yaml.readItems read' place index (Node.retextItems f items)) := by
  induction items generalizing index with
  | nil => exact .pure rfl
  | cons n rest ih =>
    simp only [Node.itemsAvoid, Bool.and_eq_true] at hitems
    exact .bind (hread _ n hitems.1) fun _ => .bind (ih hitems.2 (index + 1)) fun _ => .pure rfl

theorem retext_of_key (hf : ∀ text, text ∉ names → f text = text) {text : List Char}
    (htext : text ∉ names) (kind : ScalarKind) : kind.retext f text = text := by
  unfold ScalarKind.retext
  split
  · rfl
  · exact hf text htext

theorem Yields.readEntries (hf : ∀ text, text ∉ names → f text = text) (anchors : Anchors)
    {read read' : Place → Node → Read Json} {entries : List (Node × Node)}
    (hentries : Node.entriesAvoid names entries) (place : Place)
    (hread : ∀ place n, n.avoids names →
      Yields (Json.retext f) (read place n) (read' place (n.retext f)))
    (first others : String) (done : Fields Json) :
    Yields (Json.retextFields f) (Yaml.readEntries anchors first others read place done entries)
      (Yaml.readEntries (anchors.retext f) first others read' place (Json.retextFields f done)
        (Node.retextEntries f entries)) := by
  induction entries generalizing first done with
  | nil => exact .pure rfl
  | cons p rest ih =>
    obtain ⟨key, value⟩ := p
    cases key
    case scalar text kind tag =>
      simp only [Node.entriesAvoid, Bool.and_eq_true, Bool.not_eq_true', List.contains_iff_mem,
        ← Bool.not_eq_true] at hentries
      obtain ⟨⟨htext, hvalue⟩, hrest⟩ := hentries
      simp only [Node.retextEntries, Node.retext, retext_of_key hf htext kind]
      refine .bind (r := id) (.located place (.pure rfl)) fun p => ?_
      refine .bind (hread _ value hvalue) fun v => ?_
      rw [← insert_retextFields]
      exact ih hrest others _
    all_goals cases hentries

theorem readNode_scalar (anchors : Anchors) (depth : Nat) (place : Place) (text : List Char)
    (kind : ScalarKind) :
    Yaml.readNode anchors depth .anything place (.scalar text kind none) =
      Yaml.located place (Yaml.ofResult (anyScalar text kind none)) := by
  unfold Yaml.readNode
  simp [follow, readScalar]

theorem readNode_sequence (anchors : Anchors) (depth : Nat) (place : Place) (items : List Node) :
    Yaml.readNode anchors (depth + 1) .anything place (.sequence items none) =
      Yaml.readItems (Yaml.readNode anchors depth .anything) place 0 items >>= fun vs =>
        pure (.array vs) := by
  rw [Yaml.readNode] <;> simp [follow]

theorem readNode_mapping (anchors : Anchors) (depth : Nat) (place : Place)
    (entries : List (Node × Node)) :
    Yaml.readNode anchors (depth + 1) .anything place (.mapping entries none) =
      Yaml.located place (Yaml.readEntries anchors "a string key" "a string"
        (Yaml.readNode anchors depth .anything) place [] entries) >>= fun fields =>
          pure (.object fields) := by
  rw [Yaml.readNode] <;> simp [follow]

theorem readNode_zero (anchors : Anchors) (place : Place) {n : Node} (hn : n.avoids names) :
    Yaml.readNode anchors 0 .anything place n = throw .tooDeep ∨
      ∃ text kind, n = .scalar text kind none := by
  cases n with
  | scalar text kind tag =>
    obtain rfl : tag = none := by simp_all [Node.avoids]
    exact .inr ⟨text, kind, rfl⟩
  | sequence items tag =>
    obtain rfl : tag = none := by simp_all [Node.avoids]
    refine .inl ?_
    rw [Yaml.readNode] <;> simp [follow]
  | mapping entries tag =>
    obtain rfl : tag = none := by simp_all [Node.avoids]
    refine .inl ?_
    rw [Yaml.readNode] <;> simp [follow]
  | «alias» slot => cases hn

theorem Yields.readScalar (hf : ∀ text, text ∉ names → f text = text) (anchors : Anchors)
    (depth : Nat) (place : Place) {text : List Char} {kind : ScalarKind}
    (hn : (Node.scalar text kind none).avoids names) :
    Yields (Json.retext f) (Yaml.readNode anchors depth .anything place (.scalar text kind none))
      (Yaml.readNode (anchors.retext f) depth .anything place
        ((Node.scalar text kind none).retext f)) := by
  rw [Node.retext, readNode_scalar, readNode_scalar]
  exact .located place (.ofResult fun v hv => anyScalar_retext hf hn hv)

theorem Yields.readNode (hf : ∀ text, text ∉ names → f text = text) (anchors : Anchors)
    (depth : Nat) (place : Place) (n : Node) (hn : n.avoids names) :
    Yields (Json.retext f) (Yaml.readNode anchors depth .anything place n)
      (Yaml.readNode (anchors.retext f) depth .anything place (n.retext f)) := by
  induction depth generalizing place n with
  | zero =>
    obtain hdeep | ⟨text, kind, rfl⟩ := readNode_zero anchors place hn
    · intro k v m h
      rw [hdeep] at h
      cases h
    · exact .readScalar hf anchors 0 place hn
  | succ depth ih =>
    cases n with
    | scalar text kind tag =>
      obtain rfl : tag = none := by simp_all [Node.avoids]
      exact .readScalar hf anchors _ place hn
    | sequence items tag =>
      obtain rfl : tag = none := by simp_all [Node.avoids]
      have hitems : Node.itemsAvoid names items := by simpa [Node.avoids] using hn
      rw [Node.retext, readNode_sequence, readNode_sequence]
      exact .bind (.readItems hitems place ih 0) fun _ => .pure rfl
    | mapping entries tag =>
      obtain rfl : tag = none := by simp_all [Node.avoids]
      have hentries : Node.entriesAvoid names entries := by simpa [Node.avoids] using hn
      rw [Node.retext, readNode_mapping, readNode_mapping]
      exact .bind (.located place (.readEntries hf anchors hentries place ih _ _ [])) fun _ =>
        .pure rfl
    | «alias» slot => cases hn

theorem Document.read_retext (hf : ∀ text, text ∉ names → f text = text) {d : Document}
    (hd : d.root.avoids names) {v : Json} (h : d.read .anything = .ok v) :
    (d.retext f).read .anything = .ok (v.retext f) := by
  simp only [Document.read, Document.retext, Node.size_retext] at h ⊢
  split at h
  · next w n hw =>
    cases h
    have hread := Yields.located [] (Yields.readNode hf d.anchors maxDepth [] d.root hd)
    rw [hread _ _ _ hw]
  · cases h

theorem readValues_retext (hf : ∀ text, text ∉ names → f text = text) {ds : List Document}
    (hds : ds.all fun d => d.root.avoids names) {vs : List Json}
    (h : readValues ds = (vs, false)) :
    readValues (ds.map (Document.retext f)) = (vs.map (Json.retext f), false) := by
  induction ds generalizing vs with
  | nil =>
    cases h
    rfl
  | cons d rest ih =>
    simp only [List.all_cons, Bool.and_eq_true] at hds
    rw [readValues] at h
    split at h
    · cases h
    · next v hv =>
      simp only [Prod.mk.injEq] at h
      obtain ⟨rfl, hrest⟩ := h
      rw [List.map_cons, readValues, Document.read_retext hf hds.1 hv]
      simp [ih hds.2 (Prod.ext rfl hrest)]

/-- A text whose tokens are those of another one, with other texts, has the same values with these
texts. -/
theorem values_retext (hf : ∀ text, text ∉ names → f text = text) {cs : List Char}
    {ts : List Token} {ds : List Document} {vs : List Json}
    (htokens : tokens cs = (ts.map (Token.retext f), none)) (hds : documentsOf ts = (ds, none))
    (havoids : ds.all fun d => d.root.avoids names) (hvs : readValues ds = (vs, false)) :
    values cs = (vs.map (Json.retext f), false) := by
  rw [values, documents_of_tokens htokens, documentsOf_retext, hds]
  simp [readValues_retext hf havoids hvs]

end Reading

end Yaml

end OverlayConfig
