import OverlayConfig.Yaml.Token
set_option autoImplicit false

namespace OverlayConfig.Yaml

inductive Node where
  | scalar (text : List Char) (kind : ScalarKind) (tag : Option (List Char))
  | sequence (items : List Node) (tag : Option (List Char))
  | mapping (entries : List (Node × Node)) (tag : Option (List Char))
  | alias (slot : Nat)
  deriving Inhabited

namespace Node

def empty : Node := .scalar [] .plain none

mutual
/-- The number of steps that a reader of the document takes without following aliases. -/
def size : Node → Nat
  | .scalar .. | .alias _ => 1
  | .sequence items _ => sizeOfItems items + 2
  | .mapping entries _ => sizeOfEntries entries + 2

def sizeOfItems : List Node → Nat
  | [] => 0
  | n :: rest => size n + sizeOfItems rest

def sizeOfEntries : List (Node × Node) → Nat
  | [] => 0
  | (k, v) :: rest => size k + size v + sizeOfEntries rest
end

end Node

structure Anchors where
  names : List (List Char × Nat)
  slots : List (Nat × Nat)
  nodes : List (Nat × Node)

namespace Anchors

def empty : Anchors := ⟨[], [], []⟩

def register (name : List Char) (anchors : Anchors) : Anchors :=
  let slot := anchors.names.length
  { anchors with
    names := (name, slot) :: anchors.names.filter fun p => p.1 ≠ name
    slots := (slot, anchors.slots.length) :: anchors.slots }

def complete (number : Nat) (node : Node) (anchors : Anchors) : Anchors :=
  { anchors with nodes := (number, node) :: anchors.nodes }

def slot? (name : List Char) (anchors : Anchors) : Option Nat := anchors.names.lookup name

def node? (slot : Nat) (anchors : Anchors) : Option Node := do
  let number ← anchors.slots.lookup slot
  anchors.nodes.lookup number

end Anchors

structure Document where
  root : Node
  anchors : Anchors

structure GrammarState where
  tokens : List Token
  failure : SyntaxError
  handles : List (List Char × List Char)
  anchors : Anchors

abbrev Grammar (α : Type) : Type := StateT GrammarState (Except SyntaxError) α

namespace Grammar

def fail {α : Type} (e : SyntaxError) : Grammar α := throw e

def peek : Grammar Token := do
  let s ← get
  match s.tokens with
  | [] => fail s.failure
  | t :: _ => pure t

def skip : Grammar Unit := modify fun s => { s with tokens := s.tokens.drop 1 }

def anchor? : Grammar (Option (List Char)) := do
  match ← peek with
  | .anchor name => do
    skip
    pure (some name)
  | _ => pure none

def tag? : Grammar (Option (List Char)) := do
  match ← peek with
  | .tag handle suffix => do
    skip
    if handle.isEmpty then pure (some suffix)
    else
      match (← get).handles.lookup handle with
      | some start => pure (some (start ++ suffix))
      | none => fail .undefinedTagHandle
  | _ => pure none

def properties : Grammar (Option (List Char) × Option (List Char)) := do
  match ← anchor? with
  | some name => do
    let tag ← tag?
    pure (some name, tag)
  | none => do
    let tag ← tag?
    let name ← anchor?
    pure (name, tag)

def aliasNode (name : List Char) : Grammar Node := do
  match (← get).anchors.slot? name with
  | some slot => pure (.alias slot)
  | none => fail .undefinedAnchor

def begin (name : Option (List Char)) : Grammar (Option Nat) := do
  match name with
  | none => pure none
  | some name => do
    let number := (← get).anchors.slots.length
    modify fun s => { s with anchors := s.anchors.register name }
    pure (some number)

def finish (number : Option Nat) (node : Node) : Grammar Node := do
  match number with
  | none => pure node
  | some number => do
    modify fun s => { s with anchors := s.anchors.complete number node }
    pure node

def separator (first : Bool) : Grammar Unit := do
  if first then pure ()
  else
    match ← peek with
    | .flowEntry => skip
    | _ => fail .missingSeparator

mutual
/-- The node that starts here. Block collections are only allowed in block context, and a sequence
without indentation only as an entry of a block mapping. -/
def node (block indentless : Bool) : Nat → Grammar Node
  | 0 => fail .outOfFuel
  | fuel + 1 => do
    match ← peek with
    | .alias name => do
      skip
      aliasNode name
    | _ => do
      let (name, tag) ← properties
      let number ← begin name
      let blank : Grammar Node :=
        if name.isSome || tag.isSome then pure (.scalar [] .plain tag) else fail .missingContent
      let found ← match ← peek with
        | .scalar text kind => do
          skip
          pure (.scalar text kind tag)
        | .blockEntry => do
          if indentless then
            let items ← indentlessItems fuel
            pure (.sequence items tag)
          else blank
        | .flowSequence => do
          skip
          let items ← flowItems true fuel
          pure (.sequence items tag)
        | .flowMapping => do
          skip
          let entries ← flowEntries true fuel
          pure (.mapping entries tag)
        | .blockSequence => do
          if block then
            skip
            let items ← blockItems fuel
            pure (.sequence items tag)
          else blank
        | .blockMapping => do
          if block then
            skip
            let entries ← blockEntries fuel
            pure (.mapping entries tag)
          else blank
        | _ => blank
      finish number found

def blockItems : Nat → Grammar (List Node)
  | 0 => fail .outOfFuel
  | fuel + 1 => do
    match ← peek with
    | .blockEntry => do
      skip
      let item ← match ← peek with
        | .blockEntry | .blockEnd => pure .empty
        | _ => node true false fuel
      let items ← blockItems fuel
      pure (item :: items)
    | .blockEnd => do
      skip
      pure []
    | _ => fail .missingDash

def indentlessItems : Nat → Grammar (List Node)
  | 0 => fail .outOfFuel
  | fuel + 1 => do
    match ← peek with
    | .blockEntry => do
      skip
      let item ← match ← peek with
        | .blockEntry | .key | .value | .blockEnd => pure .empty
        | _ => node true false fuel
      let items ← indentlessItems fuel
      pure (item :: items)
    | _ => pure []

def blockPart : Nat → Grammar Node
  | 0 => fail .outOfFuel
  | fuel + 1 => do
    match ← peek with
    | .key | .value | .blockEnd => pure .empty
    | _ => node true true fuel

def blockEntries : Nat → Grammar (List (Node × Node))
  | 0 => fail .outOfFuel
  | fuel + 1 => do
    match ← peek with
    | .key => do
      skip
      let key ← blockPart fuel
      let value ← match ← peek with
        | .value => do
          skip
          blockPart fuel
        | _ => pure .empty
      let entries ← blockEntries fuel
      pure ((key, value) :: entries)
    | .blockEnd => do
      skip
      pure []
    | _ => fail .missingKey

def flowItems (first : Bool) : Nat → Grammar (List Node)
  | 0 => fail .outOfFuel
  | fuel + 1 => do
    match ← peek with
    | .flowSequenceEnd => do
      skip
      pure []
    | _ => do
      separator first
      match ← peek with
      | .key => do
        skip
        let entry ← flowPair fuel
        let items ← flowItems false fuel
        pure (.mapping [entry] none :: items)
      | .flowSequenceEnd => do
        skip
        pure []
      | _ => do
        let item ← node false false fuel
        let items ← flowItems false fuel
        pure (item :: items)

/-- A mapping of one entry as an item of a flow sequence. An empty key takes the token after it. -/
def flowPair : Nat → Grammar (Node × Node)
  | 0 => fail .outOfFuel
  | fuel + 1 => do
    let key ← match ← peek with
      | .value | .flowEntry | .flowSequenceEnd => do
        skip
        pure .empty
      | _ => node false false fuel
    match ← peek with
    | .value => do
      skip
      match ← peek with
      | .flowEntry | .flowSequenceEnd => pure (key, .empty)
      | _ => do
        let value ← node false false fuel
        pure (key, value)
    | _ => pure (key, .empty)

def flowEntries (first : Bool) : Nat → Grammar (List (Node × Node))
  | 0 => fail .outOfFuel
  | fuel + 1 => do
    match ← peek with
    | .flowMappingEnd => do
      skip
      pure []
    | _ => do
      separator first
      match ← peek with
      | .key => do
        skip
        let key ← match ← peek with
          | .value | .flowEntry | .flowMappingEnd => pure .empty
          | _ => node false false fuel
        let value ← match ← peek with
          | .value => do
            skip
            match ← peek with
            | .flowEntry | .flowMappingEnd => pure .empty
            | _ => node false false fuel
          | _ => pure .empty
        let entries ← flowEntries false fuel
        pure ((key, value) :: entries)
      | .flowMappingEnd => do
        skip
        pure []
      | _ => do
        let key ← node false false fuel
        let entries ← flowEntries false fuel
        pure ((key, .empty) :: entries)
end

def standardHandles : List (List Char × List Char) :=
  [(['!'], ['!']), (['!', '!'], "tag:yaml.org,2002:".toList)]

def directives : (versioned : Bool) → (handles : List (List Char × List Char)) → List Token →
    Except SyntaxError (List (List Char × List Char) × List Token)
  | versioned, handles, .versionDirective major minor :: rest =>
    if versioned then .error .duplicateDirective
    else if major = 1 ∧ (minor = 1 ∨ minor = 2) then directives true handles rest
    else .error .unsupportedVersion
  | versioned, handles, .tagDirective handle start :: rest =>
    if (handles.lookup handle).isSome then .error .duplicateDirective
    else directives versioned (handles ++ [(handle, start)]) rest
  | _, handles, rest => .ok (handles ++ standardHandles, rest)

def root (fuel : Nat) : Grammar Node := do
  match ← peek with
  | .versionDirective .. | .tagDirective .. | .documentStart | .documentEnd | .streamEnd =>
    pure .empty
  | _ => node true false fuel

def document (first : Bool) (fuel : Nat) : Grammar (Option Document) := do
  if !first then
    modify fun s => { s with tokens := s.tokens.dropWhile (· = .documentEnd) }
  modify fun s => { s with anchors := .empty, handles := standardHandles }
  let start ← peek
  let bare := match start with
    | .versionDirective .. | .tagDirective .. | .documentStart => false
    | _ => first
  if start = .streamEnd then pure none
  else do
    let root ←
      if bare then node true false fuel
      else do
        let s ← get
        let (handles, tokens) ← (directives false [] s.tokens : Except SyntaxError _)
        set { s with handles := handles, tokens := tokens }
        match ← peek with
        | .documentStart => do
          skip
          root fuel
        | _ => fail .missingDocumentStart
    match ← peek with
    | .documentEnd => skip
    | _ => pure ()
    pure (some ⟨root, (← get).anchors⟩)

def documents (fuel : Nat) :
    (first : Bool) → Nat → GrammarState → List Document × Option SyntaxError
  | _, 0, _ => ([], some .outOfFuel)
  | first, n + 1, s =>
    match (document first fuel).run s with
    | .error e => ([], some e)
    | .ok (none, _) => ([], none)
    | .ok (some d, s) =>
      let (ds, e) := documents fuel false n s
      (d :: ds, e)

end Grammar

/-- The documents of a text up to its end, or the complete ones before an error. A text without
documents is one with nothing in it. -/
def documents (cs : List Char) : List Document × Option SyntaxError :=
  let (ts, failure) := tokens cs
  let state : GrammarState := ⟨ts, failure.getD .outOfFuel, [], .empty⟩
  match Grammar.documents (3 * ts.length + 3) true (ts.length + 1) state with
  | ([], none) => ([⟨.empty, .empty⟩], none)
  | result => result

end OverlayConfig.Yaml
