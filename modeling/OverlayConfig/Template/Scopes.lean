import OverlayConfig.Fields
import OverlayConfig.Template.Call
import OverlayConfig.Template.Syntax
set_option autoImplicit false

namespace OverlayConfig.Template

structure Procedure where
  parameters : Parameters
  body : List Stmt
  captured : Nat

structure Memory where
  next : Nat := 0
  records : List (Nat × List (Value × Value)) := []
  captures : List (Nat × Fields Value) := []
  procedures : List (Nat × Procedure) := []
  watched : List (Nat × List Value) := []

abbrev Eval := StateT Memory (Except ErrorKind)

def setNumbered {α : Type} (n : Nat) (a : α) : List (Nat × α) → List (Nat × α)
  | [] => [(n, a)]
  | (m, b) :: rest => if m = n then (n, a) :: rest else (m, b) :: setNumbered n a rest

namespace Memory

def fresh : Eval Nat := do
  let n := (← get).next
  modify fun m => { m with next := n + 1 }
  pure n

def maxRefresh : Nat := 40

def refresh (m : Memory) : Nat → Value → Value
  | 0, v => v
  | depth + 1, v =>
    let all := List.map (refresh m depth)
    let values := List.map fun p : Value × Value => (p.1, refresh m depth p.2)
    match v with
    | .list items => .list (all items)
    | .series items => .series (all items)
    | .group key items => .group key (all items)
    | .table entries => .table (values entries)
    | .loop i turn length entries => .loop i turn length (values entries)
    | .record i entries => .record i (values ((m.records.lookup i).getD entries))
    | v => v

def present (m : Memory) (v : Value) : Value :=
  if m.records.isEmpty then v else m.refresh maxRefresh v

def newRecord (entries : List (Value × Value)) : Eval Value := do
  let i ← fresh
  modify fun m => { m with records := (i, entries) :: m.records }
  pure (.record i entries)

def setRecord (i : Nat) (name : String) (v : Value) : Eval Unit :=
  modify fun m =>
    let entries := Value.setEntry (.ofString name) v ((m.records.lookup i).getD [])
    { m with records := setNumbered i entries m.records }

def newProcedure (name : String) (p : Procedure) (takesPart : Bool) : Eval Value := do
  let i ← fresh
  modify fun m => { m with procedures := (i, p) :: m.procedures }
  pure (.procedure i name (p.parameters.map Prod.fst) takesPart)

def watch (i : Nat) (values : List Value) : Eval Bool := do
  let same := ((← get).watched.lookup i).any (Value.equalItems · values)
  if same then pure false
  else
    modify fun m => { m with watched := setNumbered i values m.watched }
    pure true

end Memory

structure LoopBody where
  target : Target
  parts : List Stmt

structure LoopFrame where
  depth : Nat
  again : Option LoopBody

structure Frame where
  names : Fields Value := []
  /-- Where the values are that were captured in this frame; they follow its names. -/
  captured : Option Nat := none
  loop : Option LoopFrame := none

inductive Base where
  | data (fields : Fields Value)
  | captured (i : Nat)

structure Scopes where
  frames : List Frame
  base : Base
  /-- How deep the place is from where this part of the template was called. -/
  callers : Nat
  escaping : Bool
  blocks : List (String × Block)

namespace Scopes

def maxDepth : Nat := 500

def callDepth : Nat := 4

def depth (s : Scopes) : Nat := s.callers + s.frames.length

def enter (s : Scopes) (frame : Frame) : Except ErrorKind Scopes :=
  if maxDepth < s.depth then .error .invalidOperation
  else .ok { s with frames := frame :: s.frames }

/-- The place inside of a body that is called: only captured values are known there, and no
blocks. -/
def enterProcedure (s : Scopes) (p : Procedure) (frame : Frame) : Except ErrorKind Scopes :=
  let inner : Scopes := ⟨[frame], .captured p.captured, s.depth + callDepth, s.escaping, []⟩
  if maxDepth < inner.depth then .error .invalidOperation else .ok inner

def baseFields (s : Scopes) (m : Memory) : Fields Value :=
  match s.base with
  | .data fields => fields
  | .captured i => (m.captures.lookup i).getD []

def find? (name : String) : List Frame → Option Value
  | [] => none
  | frame :: outer =>
    match Fields.get? name frame.names with
    | some v => some v
    | none => find? name outer

def lookup? (s : Scopes) (name : String) : Eval (Option Value) := do
  let m ← get
  match (find? name s.frames).or (Fields.get? name (s.baseFields m)) with
  | some v => pure (some (m.present v))
  | none => pure (if functionNames.contains name then some (.function name) else none)

def assign (s : Scopes) (name : String) (v : Value) : Eval Scopes := do
  match s.frames with
  | [] => pure s
  | frame :: outer =>
    match frame.captured with
    | none => pure ()
    | some i =>
      modify fun m =>
        let fields := Fields.insert name v ((m.captures.lookup i).getD [])
        { m with captures := setNumbered i fields m.captures }
    pure { s with frames := { frame with names := frame.names.insert name v } :: outer }

def visible (s : Scopes) (m : Memory) : Fields Value :=
  s.frames.foldr (fun frame fields => Fields.union fields frame.names) (s.baseFields m)

/-- Captures the values of all names for something that can be called. What was captured before in
the same frame stays. -/
def capture (s : Scopes) : Eval (Nat × Scopes) := do
  let m ← get
  match s.frames with
  | [] => pure (m.next, s)
  | frame :: outer =>
    let i ← match frame.captured with
      | some i => pure i
      | none => Memory.fresh
    let fields := Fields.union (s.visible m) ((m.captures.lookup i).getD [])
    modify fun m => { m with captures := setNumbered i fields m.captures }
    pure (i, { s with frames := { frame with captured := some i } :: outer })

def loop? (s : Scopes) : Option LoopFrame := s.frames.findSome? Frame.loop

def loopDepth (s : Scopes) : Nat :=
  match s.loop? with
  | some ⟨depth, some _⟩ => depth + 1
  | _ => 0

/-- A text that a part of a template has written. Where characters are escaped, those in it are so
already. -/
def written (s : Scopes) (cs : List Char) : Value := if s.escaping then .markup cs else .text cs

def textOf (s : Scopes) (v : Value) : List Char := if s.escaping then v.escaped else v.display

end Scopes

end OverlayConfig.Template
