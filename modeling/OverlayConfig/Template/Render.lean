import OverlayConfig.Template.Evaluation
import OverlayConfig.Template.Parser
/-!
Rendering templates: the parts of a template write text one after the other and give values to
names.
-/
set_option autoImplicit false

namespace OverlayConfig.Template

def loopValue (i depth index : Nat) (length : Option Nat) (previous next : Value) : Value :=
  let counted (f : Nat → Nat) : Value := (length.map fun n => Value.ofNat (f n)).getD
    (.undefined false)
  let entries : List (String × Value) :=
    [("index0", .ofNat index), ("index", .ofNat (index + 1)), ("length", counted id),
      ("revindex", counted (· - index)), ("revindex0", counted (· - index - 1)),
      ("first", .bool (index = 0)), ("last", .bool (length.any (index + 1 = ·))),
      ("depth", .ofNat (depth + 1)), ("depth0", .ofNat depth), ("previtem", previous),
      ("nextitem", next)]
  .loop i index length (entries.map fun p => (Value.ofString p.1, p.2))

def loopElements (v : Value) : Except ErrorKind (List Value) := do
  let v ← v.defined
  match v.elements? with
  | some items => .ok items
  | none => .error .invalidOperation

/-- Looks for the first of several templates by their names. There are no other templates. -/
def findTemplate (names : Value) (mayMiss : Bool) : Except ErrorKind Unit := do
  let choices := (sharedItems names).toOption.getD [names]
  if choices.any fun name => name.kind ≠ .text then .error .invalidOperation
  else if choices.isEmpty || mayMiss then .ok ()
  else .error .templateNotFound

/-- Whether a value asks for characters to be escaped: it names a way of doing so, or is true. -/
def escapingOf (mode : Value) : Except ErrorKind Bool :=
  match mode.chars? with
  | some cs =>
    if cs = "html".toList then .ok true
    else if cs = "none".toList then .ok false
    else .error .invalidOperation
  | none => .ok (Value.equal mode (.bool true))

abbrev Written := Eval (List Char × Scopes)

section

variable (perform : Invocation → Eval (List Char))

def runTurns (body : Scopes → Written) (target : Target) (loop : LoopFrame) (i : Nat)
    (scopes : Scopes) (length : Option Nat) :
    (index : Nat) → (previous : Value) → List Value → Eval (List Char)
  | _, _, [] => pure []
  | index, previous, v :: rest => do
    let next := rest.head?.getD (.undefined false)
    let names : Fields Value := [("loop", loopValue i loop.depth index length previous next)]
    let inner ← scopes.enter { names, loop := some loop }
    let inner ← assignTarget perform v target inner
    let (cs, _) ← body inner
    let more ← runTurns body target loop i scopes length (index + 1) v rest
    pure (cs ++ more)

def runLoop (body : Scopes → Written) (target : Target) (again : Option LoopBody)
    (scopes : Scopes) (length : Option Nat) (elements : List Value) : Eval (List Char) := do
  let i ← Memory.fresh
  runTurns perform body target ⟨scopes.loopDepth, again⟩ i scopes length 0 (.undefined false)
    elements

def selected (scopes : Scopes) (target : Target) (condition : Expr) :
    List Value → Eval (List Value)
  | [] => pure []
  | v :: rest => do
    let inner ← scopes.enter { loop := some ⟨scopes.loopDepth, none⟩ }
    let inner ← assignTarget perform v target inner
    let test ← eval perform inner condition
    let keep ← test.truth
    let vs ← selected scopes target condition rest
    pure (if keep then v :: vs else vs)

def bindAll : List (Target × Expr) → Scopes → Eval Scopes
  | [], scopes => pure scopes
  | (t, e) :: rest, scopes => do
    let v ← eval perform scopes e
    let scopes ← assignTarget perform v t scopes
    bindAll rest scopes

def write (scopes : Scopes) (v : Value) : Written := do
  let v ← v.defined
  pure (scopes.textOf v, scopes)

def keepProcedure (name : String) (parameters : Parameters) (takesPart : Bool) (body : List Stmt)
    (scopes : Scopes) : Eval (Value × Scopes) := do
  let (captured, scopes) ← scopes.capture
  let v ← Memory.newProcedure name ⟨parameters, body, captured⟩ takesPart
  pure (v, scopes)

mutual
def run : Stmt → Scopes → Written
  | .raw cs, scopes => pure (cs, scopes)
  | .output e, scopes => do
    let v ← eval perform scopes e
    write scopes v
  | .conditional test yes no, scopes => do
    let t ← eval perform scopes test
    if ← t.truth then runAll yes scopes else runAll no scopes
  | .loop target source condition recursive body alternative, scopes => do
    let v ← eval perform scopes source
    let elements ← loopElements v
    let kept ← match condition with
      | none => pure elements
      | some e => selected perform scopes target e elements
    let length := if condition.isSome then some kept.length else v.loopLength?
    if kept.isEmpty then runAll alternative scopes
    else
      let again : Option LoopBody := if recursive then some ⟨target, body⟩ else none
      let cs ← runLoop perform (runAll body) target again scopes length kept
      pure (cs, scopes)
  | .assign target e, scopes => do
    let v ← eval perform scopes e
    let scopes ← assignTarget perform v target scopes
    pure ([], scopes)
  | .capture target filters body, scopes => do
    let (cs, scopes) ← runAll body scopes
    let v ← evalFilters perform scopes (scopes.written cs) filters
    let scopes ← assignTarget perform v target scopes
    pure ([], scopes)
  | .filtered filters body, scopes => do
    let (cs, scopes) ← runAll body scopes
    let v ← evalFilters perform scopes (scopes.written cs) filters
    write scopes v
  | .escaped mode body, scopes => do
    let v ← eval perform scopes mode
    let escaping ← escapingOf v
    -- no frame of its own: names that the body sets stay, and only the escaping is taken back
    let (cs, inner) ← runAll body { scopes with escaping }
    pure (cs, { inner with escaping := scopes.escaping })
  | .scope bindings body, scopes => do
    let inner ← scopes.enter {}
    let inner ← bindAll perform bindings inner
    let (cs, _) ← runAll body inner
    pure (cs, scopes)
  | .block name, scopes => do
    let cs ← callBlock perform scopes name
    pure (cs, scopes)
  | .load names mayMiss, scopes => do
    let v ← eval perform scopes names
    findTemplate v mayMiss
    pure ([], scopes)
  | .extend name, scopes => do
    match (← eval perform scopes name).kind with
    | .text => throw ErrorKind.templateNotFound
    | _ => throw ErrorKind.invalidOperation
  | .procedure name parameters takesPart body, scopes => do
    let (v, scopes) ← keepProcedure name parameters takesPart body scopes
    let scopes ← scopes.assign name v
    pure ([], scopes)
  | .call callee arguments parameters takesPart body, scopes => do
    let (part, scopes) ← keepProcedure "caller" parameters takesPart body scopes
    let v ← eval perform scopes (.call callee (arguments ++ [(.named "caller", .const part)]))
    write scopes v
  | .perform e, scopes => do
    let _ ← eval perform scopes e
    pure ([], scopes)

def runAll : List Stmt → Scopes → Written
  | [], scopes => pure ([], scopes)
  | s :: rest, scopes => do
    let (cs, scopes) ← run s scopes
    let (more, scopes) ← runAll rest scopes
    pure (cs ++ more, scopes)
end

/-- Gives parameters their values, the last one first. One that is not given has a value of its own
if there is one, which knows the parameters after it. -/
def bindParameters : List ((String × Option Expr) × Value) → Scopes → Eval Scopes
  | [], scopes => pure scopes
  | ((name, other), v) :: rest, scopes => do
    let scopes ← bindParameters rest scopes
    let v ← match other, v with
      | some e, .undefined _ => eval perform scopes e
      | _, v => pure v
    scopes.assign name v

def Invocation.run : Invocation → Eval (List Char)
  | .parts scopes parameters body => do
    let scopes ← bindParameters perform parameters scopes
    let (cs, _) ← runAll perform body scopes
    pure cs
  | .loop scopes again source => do
    let elements ← loopElements source
    runLoop perform (runAll perform again.parts) again.target (some again) scopes
      source.loopLength? elements

end

/-- Runs a body that an expression asks for, in which so many further ones may be open. -/
def perform : Nat → Invocation → Eval (List Char)
  | 0, _ => throw .invalidOperation
  | fuel + 1, i => Invocation.run (perform fuel) i

def dataFields : Json → Fields Value
  | .object fields => fields.map fun p => (p.1, Value.ofJson p.2)
  | _ => []

/-- Renders a template with data. Every body that is asked for is deeper by a frame, so there are
never more open ones than frames. -/
def render (source : List Char) (data : Json) : Except ErrorKind (List Char) := do
  let document ← parse source
  let scopes : Scopes := ⟨[{}], .data (dataFields data), 0, false, document.blocks⟩
  let (cs, _) ← (runAll (perform (Scopes.maxDepth + 1)) document.parts scopes).run' {}
  .ok cs

end OverlayConfig.Template
