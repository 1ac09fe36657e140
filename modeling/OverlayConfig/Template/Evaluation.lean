import OverlayConfig.Template.Filters.Selection
import OverlayConfig.Template.Scopes
set_option autoImplicit false

namespace OverlayConfig.Template

inductive Invocation where
  | parts (scopes : Scopes) (parameters : List ((String × Option Expr) × Value))
    (body : List Stmt)
  | loop (scopes : Scopes) (loop : LoopBody) (source : Value)

def foundIn (object : Value) (found : Option Value) : Except ErrorKind Value :=
  if object.isUndefined then .error .undefinedError else .ok (found.getD (.undefined false))

/-- The values of the parameters of what is called, and the part of the template that the call is
given. Every argument needs a parameter. -/
def bindArguments (parameters : List String) (takesPart : Bool) (c : Call) :
    Except ErrorKind (List Value × Option Value) := do
  c.atMostPlain parameters.length
  let values ← parameters.zipIdx.mapM fun p =>
    let named := Value.lookup? (.ofString p.1) c.entries
    let named := if named.any Value.isUndefined then none else named
    match c.values[p.2]?, named with
    | some _, some _ => .error .tooManyArguments
    | some v, none | none, some v => .ok v
    | none, none => .ok (.undefined false)
  c.knowing (if takesPart then "caller" :: parameters else parameters)
  let part := (c.named? "caller").getD (.undefined false)
  .ok (values, if takesPart then some part else none)

section

variable (perform : Invocation → Eval (List Char))

def callProcedure (scopes : Scopes) (i : Nat) (parameters : List String) (takesPart : Bool)
    (c : Call) : Eval Value := do
  match (← get).procedures.lookup i with
  | none => throw ErrorKind.invalidOperation
  | some p =>
    let (values, part) ← bindArguments parameters takesPart c
    let names : Fields Value := (part.map fun v => ("caller", v)).toList
    let inner ← scopes.enterProcedure p { names }
    let cs ← perform (.parts inner (p.parameters.zip values) p.body)
    pure (scopes.written cs)

def callValue (scopes : Scopes) (missing : ErrorKind) (c : Call) : Option Value → Eval Value
  | some (.function name) =>
    if name = "namespace" then do
      let entries ← namespaceEntries c
      Memory.newRecord entries
    else applyFunction name c
  | some (.procedure i _ parameters takesPart) =>
    callProcedure perform scopes i parameters takesPart c
  | some _ => throw .invalidOperation
  | none => throw missing

/-- Calls a method of a value. A loop has one that gives the turns its arguments one after the
other, and one that tells whether its arguments have changed. -/
def callMethod (scopes : Scopes) (name : String) (v : Value) (c : Call) : Eval Value :=
  match v with
  | .loop i turn _ _ =>
    if name = "cycle" then pure ((c.argument? (turn % c.all.length)).getD (.undefined false))
    else if name = "changed" then do
      let changed ← Memory.watch i c.all
      pure (.bool changed)
    else throw .unknownMethod
  | v => callValue perform scopes .unknownMethod c (v.attribute? name)

def callBlock (scopes : Scopes) (name : String) : Eval (List Char) := do
  match scopes.blocks.lookup name with
  | none => throw ErrorKind.unknownBlock
  | some block =>
    if block.required then throw ErrorKind.invalidOperation
    else
      let inner ← scopes.enter {}
      perform (.parts inner [] block.body)

def callLoop (scopes : Scopes) (c : Call) : Eval Value := do
  match c.all, scopes.loop? with
  | [v], some ⟨_, some loop⟩ => do
    let cs ← perform (.loop scopes loop v)
    pure (scopes.written cs)
  | [_], none => throw ErrorKind.unknownFunction
  | _, _ => throw ErrorKind.invalidOperation

def callName (scopes : Scopes) (name : String) (c : Call) : Eval Value := do
  if name = "loop" then callLoop perform scopes c
  else if name = "super" then throw .invalidOperation
  else
    let v ← scopes.lookup? name
    callValue perform scopes .unknownFunction c v

def callOf (arguments : Arguments) (values : List Value) (named : List (Value × Value)) : Call :=
  ⟨values, if arguments.any fun a => a.1.isNamed then some (Value.sortedEntries named) else none⟩

mutual
def eval (scopes : Scopes) : Expr → Eval Value
  | .const v => pure v
  | .variable name => do
    let v ← scopes.lookup? name
    pure (v.getD (.undefined false))
  | .list items => do
    let vs ← evalAll scopes items
    pure (.list vs)
  | .table entries => do
    let entries ← evalEntries scopes entries
    pure (.table (Value.sortedEntries entries))
  | .unary op e => do
    let v ← eval scopes e
    op.apply v
  | .binary op a b => do
    let x ← eval scopes a
    let y ← eval scopes b
    op.apply x y
  | .compared first others => do
    let x ← eval scopes first
    let b ← evalCompared scopes x others
    pure (.bool b)
  -- the operand that decides is the value, and what comes after it is not evaluated
  | .both a b => do
    let x ← eval scopes a
    if ← x.truth then eval scopes b else pure x
  | .either a b => do
    let x ← eval scopes a
    if ← x.truth then pure x else eval scopes b
  | .choice test yes no => do
    let t ← eval scopes test
    if ← t.truth then eval scopes yes else eval scopes no
  | .attribute object name => do
    let v ← eval scopes object
    foundIn v (v.attribute? name)
  | .item object key => do
    let v ← eval scopes object
    let k ← eval scopes key
    foundIn v (v.item? k)
  | .slice object start stop step => do
    let v ← eval scopes object
    let start ← eval scopes start
    let stop ← eval scopes stop
    let step ← eval scopes step
    Value.slice v start stop step
  | .call callee arguments =>
    match callee with
    | .variable name => do
      let vs ← evalPlain scopes arguments
      let ns ← evalNamed scopes arguments
      callName perform scopes name (callOf arguments vs ns)
    | .attribute object name =>
      match object with
      | .variable "self" => do
        let cs ← callBlock perform scopes name
        pure (scopes.written cs)
      | object => do
        let v ← eval scopes object
        let vs ← evalPlain scopes arguments
        let ns ← evalNamed scopes arguments
        callMethod perform scopes name v (callOf arguments vs ns)
    | callee => do
      let v ← eval scopes callee
      let vs ← evalPlain scopes arguments
      let ns ← evalNamed scopes arguments
      callValue perform scopes .invalidOperation (callOf arguments vs ns) (some v)
  | .filtered operand name arguments => do
    let v ← eval scopes operand
    let vs ← evalPlain scopes arguments
    let ns ← evalNamed scopes arguments
    applyFilter name v (callOf arguments vs ns)
  | .tested operand name arguments => do
    let v ← eval scopes operand
    let vs ← evalPlain scopes arguments
    let ns ← evalNamed scopes arguments
    let b ← applyTest name v (callOf arguments vs ns)
    pure (.bool b)

/-- Whether every value stands in its relation to the next one. What comes after a relation that
does not hold is not evaluated. -/
def evalCompared (scopes : Scopes) (x : Value) : List (Relation × Expr) → Eval Bool
  | [] => pure true
  | (r, e) :: rest => do
    let y ← eval scopes e
    if ← r.holds x y then evalCompared scopes y rest else pure false

def evalAll (scopes : Scopes) : List Expr → Eval (List Value)
  | [] => pure []
  | e :: es => do
    let v ← eval scopes e
    let vs ← evalAll scopes es
    pure (v :: vs)

def evalEntries (scopes : Scopes) : List (Expr × Expr) → Eval (List (Value × Value))
  | [] => pure []
  | (k, e) :: es => do
    let key ← eval scopes k
    let v ← eval scopes e
    let vs ← evalEntries scopes es
    pure ((key, v) :: vs)

def evalPlain (scopes : Scopes) : List (ArgumentKind × Expr) → Eval (List Value)
  | [] => pure []
  | (kind, e) :: rest =>
    match kind with
    | .plain => do
      let v ← eval scopes e
      let vs ← evalPlain scopes rest
      pure (v :: vs)
    | .items => do
      let v ← eval scopes e
      let vs ← evalPlain scopes rest
      match v.elements? with
      | some items => pure (items ++ vs)
      | none => throw ErrorKind.invalidOperation
    | .named _ | .entries => evalPlain scopes rest

def evalNamed (scopes : Scopes) : List (ArgumentKind × Expr) → Eval (List (Value × Value))
  | [] => pure []
  | (kind, e) :: rest =>
    match kind with
    | .named name => do
      let v ← eval scopes e
      let vs ← evalNamed scopes rest
      pure ((Value.ofString name, v) :: vs)
    | .entries => do
      let v ← eval scopes e
      let vs ← evalNamed scopes rest
      match v.entries? with
      | some entries => pure (entries ++ vs)
      | none => throw ErrorKind.invalidOperation
    | .plain | .items => evalNamed scopes rest
end

def evalFilters (scopes : Scopes) (v : Value) : List FilterCall → Eval Value
  | [] => pure v
  | f :: rest => do
    let vs ← evalPlain perform scopes f.arguments
    let ns ← evalNamed perform scopes f.arguments
    let v ← applyFilter f.name v (callOf f.arguments vs ns)
    evalFilters scopes v rest

def sharedItems (v : Value) : Except ErrorKind (List Value) :=
  match v.items?, v.entries? with
  | some items, _ => .ok items
  | _, some entries => .ok (entries.map Prod.fst)
  | _, _ => .error .cannotUnpack

mutual
def assignTarget (v : Value) : Target → Scopes → Eval Scopes
  | .name name, scopes => scopes.assign name v
  | .several targets, scopes => do
    let items ← sharedItems v
    assignTargets items targets scopes
  | .attribute object name, scopes => do
    match ← eval perform scopes object with
    | .record i _ => do
      Memory.setRecord i name v
      pure scopes
    | _ => throw ErrorKind.invalidOperation

def assignTargets : List Value → List Target → Scopes → Eval Scopes
  | [], [], scopes => pure scopes
  | v :: vs, t :: ts, scopes => do
    let scopes ← assignTarget v t scopes
    assignTargets vs ts scopes
  | _, _, _ => throw .cannotUnpack
end

end

end OverlayConfig.Template
