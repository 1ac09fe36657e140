import OverlayConfig.Template.Operators
set_option autoImplicit false

namespace OverlayConfig.Template

/-- What an argument of a call stands for: a value, with a name or without, or the items of a list
or the entries of a table as arguments of their own. -/
inductive ArgumentKind where
  | plain
  | items
  | named (name : String)
  | entries
  deriving DecidableEq, Repr

def ArgumentKind.isNamed : ArgumentKind → Bool
  | .named _ | .entries => true
  | .plain | .items => false

inductive Expr where
  | const (value : Value)
  | variable (name : String)
  | list (items : List Expr)
  | table (entries : List (Expr × Expr))
  | unary (op : UnaryOperator) (operand : Expr)
  | binary (op : BinaryOperator) (left right : Expr)
  | compared (first : Expr) (others : List (Relation × Expr))
  | both (left right : Expr)
  | either (left right : Expr)
  | choice (test yes no : Expr)
  | attribute (object : Expr) (name : String)
  | item (object key : Expr)
  | slice (object start stop step : Expr)
  | call (callee : Expr) (arguments : List (ArgumentKind × Expr))
  | filtered (operand : Expr) (name : String) (arguments : List (ArgumentKind × Expr))
  | tested (operand : Expr) (name : String) (arguments : List (ArgumentKind × Expr))
  deriving Inhabited

abbrev Arguments := List (ArgumentKind × Expr)

mutual
def Expr.constant? : Expr → Option Value
  | .const v => some v
  | .list items => (constants? items).map .list
  | .table entries => (constantEntries? entries).map fun es => .table (Value.sortedEntries es)
  | .unary op e => do (op.apply (← e.constant?)).toOption
  | .binary op a b => do (op.apply (← a.constant?) (← b.constant?)).toOption
  | .compared first others => do (constantChain? (← first.constant?) others).map .bool
  | .either a b => do
    let x ← a.constant?
    let y ← b.constant?
    some (if x.isTrue then x else y)
  | _ => none

def constants? : List Expr → Option (List Value)
  | [] => some []
  | e :: rest => do
    let v ← e.constant?
    let vs ← constants? rest
    some (v :: vs)

def constantEntries? : List (Expr × Expr) → Option (List (Value × Value))
  | [] => some []
  | (k, e) :: rest => do
    let key ← k.constant?
    let v ← e.constant?
    let vs ← constantEntries? rest
    some ((key, v) :: vs)

def constantChain? (x : Value) : List (Relation × Expr) → Option Bool
  | [] => some true
  | (r, e) :: rest => do
    let y ← e.constant?
    let holds ← (r.holds x y).toOption
    let others ← constantChain? y rest
    some (holds && others)
end

/-- The conjunction of two expressions. Of constants it is the second one if both are true, and
false otherwise. -/
def Expr.conjunction (a b : Expr) : Expr :=
  match a.constant?, b.constant? with
  | some x, some y => .const (if x.isTrue && y.isTrue then y else .bool false)
  | _, _ => .both a b

/-- What a value is given to: a name, several targets that share its items, or an attribute. -/
inductive Target where
  | name (name : String)
  | several (targets : List Target)
  | attribute (object : Expr) (name : String)
  deriving Inhabited

structure FilterCall where
  name : String
  arguments : Arguments
  deriving Inhabited

/-- The parameters of a part of a template that can be called, with the values of those that are not
given. -/
abbrev Parameters := List (String × Option Expr)

inductive Stmt where
  | raw (chars : List Char)
  | output (value : Expr)
  | conditional (test : Expr) (yes no : List Stmt)
  /-- The body for every element that fulfils the condition, or else the alternative. The body of a
  recursive loop may run the loop for other elements. -/
  | loop (target : Target) (source : Expr) (condition : Option Expr) (recursive : Bool)
    (body alternative : List Stmt)
  | assign (target : Target) (value : Expr)
  /-- What the body writes becomes, after the filters, the value of a target. -/
  | capture (target : Target) (filters : List FilterCall) (body : List Stmt)
  | filtered (filters : List FilterCall) (body : List Stmt)
  | escaped (mode : Expr) (body : List Stmt)
  | scope (bindings : List (Target × Expr)) (body : List Stmt)
  | block (name : String)
  /-- The first of several other templates that there is; there is none. -/
  | load (names : Expr) (mayMiss : Bool)
  | extend (name : Expr)
  /-- A body that can be called by a name. Its own body may be asked for as `caller`. -/
  | procedure (name : String) (parameters : Parameters) (takesPart : Bool) (body : List Stmt)
  | call (callee : Expr) (arguments : Arguments) (parameters : Parameters) (takesPart : Bool)
    (body : List Stmt)
  | perform (value : Expr)
  deriving Inhabited

/-- A body with a name. One that is required is to be replaced by another template. -/
structure Block where
  required : Bool
  body : List Stmt
  deriving Inhabited

structure Document where
  parts : List Stmt
  blocks : List (String × Block)
  deriving Inhabited

end OverlayConfig.Template
