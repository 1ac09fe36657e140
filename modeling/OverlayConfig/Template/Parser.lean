import OverlayConfig.Template.Syntax
import OverlayConfig.Template.Token
set_option autoImplicit false

namespace OverlayConfig.Template

structure ParseState where
  tokens : List Token
  depth : Nat
  labels : List String
  blocks : List (String × Block)
  inProcedure : Bool
  asksPart : Bool

abbrev Parse (α : Type) : Type := StateT ParseState (Except ErrorKind) α

def maxNesting : Nat := 150

namespace Parse

def fail {α : Type} (kind : ErrorKind) : Parse α := throw kind

def peek? : Parse (Option Token) := do
  match (← get).tokens with
  | [] => pure none
  | .broken kind :: _ => fail kind
  | t :: _ => pure (some t)

def skip : Parse Unit := modify fun s => { s with tokens := s.tokens.drop 1 }

def nested {α : Type} (step : Parse α) : Parse α := do
  if maxNesting ≤ (← get).depth then fail .syntaxError
  else do
    modify fun s => { s with depth := s.depth + 1 }
    let x ← step
    modify fun s => { s with depth := s.depth - 1 }
    pure x

def accept (t : Token) : Parse Bool := do
  if (← peek?) = some t then
    skip
    pure true
  else pure false

def expect (t : Token) : Parse Unit := do
  if ← accept t then pure () else fail .syntaxError

def sym (s : String) : Token := .symbol s.toList

def word : Parse String := do
  match ← peek? with
  | some (.word name) => do
    skip
    pure name
  | _ => fail .syntaxError

def nameParts : Nat → (name : String) → Parse String
  | 0, _ => fail .syntaxError
  | fuel + 1, name => do
    if ← accept (sym ".") then
      let part ← word
      nameParts fuel (name ++ "." ++ part)
    else pure name

def dottedName (fuel : Nat) : Parse String := do
  let name ← word
  nameParts fuel name

def declareBlock (name : String) : Parse Unit := do
  if (← get).labels.contains name then fail .syntaxError
  else modify fun s => { s with labels := name :: s.labels }

def recordBlock (name : String) (block : Block) : Parse Unit :=
  modify fun s => { s with blocks := (name, block) :: s.blocks }

/-- A step inside of a part that can be called, and whether it asks for the body that the part is
called with. What asks for such a body inside of another part asks the other part, too. -/
def callable {α : Type} (step : Parse α) : Parse (Bool × α) := do
  let outer ← get
  modify fun s => { s with inProcedure := true, asksPart := false }
  let x ← step
  let asks := (← get).asksPart
  modify fun s =>
    { s with inProcedure := outer.inProcedure, asksPart := outer.asksPart || asks }
  pure (asks, x)

end Parse

open Parse

def levels : List (List (List Char × BinaryOperator)) :=
  [[("+".toList, .add), ("-".toList, .subtract)], [("~".toList, .concatenate)],
    [("*".toList, .multiply), ("/".toList, .divide), ("//".toList, .quotient),
      ("%".toList, .modulo)],
    [("**".toList, .power)]]

def comparisons : List (List Char × Relation) :=
  [("==".toList, .equal), ("!=".toList, .unequal), ("<".toList, .less), ("<=".toList, .lessEqual),
    (">".toList, .greater), (">=".toList, .greaterEqual)]

def symbolMeaning? {α : Type} (table : List (List Char × α)) : Option Token → Option α
  | some (.symbol cs) => table.lookup cs
  | _ => none

def relation? : Parse (Option Relation) := do
  let next ← peek?
  match symbolMeaning? comparisons next with
  | some r => do
    skip
    pure (some r)
  | none =>
    if ← accept (.word "in") then pure (some .contained)
    else if ← accept (.word "not") then
      expect (.word "in")
      pure (some .absent)
    else pure none

def wordValue? (name : String) : Option Value :=
  if name = "true" ∨ name = "True" then some (.bool true)
  else if name = "false" ∨ name = "False" then some (.bool false)
  else if name = "none" ∨ name = "None" then some .none
  else none

def noExpr : Expr := .const .none

def maxArguments : Nat := 2000

def endsTest (name : String) : Bool := ["and", "or", "else", "is"].contains name

def startsArgument : Option Token → Bool
  | some (.word name) => !endsTest name
  | some (.text _) | some (.int _) | some (.double _) => true
  | some (.symbol cs) => cs = ['['] || cs = ['\x7b'] || cs = ['+'] || cs = ['-']
  | _ => false

mutual
def expression : Nat → Parse Expr
  | 0 => fail .syntaxError
  | fuel + 1 => nested (ifExpression fuel)

def ifExpression : Nat → Parse Expr
  | 0 => fail .syntaxError
  | fuel + 1 => do
    let e ← disjunction fuel
    choices fuel e

def choices : Nat → Expr → Parse Expr
  | 0, _ => fail .syntaxError
  | fuel + 1, e => do
    if ← accept (.word "if") then
      let test ← disjunction fuel
      let no ← if ← accept (.word "else") then ifExpression fuel
        else pure (.const (.undefined true))
      choices fuel (.choice test e no)
    else pure e

def disjunction : Nat → Parse Expr
  | 0 => fail .syntaxError
  | fuel + 1 => do
    let e ← conjunction fuel
    disjuncts fuel e

def disjuncts : Nat → Expr → Parse Expr
  | 0, _ => fail .syntaxError
  | fuel + 1, e => do
    if ← accept (.word "or") then
      let right ← conjunction fuel
      disjuncts fuel (.either e right)
    else pure e

def conjunction : Nat → Parse Expr
  | 0 => fail .syntaxError
  | fuel + 1 => do
    let e ← negation fuel
    conjuncts fuel e

def conjuncts : Nat → Expr → Parse Expr
  | 0, _ => fail .syntaxError
  | fuel + 1, e => do
    if ← accept (.word "and") then
      let right ← negation fuel
      conjuncts fuel (e.conjunction right)
    else pure e

def negation : Nat → Parse Expr
  | 0 => fail .syntaxError
  | fuel + 1 => do
    if ← accept (.word "not") then
      let e ← negation fuel
      pure (.unary .not e)
    else do
      let e ← arithmetic fuel levels
      let others ← comparedWith fuel
      pure (if others.isEmpty then e else .compared e others)

def comparedWith : Nat → Parse (List (Relation × Expr))
  | 0 => fail .syntaxError
  | fuel + 1 => do
    match ← relation? with
    | some r => do
      let e ← arithmetic fuel levels
      let others ← comparedWith fuel
      pure ((r, e) :: others)
    | none => pure []

def arithmetic : Nat → List (List (List Char × BinaryOperator)) → Parse Expr
  | 0, _ => fail .syntaxError
  | fuel + 1, [] => do
    let e ← signed fuel
    let e ← postfixes fuel e
    filters fuel e
  | fuel + 1, ops :: stronger => do
    let e ← arithmetic fuel stronger
    operands fuel ops stronger e

def operands : Nat → List (List Char × BinaryOperator) →
    List (List (List Char × BinaryOperator)) → Expr → Parse Expr
  | 0, _, _, _ => fail .syntaxError
  | fuel + 1, ops, stronger, e => do
    match symbolMeaning? ops (← peek?) with
    | some op => do
      skip
      let right ← arithmetic fuel stronger
      operands fuel ops stronger (.binary op e right)
    | none => pure e

def signed : Nat → Parse Expr
  | 0 => fail .syntaxError
  | fuel + 1 => do
    if ← accept (sym "-") then
      let e ← signed fuel
      pure (.unary .negate e)
    else nested (primary fuel)

def primary : Nat → Parse Expr
  | 0 => fail .syntaxError
  | fuel + 1 => do
    match ← peek? with
    | some (.word name) => do
      skip
      match wordValue? name with
      | some v => pure (.const v)
      | none => do
        if name = "caller" then modify fun s => { s with asksPart := true }
        pure (.variable name)
    | some (.text cs) => do
      skip
      let more ← texts fuel
      pure (.const (.text (cs ++ more)))
    | some (.int n) => do
      skip
      pure (.const (.ofNat n))
    | some (.double d) => do
      skip
      pure (.const (.double d))
    | some (.symbol ['(']) => do
      skip
      if ← accept (sym ")") then pure (.list [])
      else do
        let first ← expression fuel
        if ← accept (sym ",") then
          let rest ← listItems fuel (sym ")")
          pure (.list (first :: rest))
        else do
          expect (sym ")")
          pure first
    | some (.symbol ['[']) => do
      skip
      let items ← listItems fuel (sym "]")
      pure (.list items)
    | some (.symbol ['\x7b']) => do
      skip
      let entries ← tableEntries fuel
      pure (.table entries)
    | _ => fail .syntaxError

def texts : Nat → Parse (List Char)
  | 0 => fail .syntaxError
  | fuel + 1 => do
    match ← peek? with
    | some (.text cs) => do
      skip
      let more ← texts fuel
      pure (cs ++ more)
    | _ => pure []

def listItems : Nat → Token → Parse (List Expr)
  | 0, _ => fail .syntaxError
  | fuel + 1, stop => do
    if ← accept stop then pure []
    else do
      let e ← expression fuel
      if ← accept (sym ",") then
        let rest ← listItems fuel stop
        pure (e :: rest)
      else do
        expect stop
        pure [e]

def tableEntries : Nat → Parse (List (Expr × Expr))
  | 0 => fail .syntaxError
  | fuel + 1 => do
    if ← accept (.symbol ['\x7d']) then pure []
    else do
      let k ← expression fuel
      expect (sym ":")
      let v ← expression fuel
      if ← accept (sym ",") then
        let rest ← tableEntries fuel
        pure ((k, v) :: rest)
      else do
        expect (.symbol ['\x7d'])
        pure [(k, v)]

/-- The arguments after an opening bracket, of which some came before. Arguments with names come
last. -/
def arguments : Nat → (count : Nat) → (hasNamed : Bool) → Parse Arguments
  | 0, _, _ => fail .syntaxError
  | fuel + 1, count, hasNamed => do
    if ← accept (sym ")") then pure []
    else if maxArguments ≤ count then fail .syntaxError
    else do
      let a ← argument fuel
      if a.1 = .plain && hasNamed then fail .syntaxError
      if ← accept (sym ",") then
        let rest ← arguments fuel (count + 1) (hasNamed || a.1.isNamed)
        pure (a :: rest)
      else do
        expect (sym ")")
        pure [a]

def argument : Nat → Parse (ArgumentKind × Expr)
  | 0 => fail .syntaxError
  | fuel + 1 => do
    if ← accept (sym "**") then
      let e ← expression fuel
      pure (.entries, e)
    else if ← accept (sym "*") then
      let e ← expression fuel
      pure (.items, e)
    else do
      let e ← expression fuel
      match e with
      | .variable name => do
        if ← accept (sym "=") then
          let v ← expression fuel
          pure (.named name, v)
        else pure (.plain, e)
      | e => pure (.plain, e)

def postfixes : Nat → Expr → Parse Expr
  | 0, _ => fail .syntaxError
  | fuel + 1, e => do
    match ← peek? with
    | some (.symbol ['.']) => do
      skip
      match ← peek? with
      | some (.int n) => do
        skip
        postfixes fuel (.item e (.const (.ofNat n)))
      | _ => do
        let name ← word
        postfixes fuel (.attribute e name)
    | some (.symbol ['[']) => do
      skip
      let e ← subscript fuel e
      postfixes fuel e
    | some (.symbol ['(']) => do
      skip
      let args ← arguments fuel 0 false
      postfixes fuel (.call e args)
    | _ => pure e

def bound : Nat → Parse Expr
  | 0 => fail .syntaxError
  | fuel + 1 => do
    let next ← peek?
    if next = some (sym ":") ∨ next = some (sym "]") then pure noExpr else expression fuel

def subscript : Nat → Expr → Parse Expr
  | 0, _ => fail .syntaxError
  | fuel + 1, e => do
    let next ← peek?
    if next = some (sym "]") then fail .syntaxError
    let start ← bound fuel
    if ← accept (sym ":") then
      let stop ← bound fuel
      let step ← if ← accept (sym ":") then bound fuel else pure noExpr
      expect (sym "]")
      pure (.slice e start stop step)
    else do
      expect (sym "]")
      pure (.item e start)

def filter : Nat → Parse FilterCall
  | 0 => fail .syntaxError
  | fuel + 1 => do
    let name ← dottedName fuel
    let args ← if ← accept (sym "(") then arguments fuel 0 false else pure []
    pure ⟨name, args⟩

def filters : Nat → Expr → Parse Expr
  | 0, _ => fail .syntaxError
  | fuel + 1, e => do
    if ← accept (sym "|") then
      let f ← filter fuel
      filters fuel (.filtered e f.name f.arguments)
    else if ← accept (.word "is") then
      let negated ← accept (.word "not")
      let name ← dottedName fuel
      let args ←
        if ← accept (sym "(") then arguments fuel 0 false
        else if startsArgument (← peek?) then do
          let e ← signed fuel
          let e ← postfixes fuel e
          pure [(.plain, e)]
        else pure []
      let test := Expr.tested e name args
      filters fuel (if negated then .unary .not test else test)
    else pure e
end

def isReserved (name : String) : Bool :=
  (wordValue? name).isSome || name = "loop" || name = "self"

def targetName : Parse String := do
  let name ← word
  if isReserved name then fail .syntaxError else pure name

def targetAttributes : Nat → (object : Expr) → Target → Parse Target
  | 0, _, _ => fail .syntaxError
  | fuel + 1, object, t => do
    if ← accept (sym ".") then
      let name ← word
      targetAttributes fuel (.attribute object name) (.attribute object name)
    else pure t

def endsTargets (t : Option Token) : Bool :=
  t = some (sym ")") || t = some .outputEnd || t = some .blockEnd || t = some (.word "in")

mutual
def target : Nat → (dotted : Bool) → Parse Target
  | 0, _ => fail .syntaxError
  | fuel + 1, dotted => do
    let (ts, several) ← targets fuel dotted
    match ts, several with
    | [t], false => pure t
    | ts, _ => pure (.several ts)

def targets : Nat → (dotted : Bool) → Parse (List Target × Bool)
  | 0, _ => fail .syntaxError
  | fuel + 1, dotted => do
    if endsTargets (← peek?) then pure ([], false)
    else do
      let t ← simpleTarget fuel dotted
      if ← accept (sym ",") then
        let (ts, _) ← targets fuel dotted
        pure (t :: ts, true)
      else pure ([t], false)

def simpleTarget : Nat → (dotted : Bool) → Parse Target
  | 0, _ => fail .syntaxError
  | fuel + 1, dotted => do
    if ← accept (sym "(") then
      let t ← target fuel false
      expect (sym ")")
      pure t
    else do
      let name ← targetName
      if dotted then targetAttributes fuel (.variable name) (.name name) else pure (.name name)
end

def filterRow : Nat → Parse (List FilterCall)
  | 0 => fail .syntaxError
  | fuel + 1 => do
    let f ← filter fuel
    if (← peek?) = some .blockEnd then pure [f]
    else do
      expect (sym "|")
      let rest ← filterRow fuel
      pure (f :: rest)

def bindings : Nat → Parse (List (Target × Expr))
  | 0 => fail .syntaxError
  | fuel + 1 => do
    let t ← simpleTarget fuel false
    expect (sym "=")
    let e ← expression fuel
    if (← peek?) = some .blockEnd then pure [(t, e)]
    else do
      expect (sym ",")
      let rest ← bindings fuel
      pure ((t, e) :: rest)

def moreValues : Nat → Parse (List Expr)
  | 0 => fail .syntaxError
  | fuel + 1 => do
    if (← peek?) = some .blockEnd then pure []
    else do
      let e ← expression fuel
      if ← accept (sym ",") then
        let rest ← moreValues fuel
        pure (e :: rest)
      else pure [e]

def assignedValue (fuel : Nat) : Parse Expr := do
  let e ← expression fuel
  if ← accept (sym ",") then
    let rest ← moreValues fuel
    pure (.list (e :: rest))
  else pure e

def contextRemark : Parse Bool := do
  if ← accept (.word "with") then
    expect (.word "context")
    pure true
  else if ← accept (.word "without") then
    expect (.word "context")
    pure true
  else pure false

def missingRemark : Parse Bool := do
  if ← accept (.word "ignore") then
    expect (.word "missing")
    pure true
  else pure false

/-- Steps over the remarks on another template, in either order, and says whether it may be
missing. -/
def loadRemarks : Parse Bool := do
  let first ← contextRemark
  let mayMiss ← missingRemark
  if !first then
    let _ ← contextRemark
  pure mayMiss

def importedNames : Nat → Parse Unit
  | 0 => fail .syntaxError
  | fuel + 1 => do
    let next ← peek?
    if next = some .blockEnd ∨ next = some (.word "with") ∨ next = some (.word "without") then
      pure ()
    else do
      let _ ← targetName
      if ← accept (.word "as") then
        let _ ← targetName
      if ← accept (sym ",") then importedNames fuel else pure ()

def otherTemplate (fuel : Nat) (name : String) : Parse Stmt := do
  let e ← expression fuel
  if name = "extends" then pure (.extend e)
  else if name = "include" then do
    let mayMiss ← loadRemarks
    pure (.load e mayMiss)
  else if name = "import" then do
    expect (.word "as")
    let _ ← expression fuel
    let _ ← contextRemark
    pure (.load e false)
  else do
    expect (.word "import")
    importedNames fuel
    let _ ← contextRemark
    pure (.load e false)

/-- The parameters of a part that can be called, up to the closing bracket. Those that have a value
come last. -/
def parameters : Nat → (hasValue : Bool) → Parse Parameters
  | 0, _ => fail .syntaxError
  | fuel + 1, hasValue => do
    if ← accept (sym ")") then pure []
    else do
      let name ← targetName
      let value ← if ← accept (sym "=") then do
          let e ← expression fuel
          pure (some e)
        else if hasValue then fail .syntaxError
        else pure none
      if ← accept (sym ",") then
        let rest ← parameters fuel value.isSome
        pure ((name, value) :: rest)
      else do
        expect (sym ")")
        pure [(name, value)]

def callExpression (fuel : Nat) : Parse (Expr × Arguments) := do
  match ← expression fuel with
  | .call callee args => pure (callee, args)
  | _ => fail .syntaxError

def isBlankText : Stmt → Bool
  | .raw cs => cs.all Text.isBlank
  | _ => false

mutual
/-- The parts of a template up to a block that starts with one of the words, or up to the end. -/
def body : Nat → (stops : List String) → Parse (List Stmt)
  | 0, _ => fail .syntaxError
  | fuel + 1, stops => do
    match ← peek? with
    | none => pure []
    | some (.raw cs) => do
      skip
      let rest ← body fuel stops
      pure (.raw cs :: rest)
    | some .outputStart => do
      skip
      let e ← expression fuel
      expect .outputEnd
      let rest ← body fuel stops
      pure (.output e :: rest)
    | some .blockStart => do
      skip
      match ← peek? with
      | some (.word name) =>
        if stops.contains name then pure []
        else do
          skip
          let part ← nested (statement fuel name)
          expect .blockEnd
          let rest ← body fuel stops
          pure (part :: rest)
      | _ => fail .syntaxError
    | some _ => fail .syntaxError

def statement : Nat → String → Parse Stmt
  | 0, _ => fail .syntaxError
  | fuel + 1, name => do
    if name = "if" then conditional fuel
    else if name = "for" then loop fuel
    else if name = "set" then assignment fuel
    else if name = "with" then do
      let bs ← if (← peek?) = some .blockEnd then pure [] else bindings fuel
      let inside ← blockBody fuel "endwith"
      pure (.scope bs inside)
    else if name = "filter" then do
      let fs ← filterRow fuel
      let inside ← blockBody fuel "endfilter"
      pure (.filtered fs inside)
    else if name = "block" then blockStatement fuel
    else if name = "macro" then do
      let name ← word
      expect (sym "(")
      let (asks, ps, inside) ← callable do
        let ps ← parameters fuel false
        let inside ← blockBody fuel "endmacro"
        pure (ps, inside)
      pure (.procedure name ps asks inside)
    else if name = "call" then callStatement fuel
    else if name = "do" then do
      let (callee, args) ← callExpression fuel
      pure (.perform (.call callee args))
    else if name = "autoescape" then do
      let mode ← expression fuel
      let inside ← blockBody fuel "endautoescape"
      pure (.escaped mode inside)
    else if name = "include" ∨ name = "extends" ∨ name = "import" ∨ name = "from" then
      otherTemplate fuel name
    else fail .syntaxError

/-- The rest of a block `block` after that word. A block that is required has no content. -/
def blockStatement : Nat → Parse Stmt
  | 0 => fail .syntaxError
  | fuel + 1 => do
    if (← get).inProcedure then fail .syntaxError
    let label ← word
    declareBlock label
    let _ ← accept (.word "scoped")
    let required ← accept (.word "required")
    let inside ← blockBody fuel "endblock"
    if required && !inside.all isBlankText then fail .syntaxError
    let _ ← accept (.word label)
    recordBlock label ⟨required, inside⟩
    pure (.block label)

def callStatement : Nat → Parse Stmt
  | 0 => fail .syntaxError
  | fuel + 1 => do
    let (asksFirst, ps) ← callable do
      if ← accept (sym "(") then parameters fuel false else pure []
    let (callee, args) ← callExpression fuel
    let (asks, inside) ← callable (blockBody fuel "endcall")
    pure (.call callee args ps (asksFirst || asks) inside)

/-- What stands between the marker that ends a block's start and the word that ends the block. -/
def blockBody : Nat → (stop : String) → Parse (List Stmt)
  | 0, _ => fail .syntaxError
  | fuel + 1, stop => do
    expect .blockEnd
    let inside ← body fuel [stop]
    expect (.word stop)
    pure inside

def loop : Nat → Parse Stmt
  | 0 => fail .syntaxError
  | fuel + 1 => do
    let t ← target fuel false
    expect (.word "in")
    let source ← disjunction fuel
    let condition ← if ← accept (.word "if") then do
        let e ← expression fuel
        pure (some e)
      else pure none
    let recursive ← accept (.word "recursive")
    expect .blockEnd
    let yes ← body fuel ["endfor", "else"]
    if ← accept (.word "else") then
      let no ← blockBody fuel "endfor"
      pure (.loop t source condition recursive yes no)
    else do
      expect (.word "endfor")
      pure (.loop t source condition recursive yes [])

/-- The rest of a block `set` after that word: a value, or a body whose text is the value. Only a
single target can have a body. -/
def assignment : Nat → Parse Stmt
  | 0 => fail .syntaxError
  | fuel + 1 => do
    let t ← target fuel true
    let single := match t with
      | .several _ => false
      | _ => true
    if ← accept (sym "=") then
      let e ← assignedValue fuel
      pure (.assign t e)
    else if single then do
      let fs ← if ← accept (sym "|") then filterRow fuel else pure []
      let inside ← blockBody fuel "endset"
      pure (.capture t fs inside)
    else fail .syntaxError

def conditional : Nat → Parse Stmt
  | 0 => fail .syntaxError
  | fuel + 1 => do
    let test ← disjunction fuel
    expect .blockEnd
    let yes ← body fuel ["endif", "else", "elif"]
    if ← accept (.word "else") then
      let no ← blockBody fuel "endif"
      pure (.conditional test yes no)
    else if ← accept (.word "elif") then
      let no ← conditional fuel
      pure (.conditional test yes [no])
    else do
      expect (.word "endif")
      pure (.conditional test yes [])
end

def parse (cs : List Char) : Except ErrorKind Document := do
  let ts := tokens cs
  let (parts, state) ← (body (24 * ts.length + 24) []).run ⟨ts, 0, [], [], false, false⟩
  .ok ⟨parts, state.blocks⟩

end OverlayConfig.Template
