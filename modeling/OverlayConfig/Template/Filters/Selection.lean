import OverlayConfig.Template.Filters.Sorting
import OverlayConfig.Template.Filters.Text
set_option autoImplicit false

namespace OverlayConfig.Template.Tests

def unary (holds : Value → Bool) : Test := fun v c => c.noArguments.map fun _ => holds v

def ofChars (holds : List Char → Bool) : Test := fun v c => do
  let cs ← charsOf v
  c.noArguments
  .ok (holds cs)

def comparison (holds : Value → Value → Bool) : Test := fun v c => do
  let other ← c.argument 0
  c.atMost 1
  .ok (holds v other)

def textComparison (holds : List Char → List Char → Bool) : Test := fun v c => do
  let cs ← textOf v
  let other ← c.text 0
  c.atMost 1
  .ok (holds other cs)

def isInteger (v : Value) : Bool := v.integer?.isSome

def divides (v divisor : Value) : Bool :=
  match Value.samePair? v divisor with
  | some (.ints m n) => n ≠ 0 && m % n = 0
  | some (.doubles x y) => (x.modulo y).isZero
  | none => false

def isSame (a b : Value) : Bool :=
  a.kind = b.kind && isInteger a = isInteger b && Value.equal a b

def isIn (v container : Value) : Bool := (Value.containedIn v container).toOption.getD false

def selectingNames : List String := ["map", "select", "reject", "selectattr", "rejectattr"]

def simpleFilters : List (String × Filter) :=
  Filters.ofTexts ++ Filters.ofNumbers ++ Filters.ofElements ++ Filters.ofOrder

def filterNames : List String := selectingNames ++ simpleFilters.map Prod.fst

def ofValues : List (String × Test) :=
  [("defined", unary fun v => !v.isUndefined), ("undefined", unary Value.isUndefined),
    ("none", unary fun v => v.kind = .none), ("boolean", unary fun v => v.kind = .bool),
    ("number", unary fun v => v.kind = .number), ("string", unary fun v => v.kind = .text),
    ("sequence", unary fun v => v.kind = .list), ("mapping", unary fun v => v.kind = .table),
    ("iterable", unary fun v => v.elements?.isSome),
    ("odd", unary fun v => v.int?.any fun n => n % 2 = 1),
    ("even", unary fun v => v.int?.any fun n => n % 2 = 0),
    ("integer", unary isInteger), ("int", unary isInteger),
    ("float", unary fun v => match v with | .double _ => true | _ => false),
    ("true", unary fun v => match v with | .bool b => b | _ => false),
    ("false", unary fun v => match v with | .bool b => !b | _ => false),
    ("safe", unary fun v => match v with | .markup _ => true | _ => false),
    ("escaped", unary fun v => match v with | .markup _ => true | _ => false),
    ("lower", ofChars (·.all Text.isLower)), ("upper", ofChars (·.all Text.isUpper)),
    ("filter", ofChars fun cs => filterNames.contains (String.ofList cs))]

def ofComparisons : List (String × Test) :=
  let equal := comparison Value.equal
  let unequal := comparison fun a b => !Value.equal a b
  let less := comparison fun a b => Value.order a b = .lt
  let lessEqual := comparison fun a b => Value.order a b ≠ .gt
  let greater := comparison fun a b => Value.order a b = .gt
  let greaterEqual := comparison fun a b => Value.order a b ≠ .lt
  [("eq", equal), ("equalto", equal), ("==", equal), ("ne", unequal), ("!=", unequal),
    ("lt", less), ("lessthan", less), ("<", less), ("le", lessEqual), ("<=", lessEqual),
    ("gt", greater), ("greaterthan", greater), (">", greater), ("ge", greaterEqual),
    (">=", greaterEqual), ("in", comparison isIn), ("sameas", comparison isSame),
    ("divisibleby", comparison divides),
    ("startingwith", textComparison fun part cs => part.isPrefixOf cs),
    ("endingwith", textComparison fun part cs => part.reverse.isPrefixOf cs.reverse)]

def names : List String := "test" :: (ofValues ++ ofComparisons).map Prod.fst

def table : List (String × Test) :=
  ("test", ofChars fun cs => names.contains (String.ofList cs)) :: (ofValues ++ ofComparisons)

end OverlayConfig.Template.Tests

namespace OverlayConfig.Template

def applyTest (name : String) (v : Value) (c : Call) : Except ErrorKind Bool :=
  match Tests.table.lookup name with
  | some test => test v c
  | none => .error .unknownTest

end OverlayConfig.Template

namespace OverlayConfig.Template.Filters

def givenTest (args : Call) : Except ErrorKind (Value → Except ErrorKind Bool) := do
  match ← args.text? 0 with
  | none => .ok fun v => .ok v.isTrue
  | some name =>
    match Tests.table.lookup (String.ofList name) with
    | some test => .ok fun v => test v ⟨args.values.drop 1, args.named⟩
    | none => .error .unknownTest

def selected (wanted : Bool) (look : Value → Except ErrorKind Value) (args : Call) (v : Value) :
    Except ErrorKind Value := do
  let test ← givenTest args
  let elements ← elementsOf v
  let kept ← elements.filterM fun w => do
    let seen ← look w
    let passed ← test seen
    .ok (passed = wanted)
  .ok (.list kept)

def selecting (wanted : Bool) : Filter := fun v c => selected wanted .ok c v

def valueAt (path : List Char) (v : Value) : Except ErrorKind Value :=
  match attributeAt? path v with
  | some w => .ok w
  | none => .error .undefinedError

def selectingAttribute (wanted : Bool) : Filter := fun v c => do
  let path ← c.text 0
  selected wanted (valueAt path) ⟨c.values.drop 1, c.named⟩ v

def mapAttribute (key : Value) (c : Call) (v : Value) : Except ErrorKind Value := do
  let other? := (Value.lookup? (.ofString "default") c.entries).bind fun w =>
    if w.isUndefined then none else some w
  let elements ← elementsOf v
  let results ← elements.mapM fun w => do
    let found := match key.chars? with
      | some path => attributeAt? path w
      | none => if w.isUndefined then none else some (orUndefined (w.item? key))
    match found, other? with
    | some (.undefined _), some other | none, some other => .ok other
    | some u, _ => .ok u
    | none, none => .error .undefinedError
  c.knowing ["attribute", "default"]
  .ok (.list results)

def ofTests : List (String × Filter) :=
  [("select", selecting true), ("reject", selecting false),
    ("selectattr", selectingAttribute true), ("rejectattr", selectingAttribute false)]

def applySimple (name : String) : Filter := fun v c =>
  match (Tests.simpleFilters ++ ofTests).lookup name with
  | some filter => filter v c
  | none => .error .unknownFilter

def mappedName (v : Value) : Except ErrorKind String :=
  match v.chars? with
  | none => .error .invalidOperation
  | some cs =>
    let name := String.ofList cs
    if Tests.filterNames.contains name then .ok name else .error .unknownFilter

/-- Applies the filter with a name to a value and further ones. The filter `map` applies the one
that its first argument names to every element, with the arguments after that, unless it is given
an attribute. -/
def apply (named : Option (List (Value × Value))) (name : String) (v : Value) :
    List Value → Except ErrorKind Value
  | [] =>
    if name = "map" then
      match Call.named? ⟨[], named⟩ "attribute" with
      | some key => mapAttribute key ⟨[], named⟩ v
      | none => .error .invalidOperation
    else applySimple name v ⟨[], named⟩
  | first :: rest =>
    if name = "map" then
      match Call.named? ⟨[], named⟩ "attribute" with
      | some _ => .error .tooManyArguments
      | none => do
        let inner ← mappedName first
        let elements ← elementsOf v
        let results ← elements.mapM fun w => apply none inner w rest
        .ok (.list results)
    else applySimple name v ⟨first :: rest, named⟩

end OverlayConfig.Template.Filters

namespace OverlayConfig.Template

def applyFilter (name : String) : Filter := fun v c => Filters.apply c.named name v c.values

end OverlayConfig.Template
