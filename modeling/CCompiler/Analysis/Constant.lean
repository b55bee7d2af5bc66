import CCompiler.Analysis.TypeSpec

/-!
# Constants, calls and initializers

The value of an expression that an analysis knows while it reads the program: literals, enumerators, sizes
of types, and operators on such values. Arithmetic has no bounds, and division goes to the floor.

Which arguments fit a function, and which of the overloads of a function a call means: the one with the
most arguments of exactly its parameters' types, and of those the one with a fixed number of parameters.

Which initializers fit objects of which types. A list in braces initializes the elements of an array or
the members of a record one after another, unless a designator says where to go on.
-/
namespace CCompiler.Analysis

/-! ## 1. Constants -/

def truth (b : Bool) : Int := if b then 1 else 0

/-- Arithmetic without bounds; division goes to the floor and needs a divisor, shifts need a count of zero
    or more, and one to the left needs room. -/
def evalArith? (op : ArithOp) (l r : Int) : Except NumberFault (Option Int) :=
  match op with
  | .mul => .ok (l * r)
  | .div => .ok (if r = 0 then none else some (l.fdiv r))
  | .rem => .ok (if r = 0 then none else some (l.fmod r))
  | .add => .ok (l + r)
  | .sub => .ok (l - r)
  | .shl => if r < 0 then .ok none else (Number.shiftLeft l r.toNat).map some
  | .shr => .ok (if r < 0 then none else some (Bits.shiftRight l r.toNat))
  | .bitAnd => .ok (Bits.and l r)
  | .bitXor => .ok (Bits.xor l r)
  | .bitOr => .ok (Bits.or l r)

def evalRelation (op : Relation) (l r : Int) : Bool :=
  match op with
  | .lt => l < r
  | .le => l ≤ r
  | .gt => l > r
  | .ge => l ≥ r
  | .eq => l = r
  | .ne => l ≠ r

def evalUnary? (op : UnaryOp) (n : Int) : Option Int :=
  match op with
  | .plus => some n
  | .minus => some (-n)
  | .logicalNot => some (truth (n = 0))
  | .complement => some (Bits.not n)
  | .address | .indirection | .other _ => none

/-- Whether the operand of an operator is evaluated at all. -/
def hasValue : UnaryOp → Bool
  | .plus | .minus | .logicalNot | .complement => true
  | .address | .indirection | .other _ => false

/-- The value of a binary operator: the right operand of `&&` and `||` is left alone where the left one
    decides. -/
def evalBinary? (ask : Ask) (scope : ScopePath) (op : BinaryOp) (left right : Expr NodeId) :
    Analyze (Option Int) := do
  match ← ask (.value left scope) with
  | none => return none
  | some l =>
    match op with
    | .logicalAnd => if l = 0 then return some 0 else
        return (← ask (.value right scope)).map fun r => truth (r ≠ 0)
    | .logicalOr => if l ≠ 0 then return some 1 else
        return (← ask (.value right scope)).map fun r => truth (r ≠ 0)
    | .arith op =>
      match ← ask (.value right scope) with
      | none => return none
      | some r => ofNumber (evalArith? op l r)
    | .relation op => return (← ask (.value right scope)).map fun r => truth (evalRelation op l r)
    | .other _ => let _ ← ask (.value right scope); return none

/-- The branches of a generic selection that fit a type, and the default ones, each the last. -/
def selectAssociation (ask : Ask) (control : CType) :
    Option (Expr NodeId) → Option (Expr NodeId) → List (Association NodeId) → Analyze (Option (Expr NodeId))
  | selected, default, [] => return selected.or default
  | selected, _, .default value :: rest => selectAssociation ask control selected (some value) rest
  | selected, default, .typed spec value :: rest => do
    ask (.register spec)
    let type ← ask (.type spec)
    selectAssociation ask control (if type == control then some value else selected) default rest

def evalGeneric? (ask : Ask) (scope : ScopePath) (control : Expr NodeId)
    (associations : List (Association NodeId)) : Analyze (Option Int) := do
  let type ← match ← typeOf? control with
    | some type => pure type
    | none => ask (.expr control scope)
  match ← selectAssociation ask type.decay none none associations with
  | none => return none
  | some value => ask (.value value scope)

def measure? (ask : Ask) (spec : TypeSpec NodeId) (of : CType → Analyze (Option Int)) : Analyze (Option Int) := do
  ask (.register spec)
  if (← sizeFault? spec).isSome then return none
  of (← ask (.type spec))

/-- The value of a constant expression, none if the expression is not constant. -/
def evalConstant (ask : Ask) (scope : ScopePath) : Expr NodeId → Analyze (Option Int)
  | .int _ text => return (← ofNumber (Literal.typed? text)).map (·.1)
  | .char _ text => ofEscape (Literal.charValue? text)
  | .unary _ op operand => do
    if hasValue op then return (← ask (.value operand scope)).bind (evalUnary? op) else return none
  | .binary _ op left right => evalBinary? ask scope op left right
  | .conditional _ condition thenExpr elseExpr => do
    match ← ask (.value condition scope) with
    | none => return none
    | some n => ask (.value (if n ≠ 0 then thenExpr else elseExpr) scope)
  | .cast _ spec operand => do
    if (← ask (.type spec)).isInteger then ask (.value operand scope) else return none
  | .sizeofType _ spec => measure? ask spec sizeOf?
  | .alignofType _ spec => measure? ask spec alignOf?
  | .generic _ control associations _ => evalGeneric? ask scope control associations
  | .ident _ name => do
    match ← lookup? scope name with
    | some (.enumerator _ value) => return some value
    | _ => return none
  | _ => return none

/-- Whether an expression is a null pointer constant: zero, or such a constant cast to `void *`. -/
def isNullConstant (ask : Ask) (scope : ScopePath) (e : Expr NodeId) : Analyze Bool := do
  if (← ask (.value e scope)) == some 0 then return true
  match e with
  | .cast _ spec operand =>
    let type ← match ← typeOf? e with
      | some type => pure type
      | none => ask (.type spec)
    if type.isVoidPointer then ask (.isNull operand scope) else return false
  | _ => return false

/-- Whether the value of an expression may be assigned to an object of a type. -/
def assignableFrom (ask : Ask) (scope : ScopePath) (target : CType) (e : Expr NodeId)
    (type : CType) : Analyze Bool := do
  if target.assignable type then return true
  if target.pointee?.isSome then ask (.isNull e scope) else return false

/-- Analyses the arguments that have parameters, from one with a number on. -/
def checkArguments (ask : Ask) (scope : ScopePath) (name : Option String) (index : Nat) :
    List (Expr NodeId × CType) → Analyze Unit
  | [] => pure ()
  | (arg, param) :: rest => do
    let type := ((← typeOf? arg).getD .int).decay
    require (← assignableFrom ask scope param arg type) (.argumentType index name)
    checkArguments ask scope name (index + 1) rest

def countFits (args params : Nat) (isVariadic : Bool) : Bool :=
  if isVariadic then params ≤ args else args == params

def checkCall (ask : Ask) (scope : ScopePath) (args : List (Expr NodeId)) (signature : Signature)
    (name : Option String) : Analyze Unit := do
  match signature.params with
  | none => pure ()
  | some params =>
    require (countFits args.length params.length signature.isVariadic)
      (.argumentCount params.length args.length signature.isVariadic name)
    checkArguments ask scope name 1 (args.zip params)

/-! ## 2. Overloads -/

/-- How many arguments have exactly the types of their parameters, none if one does not fit. -/
def exactMatches? (ask : Ask) (scope : ScopePath) : List ((Expr NodeId × CType) × CType) → Analyze (Option Nat)
  | [] => return some 0
  | ((arg, type), param) :: rest => do
    if ← assignableFrom ask scope param arg type then
      return (← exactMatches? ask scope rest).map (· + if type == param then 1 else 0)
    else return none

/-- How well a signature fits arguments: the exact matches and whether the number is fixed. -/
def matchRank? (ask : Ask) (scope : ScopePath) (args : List (Expr NodeId × CType))
    (signature : Signature) : Analyze (Option (Nat × Nat)) := do
  match signature.params with
  | none => return some (0, 0)
  | some params =>
    if countFits args.length params.length signature.isVariadic then
      return (← exactMatches? ask scope (args.zip params)).map (·, if signature.isVariadic then 0 else 1)
    else return none

def rankAll (ask : Ask) (scope : ScopePath) (args : List (Expr NodeId × CType)) :
    List Signature → Analyze (List ((Nat × Nat) × Signature))
  | [] => return []
  | signature :: rest => do
    match ← matchRank? ask scope args signature with
    | some rank => return (rank, signature) :: (← rankAll ask scope args rest)
    | none => rankAll ask scope args rest

def rankLt (a b : Nat × Nat) : Bool := a.1 < b.1 || (a.1 == b.1 && a.2 < b.2)

def best? : List ((Nat × Nat) × Signature) → Option ((Nat × Nat) × Signature)
  | [] => none
  | candidate :: rest =>
    match best? rest with
    | none => some candidate
    | some other => if rankLt candidate.1 other.1 then some other else some candidate

def callSignature (ask : Ask) (scope : ScopePath) (name : String) (args : List (Expr NodeId))
    (default : Signature) : Analyze Signature := do
  let overloads := ((← get).overloads.lookup name).getD []
  let types ← args.mapM fun arg => return (← ask (.expr arg scope)).decay
  let ranked ← rankAll ask scope (args.zip types) overloads
  match best? ranked with
  | none =>
    checkCall ask scope args default (some name)
    return default
  | some (rank, signature) =>
    require ((ranked.filter (·.1 == rank)).length == 1) (.ambiguousCall name)
    checkCall ask scope args signature (some name)
    return signature

/-- The overload that a cast to a type of function selects. -/
def castOverload? (name : String) (target : CType) : Analyze (Option Signature) := do
  match target.signature? with
  | none => return none
  | some wanted =>
    match (((← get).overloads.lookup name).getD []).filter (· == wanted) with
    | [signature] => return some signature
    | _ => return none

def initializerIndex (ask : Ask) (scope : ScopePath) (e : Expr NodeId) : Analyze Int := do
  match ← ask (.value e scope) with
  | some n => return n
  | none => fail .indexNotConstant

/-- Whether a string literal fits an array of characters. -/
def fitsString (target : CType) : Expr NodeId → Analyze Bool
  | .string _ text => do
    match target.length?, target.element? with
    | some length, some element =>
      if element.name != "char" || !element.ops.isEmpty then return false
      match ← ofEscape (Literal.stringLength? text) with
      | none => return false
      | some needed => return length < 0 || (needed : Int) ≤ length
    | _, _ => return false
  | _ => return false

/-- The member of a record that a designator names, with its position. -/
def designatedMember (t : CType) (name : String) : Analyze (CType × Nat) := do
  if !t.isRecord then fail .initializerMismatch
  match ← visibleMembers? t.name with
  | none => fail .initializerMismatch
  | some members =>
    match members.lookup name with
    | some member => return member
    | none => fail (.noMember name)

/-! ## 3. Initializers -/

/-- The index after an item, where the array has no length. -/
def nextIndex (ask : Ask) (scope : ScopePath) (next : Int) (item : InitItem NodeId) : Analyze Int := do
  match item.designators with
  | .index e :: _ => return (← initializerIndex ask scope e) + 1
  | .range _ high :: _ => return (← initializerIndex ask scope high) + 1
  | _ => return next + 1

/-- The length that a list gives an array without one. -/
def inferLength (ask : Ask) (scope : ScopePath) (greatest next : Int) : List (InitItem NodeId) → Analyze Int
  | [] => return greatest
  | item :: rest => do
    let next ← nextIndex ask scope next item
    inferLength ask scope (max greatest next) next rest

def repeatTimes (step : Analyze Unit) : Nat → Analyze Unit
  | 0 => pure ()
  | n + 1 => do step; repeatTimes step n

/-- Analyses one item of the list of an array and answers the index after it. -/
def arrayItem (ask : Ask) (scope : ScopePath) (element : CType) (length next : Int)
    (item : InitItem NodeId) : Analyze Int := do
  match item.designators with
  | .range low high :: rest =>
    let low ← initializerIndex ask scope low
    let high ← initializerIndex ask scope high
    require (0 ≤ low && high < length && low ≤ high) .initializerRange
    repeatTimes (ask (.designated element rest item.value scope)) (high + 1 - low).toNat
    return high + 1
  | .index e :: rest =>
    let index ← initializerIndex ask scope e
    require (0 ≤ index && index < length) .initializerIndex
    ask (.designated element rest item.value scope)
    return index + 1
  | .member _ :: _ => fail .arrayDesignator
  | [] =>
    require (next < length) .initializerIndex
    ask (.initializer element item.value scope)
    return next + 1

def arrayItems (ask : Ask) (scope : ScopePath) (element : CType) (length next : Int) :
    List (InitItem NodeId) → Analyze Unit
  | [] => pure ()
  | item :: rest => do
    arrayItems ask scope element length (← arrayItem ask scope element length next item) rest

def unionItems (ask : Ask) (scope : ScopePath) (target : CType) (first : CType) (isDone : Bool) :
    List (InitItem NodeId) → Analyze Unit
  | [] => pure ()
  | item :: rest => do
    require (!isDone) .initializerMismatch
    match item.designators with
    | [] => ask (.initializer first item.value scope)
    | .member name :: more =>
      let (type, _) ← designatedMember target name
      ask (.designated type more item.value scope)
    | _ => fail .recordDesignator
    unionItems ask scope target first true rest

/-- Analyses the items of the list of a structure. Named members are counted where none is designated, and
    all members behind a designator. -/
def structItems (ask : Ask) (scope : ScopePath) (target : CType) (members : List CType) (next : Nat) :
    List (InitItem NodeId) → Analyze Unit
  | [] => pure ()
  | item :: rest => do
    match item.designators with
    | [] =>
      match members[next]? with
      | none => fail .initializerMismatch
      | some type =>
        ask (.initializer type item.value scope)
        structItems ask scope target members (next + 1) rest
    | .member name :: more =>
      let (type, index) ← designatedMember target name
      ask (.designated type more item.value scope)
      structItems ask scope target members (index + 1) rest
    | _ => fail .recordDesignator

def recordItems (ask : Ask) (scope : ScopePath) (target : CType) (items : List (InitItem NodeId)) : Analyze Unit := do
  let members := ((← records).members? target.name).getD []
  match members.filterMap fun m => m.name.map fun _ => m.type with
  | [] => fail .initializerMismatch
  | first :: more =>
    if target.name.startsWith "union " then unionItems ask scope target first false items
    else structItems ask scope target (first :: more) 0 items

def analyzeInitializer (ask : Ask) (scope : ScopePath) (target : CType) : Initializer NodeId → Analyze Unit
  | .expr e => do
    let type := (← ask (.expr e scope)).decay
    if ← fitsString target e then return
    require (← assignableFrom ask scope target e type) .initializerMismatch
  | .list items => do
    match target.length?, target.element? with
    | some length, some element =>
      let length ← if length < 0 then inferLength ask scope 0 0 items else pure length
      arrayItems ask scope element length 0 items
    | _, _ =>
      if target.isRecord then recordItems ask scope target items
      else
        match items with
        | [⟨designators, value⟩] =>
          require designators.isEmpty .scalarDesignated
          ask (.initializer target value scope)
        | _ => fail .scalarItems

/-- Analyses an initializer of the part of an object that designators lead to. -/
def analyzeDesignated (ask : Ask) (scope : ScopePath) (target : CType)
    (designators : List (Designator NodeId)) (init : Initializer NodeId) : Analyze Unit := do
  match designators with
  | [] => ask (.initializer target init scope)
  | .index e :: rest =>
    match target.length?, target.element? with
    | some length, some element =>
      let index ← initializerIndex ask scope e
      require (0 ≤ index && index < length) .initializerIndex
      ask (.designated element rest init scope)
    | _, _ => fail .initializerMismatch
  | .member name :: rest =>
    let (type, _) ← designatedMember target name
    ask (.designated type rest init scope)
  | .range .. :: _ => fail .initializerMismatch

end CCompiler.Analysis
