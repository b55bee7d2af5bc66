import CCompiler.Analysis.Constant

/-!
# Types of expressions

The type of every expression, and what each operator asks of its operands.
-/
namespace CCompiler.Analysis

/-- Whether an expression designates an object by its form. -/
def isAssignable : Expr NodeId → Bool
  | .ident .. | .subscript .. | .member .. | .compoundLiteral .. => true
  | .unary _ op _ => op == .indirection
  | _ => false

/-- Refuses names of enumerators as targets of assignments, and forms that designate no object. -/
def checkTarget (scope : ScopePath) (e : Expr NodeId) : Analyze Unit := do
  match e with
  | .ident _ name => require (!(← lookup? scope name).any Symbol.isEnumerator) .notAssignable
  | e => require (isAssignable e) .notAssignable

def checkCondition (t : CType) : Analyze Unit := do
  require (!t.isNamedVoid) .conditionVoid
  require t.decay.isScalar .conditionNotScalar

def checkSwitchCondition (t : CType) : Analyze Unit := do
  require (!t.isNamedVoid) .conditionVoid
  require t.decay.isInteger .switchNotInteger

/-! ## 1. Names, members, sizes and casts -/

/-- The type of a name: an object, an enumerator or a function. -/
def identType (scope : ScopePath) (e : Expr NodeId) (name : String) : Analyze CType := do
  match ← lookup? scope name with
  | some symbol => return symbol.type
  | none =>
    match (← get).signatures.lookup name with
    | none => fail (.undeclared name)
    | some signature =>
      if (((← get).overloads.lookup name).getD []).length > 1 then setOverload e name
      return signature.type

def subscriptType (base index : CType) : Analyze CType := do
  require index.isInteger .subscriptNotInteger
  match base.element?.or base.pointee? with
  | some t => return t
  | none => fail .subscriptedNotArray

def memberAccessType (base : CType) (name : String) (throughPointer : Bool) : Analyze CType := do
  if throughPointer then
    match base.decay.pointee? with
    | none => fail .memberOfNonRecordPointer
    | some record =>
      require record.isRecord .memberOfNonRecordPointer
      memberType record name
  else
    require base.isRecord .memberOfNonRecord
    memberType base name

def refuse (fault : Option TypeFault) (cause : TypeFault → Cause) : Analyze Unit :=
  match fault with
  | some fault => fail (cause fault)
  | none => pure ()

def checkAlignof (t : CType) : Analyze Unit := do
  require (← alignOf? t).isSome .alignofUnknown

def isCastTarget (spec : TypeSpec NodeId) (target : CType) : Analyze Bool := do
  if spec.isFunction then return false
  if ← isIncomplete spec then return false
  return target == CType.void || target.isScalar

/-- Whether a value of a type can be cast to a type. -/
def isCastOperand (operand target : CType) : Bool :=
  target == CType.void || (!(operand == CType.void) && operand.isScalar)

def castType (ask : Ask) (scope : ScopePath) (spec : TypeSpec NodeId) (operand : Expr NodeId) : Analyze CType := do
  ask (.register spec)
  let target ← ask (.type spec)
  require (← isCastTarget spec target) .castTarget
  let plain := (← ask (.expr operand scope)).decay
  let type ← match ← overload? operand with
    | none => pure plain
    | some name =>
      match ← castOverload? name target with
      | none => fail .castOverload
      | some signature => pure signature.type.decay
  require (isCastOperand type target) .castOperand
  return target

/-! ## 2. Operators and conditional expressions -/

def unaryType (op : UnaryOp) (operand : Expr NodeId) (type : CType) : Analyze CType := do
  let value := type.decay
  match op with
  | .plus | .minus =>
    require value.isArithmetic (.unarySign (op == .plus))
    return if value.isInteger then value.promoted else value
  | .complement =>
    require value.isInteger .bitwiseNot
    return value.promoted
  | .logicalNot =>
    require value.isScalar .logicalNot
    return .int
  | .address =>
    require (isAssignable operand) .addressOf
    return type.pointerTo
  | .indirection =>
    match value.pointee? with
    | some t => return t
    | none => fail .dereference
  | .other text => fail (.unsupportedUnary text)

def updateType (ask : Ask) (scope : ScopePath) (op : UpdateOp) (operand : Expr NodeId) : Analyze CType := do
  if let .other text := op then fail (.unsupportedUpdate text)
  checkTarget scope operand
  let type ← ask (.expr operand scope)
  require (!type.isConst && !type.isArray) .notAssignable
  let value := type.decay
  require (value.isInteger || (← records).isCompletePointer value) .updateOperand
  return type

def checkOperands (rule : OperandRule) (test : CType → Bool) (left right : CType) : Analyze Unit := do
  require (test left) (.operand rule .left)
  require (test right) (.operand rule .right)

def commonType (left right : CType) : Analyze CType :=
  match left.common? right with
  | some t => pure t
  | none => throw .notFunction

def arithType (op : ArithOp) (left right : CType) : Analyze CType := do
  match op with
  | .add =>
    match (← records).sumType? left right with
    | some t => return t
    | none => fail .addition
  | .sub =>
    match (← records).differenceType? left right with
    | some t => return t
    | none => fail .subtraction
  | .mul => checkOperands .multiplication CType.isArithmetic left right; commonType left right
  | .div => checkOperands .division CType.isArithmetic left right; commonType left right
  | .rem => checkOperands .modulo CType.isInteger left right; commonType left right
  | .shl | .shr => checkOperands .shift CType.isInteger left right; return left.promoted
  | .bitAnd | .bitXor | .bitOr =>
    checkOperands .bitwise CType.isInteger left right; commonType left right

/-- Refuses operands that cannot be tested for equality: two arithmetic ones, two pointers of which one
    could be assigned to the other, or a pointer and a null pointer constant. -/
def checkEquality (ask : Ask) (scope : ScopePath) (left right : Expr NodeId) (l r : CType) : Analyze Unit := do
  checkOperands .equality CType.isScalar l r
  if (l.common? r).isSome then return
  let isNull (e : Expr NodeId) : Analyze Bool := ask (.isNull e scope)
  match l.pointee?.isSome, r.pointee?.isSome with
  | true, true =>
    if l.equalityComparable r then return
    if ← isNull left then return
    require (← isNull right) .equality
  | true, false => require (← isNull right) .equality
  | false, true => require (← isNull left) .equality
  | false, false => pure ()

def binaryType (ask : Ask) (scope : ScopePath) (op : BinaryOp) (left right : Expr NodeId)
    (l r : CType) : Analyze CType := do
  match op with
  | .arith op => arithType op l r
  | .relation .eq | .relation .ne => checkEquality ask scope left right l r; return .int
  | .relation _ =>
    require ((l.common? r).isSome || l.pointToAlikeObjects r) .relational
    return .int
  | .logicalAnd | .logicalOr => checkOperands .logical CType.isScalar l r; return .int
  | .other text => fail (.unsupportedBinary text)

def assignType (ask : Ask) (scope : ScopePath) (op : AssignOp) (target value : Expr NodeId) : Analyze CType := do
  checkTarget scope target
  let type ← ask (.expr target scope)
  require (!type.isConst) .notAssignable
  let valueType := (← ask (.expr value scope)).decay
  require (!type.isArray) .notAssignable
  match op with
  | .plain => require (← assignableFrom ask scope type value valueType) .assignmentValue
  | .compound .mul | .compound .div =>
    require (type.isArithmetic && valueType.isArithmetic) .compoundMultiplicative
  | .compound .add | .compound .sub =>
    require (type.isArithmetic && valueType.isArithmetic
      || (← records).isCompletePointer type && valueType.isInteger) .compoundAdditive
  | .compound _ => require (type.isInteger && valueType.isInteger) .compoundInteger
  | .other text => fail (.unsupportedAssignment text)
  return type

/-- The type of a conditional expression whose branches have different types. -/
def branchesType (ask : Ask) (scope : ScopePath) (thenExpr elseExpr : Expr NodeId) (t e : CType) : Analyze CType := do
  match t.common? e with
  | some common => return common
  | none =>
    if t.pointee?.isSome then
      if ← ask (.isNull elseExpr scope) then return t
    if e.pointee?.isSome then
      if ← ask (.isNull thenExpr scope) then return e
    match t.conditionalPointer? e with
    | some type => return type
    | none => fail .conditionalMismatch

/-- Passes on which overloaded function a conditional expression stands for: that of both branches, or
    that of the branch that a constant condition selects. -/
def inheritBranch (ask : Ask) (scope : ScopePath) (e condition thenExpr elseExpr : Expr NodeId) : Analyze Unit := do
  let thenName ← overload? thenExpr
  let elseName ← overload? elseExpr
  if thenName.isNone && elseName.isNone then return
  let selected ← if thenName == elseName then pure thenName else do
    match ← ask (.value condition scope) with
    | none => pure none
    | some n => pure (if n ≠ 0 then thenName else elseName)
  match selected with
  | some name => setOverload e name
  | none => pure ()

def conditionalType (ask : Ask) (scope : ScopePath) (e condition thenExpr elseExpr : Expr NodeId) :
    Analyze CType := do
  checkCondition (← ask (.expr condition scope))
  let thenType := (← ask (.expr thenExpr scope)).decay
  let elseType := (← ask (.expr elseExpr scope)).decay
  let type ← if thenType == elseType then pure thenType
    else branchesType ask scope thenExpr elseExpr thenType elseType
  inheritBranch ask scope e condition thenExpr elseExpr
  return type

/-! ## 3. Generic selections -/

/-- An association with a type that was seen before. -/
structure SeenAssociation where
  index : Nat
  type : CType
  label : String
  place : Place

/-- What is known of a generic selection after some of its associations. -/
structure Selection where
  selected : Option (Expr NodeId) := none
  default : Option (Nat × Expr NodeId) := none
  seen : List SeenAssociation := []

/-- The place of an association by its position: one that the parser noted. -/
def locationAt (locations : List (Option Int × Option Int)) (index : Nat) : Place :=
  match locations[index - 1]? with
  | some (line, column) => ⟨line, column⟩
  | none => ⟨none, none⟩

/-- How an association is listed among those available. -/
def SeenAssociation.text (a : SeenAssociation) : String :=
  let head := "'" ++ a.label ++ "' at position " ++ toString a.index
  match a.place.text? with
  | some place => head ++ " (" ++ place ++ ")"
  | none => head

def addAssociation (ask : Ask) (scope : ScopePath) (control : CType)
    (locations : List (Option Int × Option Int)) (index : Nat) (s : Selection) :
    Association NodeId → Analyze Selection
  | .default value => do
    match s.default with
    | some (previous, _) =>
      fail (.genericDuplicateDefault index (locationAt locations index) previous (locationAt locations previous))
    | none => pure ()
    let _ ← ask (.expr value scope)
    return { s with default := some (index, value) }
  | .typed spec value => do
    let noted := locationAt locations index
    let place : Place := ⟨spec.line.or noted.line, spec.column.or noted.column⟩
    ask (.register spec)
    let type ← ask (.type spec)
    let label := associationLabel spec type
    refuse (← associationFault? ask spec) (.genericInvalid index label place)
    match s.seen.find? (·.type == type) with
    | some previous =>
      fail (.genericDuplicate index place label previous.index previous.place previous.label)
    | none => pure ()
    let _ ← ask (.expr value scope)
    return { s with
      seen := s.seen ++ [⟨index, type, label, place⟩]
      selected := if type == control then some value else s.selected }

def addAssociations (ask : Ask) (scope : ScopePath) (control : CType)
    (locations : List (Option Int × Option Int)) (index : Nat) (s : Selection) :
    List (Association NodeId) → Analyze Selection
  | [] => return s
  | association :: rest => do
    let s ← addAssociation ask scope control locations index s association
    addAssociations ask scope control locations (index + 1) s rest

/-- The type of a generic selection: that of the selected branch. -/
def genericType (ask : Ask) (scope : ScopePath) (e control : Expr NodeId)
    (associations : List (Association NodeId)) (locations : List (Option Int × Option Int)) :
    Analyze CType := do
  let controlType := (← ask (.expr control scope)).decay
  let s ← addAssociations ask scope controlType locations 1 {} associations
  match s.selected.or (s.default.map (·.2)) with
  | none => fail (.genericNoMatch controlType.text (s.seen.map (·.text)))
  | some value =>
    inheritOverload value e
    return (← typeOf? value).getD .int

/-! ## 4. Calls and blocks -/

def analyzeArguments (ask : Ask) (scope : ScopePath) : List (Expr NodeId) → Analyze Unit
  | [] => pure ()
  | arg :: rest => do
    let _ ← ask (.expr arg scope)
    analyzeArguments ask scope rest

def callThrough (ask : Ask) (scope : ScopePath) (callee : CType) (args : List (Expr NodeId)) : Analyze CType := do
  match callee.decay.signature? with
  | none => fail .notCallable
  | some signature =>
    analyzeArguments ask scope args
    checkCall ask scope args signature none
    return signature.returnType

def callNamed (ask : Ask) (scope : ScopePath) (name : String) (args : List (Expr NodeId))
    (signature : Signature) : Analyze CType :=
  return (← callSignature ask scope name args signature).returnType

/-- The type of a call. A name is looked up among the functions first. -/
def callType (ask : Ask) (scope : ScopePath) (callee : Expr NodeId) (args : List (Expr NodeId)) : Analyze CType := do
  match callee with
  | .ident _ name =>
    match (← get).signatures.lookup name with
    | some signature => callNamed ask scope name args signature
    | none =>
      match ← lookup? scope name with
      | none => fail (.undeclaredFunction name)
      | some symbol => callThrough ask scope symbol.type args
  | callee =>
    let type ← ask (.expr callee scope)
    match ← overload? callee with
    | none => callThrough ask scope type args
    | some name =>
      match (← get).signatures.lookup name with
      | some signature => callNamed ask scope name args signature
      | none => callThrough ask scope type args

/-- Analyses the statements of a block inside an expression; the type and the overloaded function of the
    last one are those of the block. -/
def blockType (ask : Ask) (scope : ScopePath) (returnType : CType) :
    CType × Option String → List (Stmt NodeId) → Analyze (CType × Option String)
  | result, [] => return result
  | _, .expr e :: rest => do
    let type := (← ask (.expr e scope)).decay
    blockType ask scope returnType (type, ← overload? e) rest
  | _, s :: rest => do
    ask (.stmt s scope returnType)
    blockType ask scope returnType (.void, none) rest

def statementsType (ask : Ask) (scope : ScopePath) (e : Expr NodeId) (body : List (Stmt NodeId)) : Analyze CType := do
  match (← get).returnType with
  | none => fail .statementExpressionOutside
  | some returnType =>
    let inner ← openScope scope
    let (type, name) ← blockType ask inner returnType (.void, none) body
    match name with
    | some name => setOverload e name
    | none => pure ()
    return type

/-! ## 5. Expressions -/

def exprType (ask : Ask) (scope : ScopePath) (e : Expr NodeId) : Analyze CType := do
  match e with
  | .float _ text => return Literal.floatingType text
  | .int _ text =>
    match ← ofNumber (Literal.typed? text) with
    | some (_, kind) => return kind.type
    | none => fail .invalidIntegerLiteral
  | .char .. => return .int
  | .string .. => return CType.char.pointerTo
  | .ident _ name => identType scope e name
  | .labelAddress .. => return CType.void.pointerTo
  | .statements _ body => statementsType ask scope e body
  | .subscript _ base index =>
    let baseType ← ask (.expr base scope)
    subscriptType baseType (← ask (.expr index scope))
  | .member _ base name throughPointer =>
    memberAccessType (← ask (.expr base scope)) name throughPointer
  | .sizeofType _ spec =>
    ask (.register spec)
    declareScopedEnumerators ask spec scope
    refuse (← sizeFault? spec) .invalidSizeof
    let _ ← ask (.type spec)
    return .int
  | .sizeofExpr _ operand =>
    refuse (← typeSizeFault? (← ask (.expr operand scope))) .invalidSizeof
    return .int
  | .alignofType _ spec =>
    ask (.register spec)
    refuse (← sizeFault? spec) .invalidAlignof
    checkAlignof (← ask (.type spec))
    return .int
  | .alignofExpr _ operand =>
    require ((← read) != .c11) .alignofExpression
    let type ← ask (.expr operand scope)
    refuse (← typeSizeFault? type) .invalidAlignof
    checkAlignof type
    return .int
  | .offsetof _ spec _ =>
    ask (.register spec)
    let _ ← ask (.type spec)
    return .unsignedLong
  | .cast _ spec operand => castType ask scope spec operand
  | .compoundLiteral _ spec items =>
    ask (.register spec)
    refuse (← objectFault? spec) .invalidLiteral
    let target ← ask (.type spec)
    ask (.initializer target (.list items) scope)
    return target
  | .unary _ op operand => unaryType op operand (← ask (.expr operand scope))
  | .update _ op operand _ => updateType ask scope op operand
  | .binary _ op left right =>
    let l := (← ask (.expr left scope)).decay
    let r := (← ask (.expr right scope)).decay
    binaryType ask scope op left right l r
  | .conditional _ condition thenExpr elseExpr =>
    conditionalType ask scope e condition thenExpr elseExpr
  | .generic _ control associations locations =>
    genericType ask scope e control associations locations
  | .comma _ left right =>
    let _ ← ask (.expr left scope)
    let type ← ask (.expr right scope)
    inheritOverload right e
    return type
  | .assign _ op target value => assignType ask scope op target value
  | .call _ callee args => callType ask scope callee args
  | .unknown _ name => fail (.unknownExpression name)

def analyzeExpr (ask : Ask) (scope : ScopePath) (e : Expr NodeId) : Analyze CType := do
  record e (← exprType ask scope e)

end CCompiler.Analysis
