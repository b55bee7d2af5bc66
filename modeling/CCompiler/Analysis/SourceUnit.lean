import CCompiler.Analysis.Expression

/-!
# Analysis of a source file

Declarations of objects, types and functions, in blocks and at file scope.

All declarations at file scope are analysed first, in order, and then the bodies of the functions. The
answer holds the types of all expressions, the functions with their locals, and what is declared at file
scope.
-/
namespace CCompiler.Analysis

/-- Refuses a static assertion that does not hold. -/
def checkAssertion (ask : Ask) (scope : ScopePath) (condition : Expr NodeId) (message : String) : Analyze Unit := do
  let _ ← ask (.expr condition scope)
  match ← ask (.value condition scope) with
  | none => fail .assertionNotConstant
  | some n =>
    let body := ((Literal.stringBody? message).map String.ofList).getD message
    require (n ≠ 0) (.assertionFailed body)

def declareTypedef (ask : Ask) (scope : ScopePath) (level : Level) (spec : TypeSpec NodeId)
    (name : String) : Analyze Unit := do
  ask (.register spec)
  require (!(← isInvalidAtomic spec)) (.invalidTypedef level)
  declareEnumerators ask spec scope
  let type ← ask (.type spec)
  checkArraySize type
  defineTypedef scope name type

/-- Declares the tags of a specifier, and refuses what a declaration without a name may not say. Answers
    the name, if there is one. -/
def declareTags (ask : Ask) (scope : ScopePath) (level : Level) (decl : Declaration NodeId) :
    Analyze (Option String) := do
  ask (.register decl.type)
  declareEnumerators ask decl.type scope
  let storage : Storage := ⟨decl.storage, decl.isThreadLocal⟩
  if decl.name.isNone then
    require decl.alignment.isNone (.alignmentWithoutName level storage)
    require (decl.storage.isNone && !decl.isThreadLocal) (.missingName level storage)
  return decl.name

/-- Declares an object whose type is not at fault, and analyses its initializer. -/
def declareObject (ask : Ask) (scope : ScopePath) (level : Level) (decl : Declaration NodeId)
    (name : String) : Analyze Unit := do
  let type ← ask (.type decl.type)
  let natural ← alignOf? type
  checkAlignment (level.label ++ " object declaration") decl.alignment natural
  checkArraySize type
  define scope (.object name type (decl.alignment.or natural) (decl.storage == some .extern_))
  match decl.init with
  | none => pure ()
  | some init =>
    require (decl.storage != some .extern_) (.externInitializer level)
    ask (.initializer type init scope)

/-! ## 1. Declarations -/

/-- Refuses storage classes that a declaration in a block may not have. -/
def checkBlockStorage (decl : Declaration NodeId) : Analyze Unit := do
  let isFunction := decl.type.isFunction
  if isFunction then
    match decl.storage with
    | none | some .extern_ => pure ()
    | some storage => fail (.functionStorage .block storage)
    require (!decl.isThreadLocal) .threadLocalFunction
  require (decl.storage != some .typedef) (.typedefStorage .block)
  if !isFunction && decl.isThreadLocal then
    require (decl.storage == some .static || decl.storage == some .extern_) (.threadLocalStorage .block decl.storage)

def analyzeBlockDeclaration (ask : Ask) (scope : ScopePath) (decl : Declaration NodeId) : Analyze Unit := do
  checkBlockStorage decl
  match ← declareTags ask scope .block decl with
  | none => pure ()
  | some name =>
    refuse (← objectFault? decl.type) (.invalidObject .block)
    declareObject ask scope .block decl name

def agree (existing incoming : Signature) : Bool :=
  existing.returnType == incoming.returnType && match existing.params, incoming.params with
    | some _, some _ =>
      Signature.sameParams existing.params incoming.params && existing.isVariadic == incoming.isVariadic
    | _, _ => true

/-- Two declarations of a function that agree as one: a prototype wins over none. -/
def merge (existing incoming : Signature) : Signature :=
  if existing.params.isNone && incoming.params.isSome then incoming else existing

def addOverload (name : String) (signature : Signature) : Analyze Unit :=
  modify fun s =>
    let known := (s.overloads.lookup name).getD []
    if known.contains signature then { s with overloads := put name known s.overloads }
    else { s with overloads := put name (known ++ [signature]) s.overloads }

def addOverloadable (name : String) (signature : Signature) : Analyze Unit := do
  modify fun s => { s with overloadable := name :: s.overloadable }
  addOverload name signature

def declareFunction (name : String) (signature : Signature) (isOverloadable mayDiffer : Bool) : Analyze Unit := do
  match (← get).signatures.lookup name with
  | none =>
    modify fun s => { s with signatures := put name signature s.signatures }
    if isOverloadable then addOverloadable name signature
  | some existing =>
    if agree existing signature then
      let merged := merge existing signature
      modify fun s => { s with signatures := put name merged s.signatures }
      if isOverloadable then addOverloadable name merged
    else
      require mayDiffer (.conflictingDeclaration name)
      addOverload name signature

def checkFunctionName (name : String) : Analyze Unit := do
  require (← lookup? fileScope name).isNone (.conflictingDeclaration name)
  require (← lookupTypedef? fileScope name).isNone (.conflictingDeclaration name)

/-- Refuses storage classes that a function at file scope may not have. -/
def checkFunctionStorage (storage : Option StorageClass) (isThreadLocal : Bool) : Analyze Unit := do
  match storage with
  | none | some .static | some .extern_ => pure ()
  | some storage => fail (.functionStorage .file storage)
  require (!isThreadLocal) .threadLocalFunction

def returnTypeOf (ask : Ask) (spec : TypeSpec NodeId) : Analyze CType := do
  require (!(← isInvalidAtomic spec)) (.invalidReturn .atomic)
  require (!(← isIncomplete spec)) (.invalidReturn .incomplete)
  ask (.type spec)

def signatureOf (ask : Ask) (f : FunctionDef NodeId) : Analyze Signature := do
  if f.hasPrototype then
    let params ← f.params.mapM fun p => paramType ask p.type
    return ⟨← returnTypeOf ask f.returnType, some params, f.isVariadic⟩
  else
    require (!f.isVariadic) .variadicWithoutPrototype
    return ⟨← returnTypeOf ask f.returnType, none, false⟩

def analyzeFunctionDeclaration (ask : Ask) (f : FunctionDef NodeId) : Analyze Unit := do
  checkFunctionStorage f.storage f.isThreadLocal
  checkFunctionName f.name
  let signature ← signatureOf ask f
  let s ← get
  let mayDiffer := f.isOverloadable && s.overloadable.contains f.name && f.body.isNone
    && !s.definedFunctions.contains f.name
  declareFunction f.name signature f.isOverloadable mayDiffer
  if f.body.isSome then
    require (!(← get).definedFunctions.contains f.name) (.duplicateFunction f.name)
    modify fun s => { s with definedFunctions := f.name :: s.definedFunctions }

/-- Refuses storage classes that a declaration at file scope may not have. -/
def checkFileStorage (isFunction : Bool) (decl : Declaration NodeId) : Analyze Unit := do
  if isFunction then checkFunctionStorage decl.storage decl.isThreadLocal
  if decl.isThreadLocal then
    match decl.storage with
    | none | some .static | some .extern_ => pure ()
    | storage => fail (.threadLocalStorage .file storage)
  match decl.storage with
  | some .auto => fail (.objectStorage .auto)
  | some .register => fail (.objectStorage .register)
  | some .typedef => fail (.typedefStorage .file)
  | _ => pure ()

def analyzeFileDeclaration (ask : Ask) (decl : Declaration NodeId) : Analyze Unit := do
  checkFileStorage (decl.type.isFunction && !(← isInvalidAtomic decl.type)) decl
  match ← declareTags ask fileScope .file decl with
  | none => pure ()
  | some name =>
    if decl.type.isFunction && !(← isInvalidAtomic decl.type) then
      checkFunctionName name
      match (← ask (.type decl.type)).signature? with
      | some signature => declareFunction name signature false false
      | none => throw .notFunction
    else
      require ((← get).signatures.lookup name).isNone (.conflictingDeclaration name)
      refuse (← objectFault? decl.type) (.invalidObject .file)
      require (!(← isVariableAtFileScope ask decl.type)) .variableLengthAtFileScope
      declareObject ask fileScope .file decl name

mutual

/-- Analyses what stands at file scope outside function definitions. -/
def analyzeFileStatement (ask : Ask) : Stmt NodeId → Analyze Unit
  | .group declarations => analyzeFileStatements ask declarations
  | .typedef spec name => do
    require ((← get).signatures.lookup name).isNone (.conflictingDeclaration name)
    declareTypedef ask fileScope .file spec name
  | .declaration type name init alignment storage isThreadLocal =>
    analyzeFileDeclaration ask ⟨type, name, init, alignment, storage, isThreadLocal⟩
  | .staticAssert condition message => checkAssertion ask fileScope condition message
  | s => fail (.unknownDeclaration s.kindName)

def analyzeFileStatements (ask : Ask) : List (Stmt NodeId) → Analyze Unit
  | [] => pure ()
  | s :: rest => do
    analyzeFileStatement ask s
    analyzeFileStatements ask rest

end

/-! ## 2. Statements

What each statement asks of its parts, and of the loops, switches and labels around it.
-/

def analyzeStatements (ask : Ask) (scope : ScopePath) (returnType : CType) : List (Stmt NodeId) → Analyze Unit
  | [] => pure ()
  | s :: rest => do
    ask (.stmt s scope returnType)
    analyzeStatements ask scope returnType rest

def inLoop {β : Type} (body : Analyze β) : Analyze β := do
  modify fun s => { s with loopDepth := s.loopDepth + 1 }
  let result ← body
  modify fun s => { s with loopDepth := s.loopDepth - 1 }
  return result

def innermostSwitch (outside : Cause) : Analyze SwitchLabels := do
  match (← get).switches with
  | [] => fail outside
  | labels :: _ => return labels

def setInnermostSwitch (labels : SwitchLabels) : Analyze Unit :=
  modify fun s => { s with switches := labels :: s.switches.drop 1 }

/-- Notes a case label; a value may be a label once, and it must be one that can be written. -/
def addCase (ask : Ask) (scope : ScopePath) (value : Expr NodeId) : Analyze Unit := do
  let _ ← innermostSwitch .caseOutside
  match ← ask (.value value scope) with
  | none => fail .caseNotConstant
  | some n =>
    let labels ← innermostSwitch .caseOutside
    let n ← ofNumber (Number.writable n)
    require (!labels.cases.contains n) .duplicateCase
    setInnermostSwitch { labels with cases := n :: labels.cases }

def addDefault : Analyze Unit := do
  let labels ← innermostSwitch .defaultOutside
  require (!labels.hasDefault) .duplicateDefault
  setInnermostSwitch { labels with hasDefault := true }

/-- Refuses a return whose value does not fit the function. -/
def checkReturn (ask : Ask) (scope : ScopePath) (returnType : CType) : Option (Expr NodeId) → Analyze Unit
  | none => require returnType.isNamedVoid .returnValueMissing
  | some e => do
    require (!returnType.isNamedVoid) .returnValueInVoid
    let type := (← ask (.expr e scope)).decay
    require (← assignableFrom ask scope returnType e type) .returnMismatch

def evaluate (ask : Ask) (scope : ScopePath) (e : Expr NodeId) : Analyze Unit := do
  let _ ← ask (.expr e scope)

def analyzeForInit (ask : Ask) (scope : ScopePath) (returnType : CType) : Option (Stmt NodeId) → Analyze Unit
  | none => pure ()
  | some (.expr e) => evaluate ask scope e
  | some s => ask (.stmt s scope returnType)

def analyzeStmt (ask : Ask) (scope : ScopePath) (returnType : CType) (s : Stmt NodeId) : Analyze Unit := do
  modify fun state => { state with currentScope := some scope }
  match s with
  | .group declarations => analyzeStatements ask scope returnType declarations
  | .declaration type name init alignment storage isThreadLocal =>
    analyzeBlockDeclaration ask scope ⟨type, name, init, alignment, storage, isThreadLocal⟩
  | .staticAssert condition message => checkAssertion ask scope condition message
  | .typedef spec name => declareTypedef ask scope .block spec name
  | .expr e => evaluate ask scope e
  | .return_ value => checkReturn ask scope returnType value
  | .for_ init condition post body =>
    let inner ← openScope scope
    analyzeForInit ask inner returnType init
    match condition with
    | some e => checkCondition (← ask (.expr e inner))
    | none => pure ()
    match post with
    | some e => evaluate ask inner e
    | none => pure ()
    inLoop (ask (.stmt body inner returnType))
  | .switch condition body =>
    checkSwitchCondition (← ask (.expr condition scope))
    modify fun state => { state with switches := {} :: state.switches }
    ask (.stmt body scope returnType)
    modify fun state => { state with switches := state.switches.drop 1 }
  | .case_ value body =>
    addCase ask scope value
    ask (.stmt body scope returnType)
  | .default_ body =>
    addDefault
    ask (.stmt body scope returnType)
  | .label name body =>
    require (!(← get).labels.contains name) (.duplicateLabel name)
    modify fun state => { state with labels := name :: state.labels }
    ask (.stmt body scope returnType)
  | .goto label => modify fun state => { state with gotos := state.gotos ++ [label] }
  | .indirectGoto target =>
    let type := (← ask (.expr target scope)).decay
    require type.pointee?.isSome .gotoNotPointer
    require type.isVoidPointer .gotoNotVoidPointer
  | .compound items => analyzeStatements ask (← openScope scope) returnType items
  | .ifElse condition thenBody elseBody =>
    let inner ← openScope scope
    checkCondition (← ask (.expr condition inner))
    ask (.stmt thenBody inner returnType)
    match elseBody with
    | some body => ask (.stmt body inner returnType)
    | none => pure ()
  | .while_ condition body =>
    checkCondition (← ask (.expr condition scope))
    inLoop (ask (.stmt body scope returnType))
  | .doWhile body condition =>
    inLoop do
      ask (.stmt body scope returnType)
      checkCondition (← ask (.expr condition scope))
  | .break_ =>
    let state ← get
    require (state.loopDepth ≠ 0 || !state.switches.isEmpty) .breakOutside
  | .continue_ => require ((← get).loopDepth ≠ 0) .continueOutside
  | .null => pure ()
  | .unknown name => fail (.unknownStatement name)

/-! ## 3. Source files -/

/-- The answer to a question, with the answers to the questions it leads to. -/
def answer (ask : Ask) : Ask
  | .expr e scope => analyzeExpr ask scope e
  | .value e scope => evalConstant ask scope e
  | .isNull e scope => isNullConstant ask scope e
  | .type spec => resolveType ask spec
  | .register spec => register ask spec
  | .initializer target init scope => analyzeInitializer ask scope target init
  | .designated target designators init scope =>
    analyzeDesignated ask scope target designators init
  | .stmt s scope returnType => analyzeStmt ask scope returnType s

/-- The answers to questions that lead at most so many questions deep. -/
def answersWithin : Nat → Ask
  | 0 => fun _ => throw .tooDeep
  | depth + 1 => fun query => answer (answersWithin depth) query

def defineParams (ask : Ask) (scope : ScopePath) : List (Param NodeId) → Analyze Unit
  | [] => pure ()
  | p :: rest => do
    match p.name with
    | none => fail .missingParameterName
    | some name =>
      define scope (.object name (← ask (.type p.type)).decay none false)
      defineParams ask scope rest

/-- Refuses jumps to labels that a function does not have. -/
def checkGotos : Analyze Unit := do
  let s ← get
  match s.gotos.find? (!s.labels.contains ·) with
  | some label => fail (.undefinedLabel label)
  | none => pure ()

def analyzeBody (ask : Ask) (f : FunctionDef NodeId) (body : List (Stmt NodeId)) : Analyze Unit := do
  let returnType := (((← get).signatures.lookup f.name).map (·.returnType)).getD .int
  let scope ← openScope fileScope
  modify fun s => { s with labels := [], gotos := [], returnType := some returnType }
  defineParams ask scope f.params
  analyzeStatements ask scope returnType body
  checkGotos
  modify fun s => { s with
    functions := put f.name ⟨returnType, scope.headD 0⟩ s.functions
    returnType := none }

def analyzeExternal (ask : Ask) : External NodeId → Analyze Unit
  | .function f => analyzeFunctionDeclaration ask f
  | .declaration decl => analyzeFileStatement ask decl

def analyzeExternalBody (ask : Ask) : External NodeId → Analyze Unit
  | .function f =>
    match f.body with
    | some body => analyzeBody ask f body
    | none => pure ()
  | .declaration _ => pure ()

/-- The functions that every program can call without declaring them. -/
def builtins : List (String × Signature) :=
  let compare : Signature := ⟨.int, some [.longDouble, .longDouble], false⟩
  [("__builtin_expect", ⟨.long, some [.long, .long], false⟩),
   ("__builtin_unreachable", ⟨.void, some [], false⟩),
   ("__builtin_isgreater", compare), ("__builtin_isgreaterequal", compare),
   ("__builtin_isless", compare), ("__builtin_islessequal", compare),
   ("__builtin_islessgreater", compare), ("__builtin_isunordered", compare)]

def State.initial : State := { signatures := builtins }

def analyzeExternals (ask : Ask) (externals : List (External NodeId)) : Analyze Unit := do
  externals.forM (analyzeExternal ask)
  externals.forM (analyzeExternalBody ask)

/-- A bound on how deep questions about a source file can lead. -/
def depthFor (unit : SourceUnit NodeId) : Nat := 64 * unit.json.values.length

end CCompiler.Analysis

namespace CCompiler

def SourceUnit.analyze (standard : Standard) (unit : SourceUnit NodeId) : Except Analysis.Failure Analysis.State := do
  let run := Analysis.analyzeExternals (Analysis.answersWithin (Analysis.depthFor unit)) unit.externals
  return (← (run.run standard).run Analysis.State.initial).2

end CCompiler
