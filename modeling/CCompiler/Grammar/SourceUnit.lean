import CCompiler.Grammar.Specifier

/-!
# Source files

A declarator is read from the inside out: the name, then the suffixes behind it, then the pointers in
front. Its derivations are listed from the outermost to the base.

Rules for statements, for declarations in blocks and at file scope, and for function definitions.

Function definitions and the whole of a source file. Here the rules are tied together: a rule may use
every rule, as deep as the number of tokens allows.
-/
namespace CCompiler.Grammar

/-! ## 1. Declarators -/

def param (rule : Rules) : Parse (Param Unit) := do
  let start := (← get).rest
  let specs ← declSpecs rule
  match specs.storage with
  | some (storage, token) =>
    if storage ≠ .register then failAt token (.parameterStorage storage)
  | none => pure ()
  specs.rejectForeign "parameter"
  specs.rejectAlignment "parameter"
  let base ← rule (.typeSpec true .declaration)
  let d ← rule (.declarator { allowVariable := true, allowParameterBounds := true })
  let type := base.derive d.ops
  if type.isVoid then
    failAt ((← consumedSince start).getLast?.getD (← current)) .invalidParameterType
  return ⟨type, d.name⟩

def paramStep (rule : Rules) (params : List (Param Unit)) : Parse (List (Param Unit) ⊕ List (Param Unit) × Bool) := do
  if ← acceptPunct "," then
    if ← atPunct ")" then fail .expectedParameterAfterComma
    if ← acceptPunct "..." then
      if !(← atPunct ")") then
        discard (acceptPunct ",")
        fail .expectedCloseAfterDots
      return .inr (params, true)
    else
      let next ← rule .param
      return .inl (params ++ [next])
  else return .inr (params, false)

/-- Parameters, and whether more of them may follow in a call. -/
def prototypedParams (rule : Rules) : Parse (List (Param Unit) × Bool) := do
  let first ← rule .param
  repeatStep [first] (paramStep rule)

/-- What stands between the parentheses of a function declarator, an identifier list aside. -/
def paramList (rule : Rules) : Parse ParamList := do
  if ← atPunct ")" then return ⟨[], false, false⟩
  else if (← atKeyword "void") && (← nextIsPunct ")") then
    discard advance
    return ⟨[], true, false⟩
  else if ← atPunct "..." then fail .expectedParameterBeforeDots
  else
    let (params, isVariadic) ← prototypedParams rule
    return ⟨params, true, isVariadic⟩

/-- Whether an identifier list of the old style starts here. -/
def atIdentifierList : Parse Bool := do
  let token ← current
  if token.kind = .identifier && !(← names).isTypedef token.lexeme then
    let next ← peek 1
    return next.isPunct "," || next.isPunct ")"
  else return false

/-- What stands between the parentheses of the function that is defined: parameters or an identifier
    list of the old style. -/
def definitionParamList (rule : Rules) : Parse ParamList := do
  if ← atIdentifierList then
    let listed ← separated expectIdentifier
    return ⟨listed.map fun name => ⟨TypeSpec.ofName "int", some name⟩, false, false⟩
  else paramList rule

/-- The qualifiers and the `static` in front of the bound of a parameter. -/
def boundSpecifiers : Parse (List String × Bool) :=
  repeatStep (([] : List String), false) fun (qualifiers, isStatic) => do
    let token ← current
    if isQualifier token then
      if qualifiers.contains token.lexeme then failAt token (.duplicateQualifier token.lexeme)
      discard advance
      return .inl (qualifiers ++ [token.lexeme], isStatic)
    else if token.isKeyword "static" then
      if isStatic then failAt token .duplicateStaticBound
      discard advance
      return .inl (qualifiers, true)
    else return .inr (qualifiers, isStatic)

def literalFault? : Expr Unit → Option Literal.SizeFault
  | .int _ text => Literal.sizeFault? text
  | _ => none

def sizedBound (mode : DeclaratorMode) (qualifiers : List String) (isStatic : Bool)
    (size : Expr Unit) (token : Token) : Parse (ArrayBound Unit) := do
  match literalFault? size with
  | some fault => failAt token (.arraySizeLiteral fault)
  | none => pure ()
  let value ← sizeOf? size
  let standard := (← read).standard
  if value.any (isBadSize standard) then failAt token .arraySizeNotPositive
  if !qualifiers.isEmpty || isStatic then return .sized size qualifiers isStatic
  match value with
  | some n => return .length n
  | none =>
    if mode.allowVariable then return .sized size [] false
    else failAt token (.arraySizeNotConstant (sizeSubject (← names) size))

/-- The bound between brackets, the opening one already read. -/
def arrayBound (rule : Rules) (mode : DeclaratorMode) : Parse (ArrayBound Unit) := do
  let (qualifiers, isStatic) ← if mode.allowParameterBounds then boundSpecifiers else pure ([], false)
  let token ← current
  if ← acceptPunct "]" then
    if isStatic then failAt token .staticBoundWithoutSize
    if mode.allowParameterBounds || mode.allowVariable || mode.allowUnsized then
      return .unsized qualifiers false
    else failAt token .missingArraySize
  else
    let size ← rule .assignment
    expectPunct "]"
    sizedBound mode qualifiers isStatic size token

/-- The name of a declarator, or the declarator in parentheses that stands for it. -/
def declaratorCore (rule : Rules) (mode : DeclaratorMode) : Parse Declarator := do
  let token ← current
  if token.kind = .identifier then
    discard advance
    return ⟨some token.lexeme, [], none⟩
  else if ← acceptPunct "(" then
    let inner ← rule (.declarator { mode with allowAbstract := true })
    expectPunct ")"
    return inner
  else if mode.allowAbstract then return ⟨none, [], none⟩
  else expectedIdentifier

def suffixStep (rule : Rules) (mode : DeclaratorMode) (d : Declarator) : Parse (Declarator ⊕ Declarator) := do
  if ← acceptPunct "[" then
    let bound ← arrayBound rule mode
    return .inl { d with ops := d.ops ++ [.array bound] }
  else if ← acceptPunct "(" then
    let captures := mode.capture && d.captured.isNone && d.name.isSome
    let list ← if captures then definitionParamList rule else paramList rule
    expectPunct ")"
    return .inl { d with
      ops := d.ops ++ [list.op]
      captured := if captures then some list else d.captured }
  else return .inr d

def declaratorSuffixes (rule : Rules) (mode : DeclaratorMode) (core : Declarator) : Parse Declarator :=
  repeatStep core (suffixStep rule mode)

def declarator (rule : Rules) (mode : DeclaratorMode) : Parse Declarator := do
  discard (skipQualifiers false)
  skipConventionsBeforePointer
  let stars ← whileTrue (acceptPunct "*") do
    discard (skipQualifiers false)
    skipConventionsAfterPointer
  let core ← declaratorCore rule mode
  let d ← declaratorSuffixes rule mode core
  return { d with ops := d.ops ++ List.replicate stars.length .pointer }

/-- The name of a declarator, or the declarator in parentheses that stands for it, with whether its
    outermost pointer is qualified. -/
def qualifiedCore (rule : Rules) (allowAbstract allowGnu : Bool) :
    Parse (Option String × List (DeclOp Unit) × Bool) := do
  let token ← current
  if token.kind = .identifier then
    discard advance
    return (some token.lexeme, [], false)
  else if ← acceptPunct "(" then
    let inner ← rule (.qualifiedDeclarator true allowGnu)
    expectPunct ")"
    return (inner.name, inner.ops, inner.topPointerIsQualified)
  else if allowAbstract then return (none, [], false)
  else expectedIdentifier

/-- The array and function suffixes of such a declarator; bounds are constant. -/
def qualifiedSuffixes (rule : Rules) (allowGnu : Bool) (ops : List (DeclOp Unit)) : Parse (List (DeclOp Unit)) :=
  repeatStep ops fun ops => do
    discard (skipTypeNameAttributes allowGnu)
    if ← acceptPunct "[" then
      let token ← current
      let size ← rule .assignment
      let n ← arraySize size token
      expectPunct "]"
      return .inl (ops ++ [.array (.length n)])
    else if ← acceptPunct "(" then
      let list ← paramList rule
      expectPunct ")"
      return .inl (ops ++ [list.op])
    else return .inr ops

def qualifiedDeclarator (rule : Rules) (allowAbstract allowGnu : Bool) : Parse QualifiedDeclarator := do
  let hasLeadingQualifier ← skipQualifiers true
  discard (skipTypeNameAttributes allowGnu)
  skipConventionsBeforePointer
  let stars ← whileTrue (acceptPunct "*") do
    let qualified ← skipQualifiers true
    discard (skipTypeNameAttributes allowGnu)
    skipConventionsAfterPointer
    return qualified
  discard (skipTypeNameAttributes allowGnu)
  let (name, inner, innerQualified) ← qualifiedCore rule allowAbstract allowGnu
  let ops ← qualifiedSuffixes rule allowGnu inner
  let top := if ops.isEmpty then stars.getLast?.getD false else innerQualified && ops.head?.any DeclOp.isPointer
  return ⟨name, ops ++ List.replicate stars.length .pointer, hasLeadingQualifier, top⟩

/-! ## 2. Declarations -/

def staticAssertion (rule : Rules) : Parse (Stmt Unit) := do
  discard advance
  expectPunct "("
  let condition ← rule .conditional
  expectPunct ","
  if (← current).kind ≠ .stringLiteral then fail .expectedAssertMessage
  let message ← stringLiteral
  expectPunct ")"
  expectPunct ";"
  return .staticAssert condition message

def typedefDeclarator (rule : Rules) (baseQualified : Bool) (base : TypeSpec Unit) : Parse (Stmt Unit) := do
  discard skipAttributes
  let d ← rule (.qualifiedDeclarator false base.isAtomic)
  match d.name with
  | none => expectedIdentifier
  | some name =>
    let type := base.derive d.ops
    if ← atPunct "=" then fail .typedefInitializer
    modifyNames (·.addTypedef name type (isTopQualified baseQualified d))
    return .typedef type name

def objectDeclarator (rule : Rules) (specs : DeclSpecs) (base : TypeSpec Unit) : Parse (Stmt Unit) := do
  discard skipAttributes
  let d ← rule (.declarator { allowAbstract := false, allowVariable := true })
  match d.name with
  | none => expectedIdentifier
  | some name =>
    let type := base.derive d.ops
    if type.isVoidObject then fail (.invalidVoidObject "object declaration")
    modifyNames (·.addObject name type)
    skipDeclaratorExtensions
    let init ← if ← acceptPunct "=" then some <$> rule .initializer else pure none
    return .declaration type (some name) init specs.alignment? specs.storageClass? specs.isThreadLocal

def declareEnumerators (type : TypeSpec Unit) : Parse Unit :=
  modifyNames fun known => type.enumerators.foldl (fun known e => known.addName e.name) known

def tagDeclaration (specs : DeclSpecs) (base : TypeSpec Unit) : Parse (Stmt Unit) := do
  specs.rejectAlignment "tag-only declaration"
  if specs.isTypedef || !base.declaresTag then expectedIdentifier
  expectPunct ";"
  declareEnumerators base
  return .declaration base none none specs.alignment? specs.storageClass? specs.isThreadLocal

/-- A declaration. The pointers read with the specifier belong to the first declarator alone. -/
def declaration (rule : Rules) : Parse (Stmt Unit) := do
  skipMarkers
  if ← atKeyword "_Static_assert" then staticAssertion rule
  else
    let specs ← declSpecs rule
    if specs.isTypedef then
      specs.rejectAlignment "typedef declaration"
      specs.rejectForeign "typedef"
    let baseQualified ← baseIsQualified true
    let base ← rule (.typeSpec (!specs.isTypedef) .declaration)
    discard skipAttributes
    if ← atPunct ";" then tagDeclaration specs base
    else
      let one (base : TypeSpec Unit) : Parse (Stmt Unit) :=
        if specs.isTypedef then typedefDeclarator rule baseQualified base
        else objectDeclarator rule specs base
      let first ← one base
      let later := if specs.isTypedef then base else base.withoutPointers
      let more ← whileTrue (acceptPunct ",") (one later)
      expectPunct ";"
      declareEnumerators base
      return if more.isEmpty then first else .group (first :: more)

/-! ## 3. Statements -/

def declarationKeywords : List String :=
  ["int", "char", "void", "float", "double", "short", "long", "signed", "unsigned", "_Bool", "_Atomic",
    "_Complex", "typeof", "typeof_unqual", "__typeof__", "enum", "struct", "union", "const",
    "volatile", "restrict", "typedef", "auto", "register", "static", "extern", "inline", "_Noreturn",
    "_Thread_local", "_Alignas", "_Static_assert"]

/-- Whether a declaration starts at the first token that is no marker. -/
def atDeclaration : Parse Bool := do
  let rest := (← get).rest.dropWhile (·.isKeyword "__extension__")
  match rest with
  | [] => return false
  | token :: behind =>
    match token.kind with
    | .keyword => return declarationKeywords.contains token.lexeme
    | .identifier =>
      if ["__thread", "__inline", "__inline__", "__unaligned"].contains token.lexeme then return true
      else if token.lexeme = "__declspec" && behind.head?.any (·.isPunct "(") then return true
      else return (← names).isTypedef token.lexeme
    | _ => return false

def parenthesizedCondition (rule : Rules) : Parse (Expr Unit) := do
  expectPunct "("
  let condition ← rule .expression
  expectPunct ")"
  return condition

def optionalExpression (rule : Rules) : Parse (Option (Expr Unit)) := do
  if ← acceptPunct ";" then return none
  else
    let e ← rule .expression
    expectPunct ";"
    return some e

def forStatement (rule : Rules) : Parse (Stmt Unit) := do
  expectPunct "("
  inScope {} do
    let init ← if ← acceptPunct ";" then pure none
      else if ← atDeclaration then some <$> rule .declaration
      else do
        let e ← rule .expression
        expectPunct ";"
        pure (some (.expr e))
    let condition ← optionalExpression rule
    let post ← if ← atPunct ")" then pure none else some <$> rule .expression
    expectPunct ")"
    let body ← rule .statement
    return .for_ init condition post body

/-- A jump to a label or, in the GNU mode, to an address, behind its keyword. -/
def gotoStatement (rule : Rules) : Parse (Stmt Unit) := do
  if ← atPunct "*" then
    if !(← isGnu) then fail (.gnuExtension "Indirect goto")
    discard advance
    let target ← rule .expression
    expectPunct ";"
    return .indirectGoto target
  else
    let label ← expectIdentifier
    expectPunct ";"
    return .goto label

/-- The statement behind a keyword, none if the keyword starts no statement. -/
def keywordStatement? (rule : Rules) (keyword : String) : Option (Parse (Stmt Unit)) :=
  match keyword with
  | "if" => some do
    let condition ← parenthesizedCondition rule
    let thenBody ← rule .statement
    if ← atKeyword "else" then
      discard advance
      return .ifElse condition thenBody (some (← rule .statement))
    else return .ifElse condition thenBody none
  | "while" => some do
    let condition ← parenthesizedCondition rule
    return .while_ condition (← rule .statement)
  | "do" => some do
    let body ← rule .statement
    if !(← atKeyword "while") then fail .expectedWhile
    discard advance
    let condition ← parenthesizedCondition rule
    expectPunct ";"
    return .doWhile body condition
  | "for" => some (forStatement rule)
  | "switch" => some do
    let condition ← parenthesizedCondition rule
    return .switch condition (← rule .statement)
  | "case" => some do
    let value ← rule .expression
    expectPunct ":"
    return .case_ value (← rule .statement)
  | "default" => some do
    expectPunct ":"
    return .default_ (← rule .statement)
  | "goto" => some (gotoStatement rule)
  | "break" => some do
    expectPunct ";"
    return .break_
  | "continue" => some do
    expectPunct ";"
    return .continue_
  | "return" => some do
    return .return_ (← optionalExpression rule)
  | _ => none

def labelStatement (rule : Rules) : Parse (Stmt Unit) := do
  let name ← expectIdentifier
  expectPunct ":"
  return .label name (← rule .statement)

def simpleStatement (rule : Rules) : Parse (Stmt Unit) := do
  if ← atKeyword "_Static_assert" then staticAssertion rule
  else if ← atDeclaration then rule .declaration
  else
    let e ← rule .expression
    expectPunct ";"
    return .expr e

def statement (rule : Rules) : Parse (Stmt Unit) := do
  skipMarkers
  let token ← current
  match token.kind with
  | .punctuator =>
    if token.isPunct ";" then
      discard advance
      return .null
    else if token.isPunct "\x7b" then return .compound (← block rule {})
    else simpleStatement rule
  | .keyword =>
    match keywordStatement? rule token.lexeme with
    | some action =>
      discard advance
      action
    | none => simpleStatement rule
  | .identifier => if ← nextIsPunct ":" then labelStatement rule else simpleStatement rule
  | _ => simpleStatement rule

/-! ## 4. Functions and source files -/

/-- Whether a function declaration of its own stands here, as opposed to an object declaration. -/
def functionAhead (rule : Rules) : Parse Bool := do
  let specs ← declSpecs rule
  if specs.isTypedef then return false
  discard (rule (.typeSpec true .declaration))
  discard skipAttributes
  skipCallingConventions
  if (← current).kind ≠ .identifier then
    let d ← rule (.declarator { allowAbstract := false })
    if d.name.isNone || !d.ops.head?.any DeclOp.isFunction then return false
    skipDeclaratorExtensions
    atPuncts ["\x7b", ";"]
  else
    discard advance
    discard skipAttributes
    if !(← acceptPunct "(") then return false
    let list ← definitionParamList rule
    expectPunct ")"
    skipDeclaratorExtensions
    if ← atPuncts ["\x7b", ";"] then return true
    if list.hasPrototype || list.params.isEmpty then return false
    return (← get).rest.any (·.isPunct "\x7b")

/-- Whether a function declaration of its own stands here. Nothing is consumed. -/
def looksLikeFunction (rule : Rules) : Parse Bool := do
  return (← speculate (functionAhead rule)).getD false

def oldStyleDeclarator (rule : Rules) (base : TypeSpec Unit) : Parse (String × TypeSpec Unit) := do
  let d ← rule (.declarator { allowAbstract := false })
  match d.name with
  | some name => return (name, base.derive d.ops)
  | none => throw .namelessParameter

def oldStyleDeclaration (rule : Rules) : Parse (List (String × TypeSpec Unit)) := do
  discard (declSpecs rule)
  let base ← rule (.typeSpec true .declaration)
  let declared ← separated (oldStyleDeclarator rule base)
  expectPunct ";"
  return declared

/-- The parameters of an old-style definition with their declared types, `int` where there is none. -/
def oldStyleParams (rule : Rules) (params : List (Param Unit)) : Parse (List (Param Unit)) := do
  let declared ← whileTrue (return !(← atPunct "\x7b")) (oldStyleDeclaration rule)
  let types := declared.flatten.reverse
  return params.map fun p => { p with
    type := (p.name.bind (List.lookup · types)).getD (TypeSpec.ofName "int") }

/-- What the head of a function declaration says. -/
structure FunctionHead where
  name : String
  list : ParamList
  returnType : TypeSpec Unit
  type : TypeSpec Unit
  isOverloadable : Bool

/-- The head of a function whose name stands right before its parameters. -/
def simpleHead (rule : Rules) (base : TypeSpec Unit) (isOverloadable : Bool) : Parse FunctionHead := do
  let name ← expectIdentifier
  let behind ← attributes
  expectPunct "("
  let list ← definitionParamList rule
  expectPunct ")"
  skipDeclaratorExtensions
  let isOldStyle := !list.hasPrototype && !list.params.isEmpty
  let params ← if isOldStyle && !(← atPuncts ["\x7b", ";"]) then oldStyleParams rule list.params
    else pure list.params
  let list := { list with params := params }
  return ⟨name, list, base, base.derive [list.op], isOverloadable || behind.isOverloadable⟩

/-- The head of a function whose name stands inside a larger declarator. -/
def nestedHead (rule : Rules) (base : TypeSpec Unit) (isOverloadable : Bool) : Parse FunctionHead := do
  let d ← rule (.declarator { allowAbstract := false, capture := true })
  skipDeclaratorExtensions
  match d.name, d.captured with
  | some name, some list =>
    return ⟨name, list, base.derive d.ops.tail, base.derive d.ops, isOverloadable⟩
  | _, _ => throw .namelessParameter

/-- The scope of a function's body: its parameters, the last of two with one name winning. -/
def paramScope (params : List (Param Unit)) : NameScope where
  names := params.filterMap (·.name)
  types := (params.filterMap fun p => p.name.map (·, p.type)).reverse

def function (rule : Rules) : Parse (FunctionDef Unit) := do
  let specs ← declSpecs rule
  specs.rejectAlignment "function declaration"
  let base ← rule (.typeSpec true .declaration)
  let before ← attributes
  skipCallingConventions
  let head ← if (← current).kind = .identifier then simpleHead rule base before.isOverloadable
    else nestedHead rule base before.isOverloadable
  modifyNames (·.addObject head.name head.type)
  let body ← if ← acceptPunct ";" then pure none
    else
      if head.list.params.any (·.name.isNone) then fail .expectedParameterName
      some <$> block rule (paramScope head.list.params)
  return {
    returnType := head.returnType
    name := head.name
    params := head.list.params
    body := body
    storage := specs.storageClass?
    isThreadLocal := specs.isThreadLocal
    isInline := specs.isInline
    isNoreturn := specs.isNoreturn
    hasPrototype := head.list.hasPrototype
    isVariadic := head.list.isVariadic
    isOverloadable := head.isOverloadable }

def statementKeywords : List String :=
  ["break", "case", "continue", "default", "do", "for", "goto", "if", "return", "switch", "while"]

def external (rule : Rules) : Parse (External Unit) := do
  let token ← current
  if token.isKeyword "_Static_assert" then return .declaration (← staticAssertion rule)
  else if ← looksLikeFunction rule then return .function (← function rule)
  else if token.kind = .keyword && statementKeywords.contains token.lexeme then
    failAt token (.statementOutsideFunction token.lexeme)
  else return .declaration (← rule .declaration)

def sourceUnit (rule : Rules) : Parse (SourceUnit Unit) := do
  let externals ← whileTrue (do skipMarkers; return !(← current).isEnd) (external rule)
  return ⟨externals⟩

/-! ## 5. Tying the knot -/

/-- The rule for a goal, given the rules for the goals inside it. -/
def ruleFor (rule : Rules) : Rules
  | .expression => expression rule
  | .assignment => assignment rule
  | .conditional => conditional rule
  | .unary => unary rule
  | .typeSpec allowPointers context => typeSpec rule allowPointers context
  | .declarator mode => declarator rule mode
  | .qualifiedDeclarator allowAbstract allowGnu => qualifiedDeclarator rule allowAbstract allowGnu
  | .param => param rule
  | .initializer => initializer rule
  | .statement => statement rule
  | .declaration => declaration rule

/-- The rules for phrases nested at most so deep. -/
def rulesWithin : Nat → Rules
  | 0 => fun _ => throw .tooDeep
  | depth + 1 => ruleFor (rulesWithin depth)

/-- A depth that no phrase over so many tokens exceeds: between two tokens there are fewer than sixteen
    goals. -/
def depthFor (tokens : Nat) : Nat := 16 * (tokens + 2)

/-- What an action answers on a token list that ends in its end token. -/
def runOn {β : Type} (standard : Standard) (tokens : List Token) (action : Rules → Parse β) :
    Except ParseError (β × Cursor) :=
  let final := tokens.getLast?.getD ⟨.endOfFile, "", 1, 1⟩
  action (rulesWithin (depthFor tokens.length)) ⟨standard, final⟩ ⟨tokens.dropLast, Names.initial⟩

end CCompiler.Grammar

namespace CCompiler

open Grammar in

def SourceUnit.parse (standard : Standard) (tokens : List Token) : Except ParseError (SourceUnit Unit) :=
  (runOn standard tokens sourceUnit).map (·.1)

end CCompiler
