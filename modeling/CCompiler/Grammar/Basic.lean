import CCompiler.Literal.Typed
import CCompiler.Syntax.Encoding

/-!
# Parsing actions

Every way in which a token list fails to be a C program, with its wording. An error names the token it is
reported at.

A parser reads tokens from the front of what is left and keeps the names it has seen declared: whether an
identifier names a type decides how C is parsed. The end token is never consumed, so every look at the
tokens finds one.
-/
namespace CCompiler.Grammar

/-- Where a type was expected: at the start of a declaration or as a type name. -/
inductive TypeContext where
  | declaration
  | typeName
deriving Repr, DecidableEq

inductive Specifier where
  | threadLocal
  | inline_
  | noreturn
deriving Repr, DecidableEq

def Specifier.keyword : Specifier → String
  | .threadLocal => "_Thread_local"
  | .inline_ => "inline"
  | .noreturn => "_Noreturn"

inductive AlignasFault where
  | notObjectType
  | notConstant
  | notPositive
  | notPowerOfTwo
deriving Repr, DecidableEq

def AlignasFault.message : AlignasFault → String
  | .notObjectType => "_Alignas type operand must denote an object type"
  | .notConstant => "_Alignas expression operand must be an integer constant expression"
  | .notPositive => "_Alignas expression operand must be positive"
  | .notPowerOfTwo => "_Alignas expression operand must evaluate to a power of two"

/-- A place of a generic association: its position in the list, line and column. -/
structure AssociationPlace where
  index : Nat
  line : Nat
  column : Nat
deriving Repr, DecidableEq

def AssociationPlace.text (p : AssociationPlace) : String :=
  s!"position {p.index} (line {p.line}, column {p.column})"

inductive Cause where
  | expectedKind (kind : TokenKind)
  | expectedPunct (text : String)
  | expectedIdentifier (found : Token)
  | expectedParameterName
  | expectedParameterBeforeDots
  | expectedParameterAfterComma
  | expectedCloseAfterDots
  | expectedTypeAfterAtomic
  | expectedTypeSpecifier
  | expectedEnumDefinition
  | expectedEnumerator
  | expectedRecordDefinition (kind : RecordKind)
  | expectedInitializer
  | expectedWhile
  | expectedStaticAssert
  | expectedAssertMessage
  | expectedMemberName
  | expectedMemberNameAfterDot
  | statementOutsideFunction (keyword : String)
  | parameterStorage (storage : StorageClass)
  | invalidSpecifier (context : String) (specifier : Specifier)
  | invalidAlignment (context : String)
  | invalidAlignas (fault : AlignasFault)
  | invalidParameterType
  | invalidVoidObject (context : String)
  | invalidAtomic (reason : String)
  | invalidAlignofOperand
  | invalidStringLiteral
  | incompatiblePrefixes
  | typedefInitializer
  | typeNameDeclares (name : String)
  | noType (context : TypeContext) (found : Token)
  | duplicateQualifier (qualifier : String)
  | duplicateSignedness (keyword : String)
  | duplicateStorage (keyword : String)
  | duplicateThreadLocal
  | duplicateFunctionSpecifier (keyword : String)
  | duplicateStaticBound
  | integerKeywordOrder (keyword : String) (before : String)
  | staticBoundWithoutSize
  | missingArraySize
  | arraySizeLiteral (fault : Literal.SizeFault)
  | arraySizeNotPositive
  | arraySizeNotConstant (subject : String)
  | gnuExtension (feature : String)
  | noOperand (found : Token)
  | duplicateDefault (place previous : AssociationPlace)
  | duplicateAssociation (place previous : AssociationPlace) (spelling previousSpelling : String)
deriving Repr, DecidableEq

/-! ## 1. Wording -/

/-- What a token that is neither identifier nor keyword is called. -/
def kindDescription : TokenKind → String
  | .intConst => "integer constant"
  | .floatConst => "floating constant"
  | .charConst => "character constant"
  | .stringLiteral => "string literal"
  | .punctuator => "punctuator"
  | .headerName => "header name"
  | .number => "preprocessor number"
  | .endOfFile => "end of input"
  | _ => "token"

/-- The punctuators that end a place where a type should have stood. -/
def closingPunctuators : List String :=
  [")", "\x7b", "<%", "]", ":>", ",", ":", ";", "?", "\x7d", "%>"]

def typeNamePunctuator (text : String) : String :=
  if closingPunctuators.contains text then s!"Type name is missing before '{text}'"
  else s!"Type name cannot start with '{text}': expected a type specifier"

/-- The wording when a punctuator stands where a declaration should start. -/
def declarationPunctuator (text : String) : String :=
  if closingPunctuators.contains text then s!"Declaration type is missing before '{text}'"
  else if ["(", "[", "<:"].contains text then
    s!"Declaration type cannot start with '{text}': expected a type specifier"
  else if text = "*" then
    s!"Declaration type is missing before '{text}': pointer declarator requires a base type"
  else s!"Declaration type is missing before '{text}': expected a type specifier"

def noTypeMessage (context : TypeContext) (found : Token) : String :=
  match context, found.kind with
  | .typeName, .identifier => s!"Unknown type name: '{found.lexeme}'"
  | .declaration, .identifier => s!"Unknown declaration type name: '{found.lexeme}'"
  | .typeName, .keyword => s!"Unsupported type name: '{found.lexeme}'"
  | .declaration, .keyword => s!"Unsupported declaration type: '{found.lexeme}'"
  | .typeName, .punctuator => typeNamePunctuator found.lexeme
  | .declaration, .punctuator => declarationPunctuator found.lexeme
  | .typeName, .endOfFile => "Type name is missing before end of input"
  | .declaration, .endOfFile => "Declaration type is missing before end of input"
  | .typeName, kind => s!"Type name cannot start with {kindDescription kind}: '{found.lexeme}'"
  | .declaration, kind =>
    s!"Declaration type cannot start with {kindDescription kind}: '{found.lexeme}'"

/-- The punctuators that no operand starts with and that get a hint. -/
def operandlessPunctuators : List String :=
  ["...", ")", "]", "\x7d", ",", ":", "?", ";", "\x7b", "##", "%:", "%:%:", "<:", ":>", "<%", "%>"]

def noOperandMessage (found : Token) : String :=
  let unsupported := "Expression cannot start with unsupported token kind '" ++ found.kind.name
    ++ "' (lexeme " ++ Text.quoted found.lexeme ++ ")"
  match found.kind with
  | .punctuator =>
    if operandlessPunctuators.contains found.lexeme then
      s!"Expression cannot start with '{found.lexeme}': expected an operand"
    else unsupported
  | .keyword => s!"Expression cannot start with keyword '{found.lexeme}': expected an operand"
  | .endOfFile => "Expression is missing before end of input"
  | .number => s!"Expression cannot start with preprocessing number: '{found.lexeme}'"
  | .headerName => s!"Expression cannot start with header name: '{found.lexeme}'"
  | _ => unsupported

/-- The wording when one type heads two associations. -/
def duplicateAssociationMessage (place previous : AssociationPlace) (spelling previousSpelling : String) : String :=
  let alike := spelling == previousSpelling
  let relation := if alike then "identical" else "canonical-equivalent"
  let details := if alike then "" else
    s!" (previous spelling: '{previousSpelling}'; current spelling: '{spelling}')"
  s!"Duplicate generic type association at {place.text}: previous {relation} type association was "
    ++ s!"at {previous.text}{details}"

def Cause.message : Cause → String
  | .expectedKind kind => s!"Expected {kind.name}"
  | .expectedPunct text => s!"Expected '{text}'"
  | .expectedIdentifier found =>
    if found.isEnd then "Expected identifier before end of input"
    else s!"Expected identifier before '{found.lexeme}'"
  | .expectedParameterName => "Expected parameter name"
  | .expectedParameterBeforeDots => "Expected parameter before ..."
  | .expectedParameterAfterComma => "Expected parameter declaration after ','"
  | .expectedCloseAfterDots => "Expected ')' after ... in parameter list"
  | .expectedTypeAfterAtomic => "Expected type name after _Atomic"
  | .expectedTypeSpecifier => "Expected type specifier"
  | .expectedEnumDefinition => "Expected enum tag or definition"
  | .expectedEnumerator => "Expected enumerator"
  | .expectedRecordDefinition kind => s!"Expected {kind.keyword} tag or definition"
  | .expectedInitializer => "Expected initializer"
  | .expectedWhile => "Expected while"
  | .expectedStaticAssert => "Expected _Static_assert"
  | .expectedAssertMessage => "Expected static assertion message"
  | .expectedMemberName => "Expected member name in __builtin_offsetof"
  | .expectedMemberNameAfterDot => "Expected member name after '.' in __builtin_offsetof"
  | .statementOutsideFunction keyword => s!"{keyword} statement outside of a function"
  | .parameterStorage storage => s!"Invalid storage class for parameter: '{storage.keyword}'"
  | .invalidSpecifier context specifier =>
    s!"Invalid declaration specifier for {context}: '{specifier.keyword}'"
  | .invalidAlignment context => s!"Invalid alignment specifier for {context}"
  | .invalidAlignas fault => s!"Invalid alignment specifier: {fault.message}"
  | .invalidParameterType => "Invalid parameter type"
  | .invalidVoidObject context => s!"Invalid object type for {context}: void"
  | .invalidAtomic reason => s!"Invalid atomic type: {reason}"
  | .invalidAlignofOperand => "Invalid alignof operand"
  | .invalidStringLiteral => "Invalid string literal"
  | .incompatiblePrefixes => "Incompatible string literal prefixes"
  | .typedefInitializer => "Typedef cannot have initializer"
  | .typeNameDeclares name => s!"Type name cannot declare identifier '{name}'"
  | .noType context found => noTypeMessage context found
  | .duplicateQualifier qualifier => s!"Duplicate type qualifier: '{qualifier}'"
  | .duplicateSignedness keyword => s!"Duplicate integer signedness specifier: '{keyword}'"
  | .duplicateStorage keyword => s!"Duplicate storage class specifier: '{keyword}'"
  | .duplicateThreadLocal => "Duplicate thread-local specifier: '_Thread_local'"
  | .duplicateFunctionSpecifier keyword => s!"Duplicate function specifier: '{keyword}'"
  | .duplicateStaticBound => "Duplicate array bound specifier: 'static'"
  | .integerKeywordOrder keyword before =>
    s!"Invalid integer type keyword order: '{keyword}' after '{before}'"
  | .staticBoundWithoutSize => "Array parameter with 'static' requires a size"
  | .missingArraySize => "Array size is required in this context"
  | .arraySizeLiteral fault => fault.message
  | .arraySizeNotPositive => "Array size must be positive"
  | .arraySizeNotConstant subject =>
    s!"Array size {subject} is not an integer constant expression"
  | .gnuExtension feature => s!"{feature} is a GNU extension"
  | .noOperand found => noOperandMessage found
  | .duplicateDefault place previous =>
    s!"Duplicate default generic association at {place.text}: previous default was at "
      ++ s!"{previous.text}; only one default association is allowed"
  | .duplicateAssociation place previous spelling previousSpelling =>
    duplicateAssociationMessage place previous spelling previousSpelling

/-- Why parsing stopped: a cause at a token, a fault of an integer in an array size, a parameter
    declaration of the old style that names nothing, or a nesting deeper than the token list allows. -/
inductive ParseError where
  | at (cause : Cause) (token : Token)
  | number (fault : NumberFault)
  | namelessParameter
  | tooDeep
deriving Repr, DecidableEq

/-- The wording of an error, without and with its place. -/
def ParseError.bare : ParseError → String
  | .at cause _ => cause.message
  | .number fault => fault.message
  | .namelessParameter => ""
  | .tooDeep => ""

def ParseError.message : ParseError → String
  | .at cause token => s!"{cause.message} at {token.line}:{token.column}"
  | e => e.bare

/-! ## 2. Names in scope -/

/-- What one block has declared. A typedef records whether its type is qualified at the top. -/
structure NameScope where
  typedefs : List (String × TypeSpec Unit × Bool) := []
  names : List String := []
  types : List (String × TypeSpec Unit) := []

abbrev Names := List NameScope

namespace Names

def initial : Names :=
  [{ typedefs := [("__builtin_va_list", TypeSpec.ofName "__builtin_va_list", false)] }]

def modifyTop (names : Names) (f : NameScope → NameScope) : Names :=
  match names with
  | [] => []
  | top :: rest => f top :: rest

def addTypedef (names : Names) (name : String) (type : TypeSpec Unit) (isQualified : Bool) : Names :=
  names.modifyTop fun top => { top with typedefs := (name, type, isQualified) :: top.typedefs }

def addName (names : Names) (name : String) : Names :=
  names.modifyTop fun top => { top with names := name :: top.names }

def addObject (names : Names) (name : String) (type : TypeSpec Unit) : Names :=
  (names.addName name).modifyTop fun top => { top with types := (name, type) :: top.types }

/-- The typedef that a name stands for, unless an ordinary name hides it. -/
def typedef? : Names → String → Option (TypeSpec Unit × Bool)
  | [], _ => none
  | scope :: outer, name =>
    if scope.names.contains name then none
    else
      match scope.typedefs.lookup name with
      | some found => some found
      | none => typedef? outer name

def isTypedef (names : Names) (name : String) : Bool := (names.typedef? name).isSome

def isQualifiedTypedef (names : Names) (name : String) : Bool :=
  (names.typedef? name).any (·.2)

/-- The type of the object or function that a name stands for, if it is known. -/
def objectType? : Names → String → Option (TypeSpec Unit)
  | [], _ => none
  | scope :: outer, name =>
    if scope.names.contains name then scope.types.lookup name else objectType? outer name

end Names

/-! ## 3. Actions -/

/-- What does not change during a parse: the language mode and the token at the end. -/
structure Setting where
  standard : Standard
  final : Token

structure Cursor where
  rest : List Token
  names : Names

abbrev Parse := ReaderT Setting (StateT Cursor (Except ParseError))

def failAt {β : Type} (token : Token) (cause : Cause) : Parse β := throw (.at cause token)

/-- The token at an offset from the current one; past the end it is the end token. -/
def peek (offset : Nat) : Parse Token := do
  return (← get).rest.getD offset (← read).final

def current : Parse Token := peek 0

def fail {β : Type} (cause : Cause) : Parse β := do
  failAt (← current) cause

/-- Consumes the current token, unless it is the end. -/
def advance : Parse Token := do
  let token ← current
  modify fun cursor => { cursor with rest := cursor.rest.tail }
  return token

def atPunct (text : String) : Parse Bool := do
  return (← current).isPunct text

def atPuncts (texts : List String) : Parse Bool := do
  let token ← current
  return texts.any token.isPunct

def atKeyword (text : String) : Parse Bool := do
  return (← current).isKeyword text

def nextIsPunct (text : String) : Parse Bool := do
  return (← peek 1).isPunct text

/-- Consumes a given punctuator if it is there, and says whether it was. -/
def acceptPunct (text : String) : Parse Bool := do
  let found ← atPunct text
  if found then discard advance
  return found

def expectPunct (text : String) : Parse Unit := do
  if ← atPunct text then discard advance else fail (.expectedPunct text)

def expectKind (kind : TokenKind) : Parse Token := do
  if (← current).kind = kind then advance else fail (.expectedKind kind)

def expectIdentifier : Parse String := do
  return (← expectKind .identifier).lexeme

def isGnu : Parse Bool := do
  return (← read).standard == .gnu11

def names : Parse Names := do
  return (← get).names

def modifyNames (f : Names → Names) : Parse Unit :=
  modify fun cursor => { cursor with names := f cursor.names }

/-- The tokens consumed since a moment at which `start` was left. -/
def consumedSince (start : List Token) : Parse (List Token) := do
  return start.take (start.length - (← get).rest.length)

/-! ## 4. Scopes, speculation and repetition -/

def inScope {β : Type} (scope : NameScope) (action : Parse β) : Parse β := do
  modifyNames (scope :: ·)
  let result ← action
  modifyNames List.tail
  return result

/-- What an action would answer here, none if it met a syntax error. Nothing is consumed and no name
    is declared. -/
def speculate {β : Type} (action : Parse β) : Parse (Option β) := fun setting cursor =>
  match action setting cursor with
  | .ok (result, _) => .ok (some result, cursor)
  | .error (.at ..) => .ok (none, cursor)
  | .error e => .error e

/-- Repeats a step until it answers a result: at most once for each of some tokens, and once more. -/
def iterate {σ β : Type} (step : σ → Parse (σ ⊕ β)) : List Token → σ → Parse β
  | [], s => do
    match ← step s with
    | .inl _ => throw .tooDeep
    | .inr result => return result
  | _ :: bound, s => do
    match ← step s with
    | .inl next => iterate step bound next
    | .inr result => return result

/-- Repeats a step that consumes a token each time, until it answers a result. -/
def repeatStep {σ β : Type} (init : σ) (step : σ → Parse (σ ⊕ β)) : Parse β := do
  iterate step (← get).rest init

def whileStep {β : Type} (test : Parse Bool) (action : Parse β) (results : List β) : Parse (List β ⊕ List β) := do
  if ← test then return .inl ((← action) :: results) else return .inr results.reverse

def whileTrue {β : Type} (test : Parse Bool) (action : Parse β) : Parse (List β) :=
  repeatStep [] (whileStep test action)

def separated {β : Type} (action : Parse β) : Parse (List β) := do
  let first ← action
  let more ← whileTrue (acceptPunct ",") action
  return first :: more

end CCompiler.Grammar
