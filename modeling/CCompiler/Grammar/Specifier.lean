import CCompiler.Grammar.Expression

/-!
# Specifiers

Rules for type specifiers, for the declarations of record members and enumerators inside them, and for
the other specifiers in front of a declaration.
-/
namespace CCompiler.Grammar

/-! ## 1. Declaration specifiers -/

/-- The specifiers in front of a declaration, the type apart, with the tokens to blame. -/
structure DeclSpecs where
  storage : Option (StorageClass × Token) := none
  alignment : Option (Int × Token) := none
  isThreadLocal : Bool := false
  isInline : Bool := false
  isNoreturn : Bool := false

namespace DeclSpecs

def isTypedef (specs : DeclSpecs) : Bool := specs.storage.any (·.1 == .typedef)

def storageClass? (specs : DeclSpecs) : Option StorageClass := specs.storage.map (·.1)

def alignment? (specs : DeclSpecs) : Option Int := specs.alignment.map (·.1)

/-- The specifier that makes no sense for anything but objects and functions. -/
def foreign? (specs : DeclSpecs) : Option Specifier :=
  if specs.isThreadLocal then some .threadLocal
  else if specs.isInline then some .inline_
  else if specs.isNoreturn then some .noreturn
  else none

/-- Refuses specifiers for objects and functions. -/
def rejectForeign (specs : DeclSpecs) (context : String) : Parse Unit :=
  match specs.foreign? with
  | some specifier => fail (.invalidSpecifier context specifier)
  | none => pure ()

def rejectAlignment (specs : DeclSpecs) (context : String) : Parse Unit :=
  match specs.alignment with
  | some (_, token) => failAt token (.invalidAlignment context)
  | none => pure ()

end DeclSpecs

def isPowerOfTwo (n : Int) : Bool := Bits.and n (n - 1) == 0

def alignas (rule : Rules) : Parse Int := do
  let token ← advance
  expectPunct "("
  if ← looksLikeTypeName rule then
    let (_, type) ← constantTypeName rule
    expectPunct ")"
    match alignOps? type.name type.ops with
    | some n => return n
    | none => failAt token (.invalidAlignas .notObjectType)
  else
    let e ← rule .conditional
    match ← sizeOf? e with
    | none => failAt token (.invalidAlignas .notConstant)
    | some n =>
      if n ≤ 0 then failAt token (.invalidAlignas .notPositive)
      if !isPowerOfTwo n then failAt token (.invalidAlignas .notPowerOfTwo)
      expectPunct ")"
      return n

/-- The keyword that a token stands for in front of a declaration. -/
def specifierKeyword? (token : Token) : Option String :=
  match token.kind with
  | .keyword => some token.lexeme
  | .identifier =>
    if token.lexeme = "__thread" then some "_Thread_local"
    else if token.lexeme = "__inline" || token.lexeme = "__inline__" then some "inline"
    else none
  | _ => none

def DeclSpecs.addAlignment (specs : DeclSpecs) (n : Int) (token : Token) : DeclSpecs :=
  match specs.alignment with
  | none => { specs with alignment := some (n, token) }
  | some (m, first) => { specs with alignment := some (if n > m then n else m, first) }

/-- Takes one more specifier, if one stands here. -/
def specifierStep (rule : Rules) (specs : DeclSpecs) : Parse (DeclSpecs ⊕ DeclSpecs) := do
  discard skipAttributes
  let token ← current
  match specifierKeyword? token with
  | none => return .inr specs
  | some keyword =>
    match StorageClass.ofKeyword? keyword with
    | some storage =>
      if specs.storage.isSome then failAt token (.duplicateStorage keyword)
      discard advance
      return .inl { specs with storage := some (storage, token) }
    | none =>
      match keyword with
      | "_Thread_local" =>
        if specs.isThreadLocal then failAt token .duplicateThreadLocal
        discard advance
        return .inl { specs with isThreadLocal := true }
      | "inline" =>
        if specs.isInline then failAt token (.duplicateFunctionSpecifier keyword)
        discard advance
        return .inl { specs with isInline := true }
      | "_Noreturn" =>
        if specs.isNoreturn then failAt token (.duplicateFunctionSpecifier keyword)
        discard advance
        return .inl { specs with isNoreturn := true }
      | "_Alignas" => return .inl (specs.addAlignment (← alignas rule) token)
      | _ => return .inr specs

def declSpecs (rule : Rules) : Parse DeclSpecs :=
  repeatStep ({} : DeclSpecs) (specifierStep rule)

/-! ## 2. Integer types -/

/-- What the keywords of an integer type have said so far. -/
structure IntegerWords where
  signedness : Option String := none
  base : Option String := none

def IntegerWords.add (words : IntegerWords) (token : Token) : Parse IntegerWords :=
  let keyword := token.lexeme
  let misplaced : Parse IntegerWords :=
    failAt token (.integerKeywordOrder keyword (words.base.getD "<none>"))
  match keyword with
  | "signed" | "unsigned" =>
    if words.signedness.isSome then failAt token (.duplicateSignedness keyword)
    else return { words with signedness := some keyword }
  | "char" => if words.base.isSome then misplaced else return { words with base := some keyword }
  | "short" =>
    match words.base with
    | none | some "int" => return { words with base := some keyword }
    | _ => misplaced
  | "long" =>
    match words.base with
    | none | some "int" => return { words with base := some keyword }
    | some "long" => return { words with base := some "long long" }
    | _ => misplaced
  | _ =>
    match words.base with
    | none => return { words with base := some keyword }
    | some "short" | some "long" | some "long long" => return words
    | _ => misplaced

def IntegerWords.typeName (words : IntegerWords) : String :=
  let base := words.base.getD "int"
  if words.signedness = some "unsigned" then "unsigned " ++ base else base

def integerKeywords : List String := ["int", "char", "short", "long", "signed", "unsigned"]

/-- The integer type that starts with a keyword already read. -/
def integerType (first : Token) : Parse String := do
  let start ← IntegerWords.add {} first
  let words ← repeatStep start fun words => do
    let token ← current
    if token.kind = .keyword && integerKeywords.contains token.lexeme then
      discard advance
      return .inl (← words.add token)
    else return .inr words
  return words.typeName

/-! ## 3. Enumerations and records -/

def enumerator (rule : Rules) : Parse (Enumerator Unit) := do
  let name ← expectIdentifier
  if ← acceptPunct "=" then return ⟨name, some (← rule .conditional)⟩ else return ⟨name, none⟩

def tag? : Parse (Option String) := do
  if (← current).kind = .identifier then return some (← advance).lexeme else return none

def enumBase (rule : Rules) (keyword : Token) : Parse (TypeBase Unit) := do
  let tag ← tag?
  let members ← if ← atPunct "\x7b" then braced .expectedEnumerator (enumerator rule) else pure []
  if tag.isNone && members.isEmpty then failAt keyword .expectedEnumDefinition
  return .enum tag members

def expectedIdentifier {β : Type} : Parse β := do
  let token ← current
  failAt token (.expectedIdentifier token)

def member (rule : Rules) (specs : DeclSpecs) (base : TypeSpec Unit) : Parse (MemberDecl Unit) := do
  let d ← rule (.declarator { allowUnsized := true })
  let width ← if ← acceptPunct ":" then some <$> rule .conditional else pure none
  if d.name.isNone && width.isNone then expectedIdentifier
  let type := base.derive d.ops
  if type.isFunction then specs.rejectAlignment "record member declaration"
  if type.isVoidObject then fail (.invalidVoidObject "record member declaration")
  return ⟨type, d.name, specs.alignment?, width⟩

def memberDeclaration (rule : Rules) : Parse (List (MemberDecl Unit)) := do
  let specs ← declSpecs rule
  if specs.storage.isSome then fail .expectedTypeSpecifier
  specs.rejectForeign "record member"
  let base ← rule (.typeSpec true .declaration)
  if ← atPunct ";" then
    specs.rejectAlignment "record member declaration"
    match base.base with
    | .record .. =>
      discard advance
      return [⟨base, none, none, none⟩]
    | _ => expectedIdentifier
  else
    let members ← separated (member rule specs base)
    expectPunct ";"
    return members

def recordBase (rule : Rules) (kind : RecordKind) (keyword : Token) : Parse (TypeBase Unit) := do
  discard skipAttributes
  let tag ← tag?
  if ← acceptPunct "\x7b" then
    let members ← whileTrue (return !(← atPunct "\x7d")) (memberDeclaration rule)
    expectPunct "\x7d"
    return .record kind tag members.flatten true
  else if tag.isNone then failAt keyword (.expectedRecordDefinition kind)
  else return .record kind tag [] false

/-! ## 4. Type specifiers -/

/-- Why a type cannot be made atomic. -/
def atomicFault? (type : TypeSpec Unit) (isQualified allowAtomic : Bool) : Option String :=
  if isQualified then some "qualified"
  else if !allowAtomic && type.isAtomic then some "atomic"
  else if type.isArray then some "array"
  else if type.isFunction then some "function"
  else none

/-- Whether a type name is qualified at the top: by its outermost pointer if it has one, by its
    specifier if it has no derivation. -/
def isTopQualified (baseIsQualified : Bool) (d : QualifiedDeclarator) : Bool :=
  match d.ops with
  | .pointer :: _ => d.topPointerIsQualified
  | [] => baseIsQualified || d.hasLeadingQualifier
  | _ => false

/-- Whether the specifier that starts here is qualified by a qualifier in front or by the typedef it
    names. -/
def baseIsQualified (allowIgnored : Bool) : Parse Bool := do
  let token ← current
  return isQualifier token || (allowIgnored && isIgnoredQualifier token)
    || (token.kind == .identifier && (← names).isQualifiedTypedef token.lexeme)

/-- The type in the parentheses of an atomic specifier, and whether it is qualified. -/
def atomicOperand (rule : Rules) : Parse (TypeSpec Unit × Bool) := do
  expectPunct "("
  let qualified ← baseIsQualified false
  let base ← rule (.typeSpec false .typeName)
  let d ← rule (.qualifiedDeclarator true true)
  match d.name with
  | some name => fail (.typeNameDeclares name)
  | none =>
    expectPunct ")"
    return (base.derive d.ops, isTopQualified qualified d)

/-- The type in the parentheses of `typeof`: a type name, or an expression. -/
def typeofOperand (rule : Rules) : Parse (TypeSpec Unit) := do
  expectPunct "("
  if ← looksLikeTypeName rule then
    let type ← typeName rule
    expectPunct ")"
    return type
  else
    let e ← rule .expression
    expectPunct ")"
    return TypeSpec.ofBase (.typeof e)

/-- The number of pointers behind a specifier, where they are read as part of it. -/
def pointersBehind (allowPointers : Bool) : Parse Nat :=
  if allowPointers then pointerDepth else pure 0

def plainType (allowPointers : Bool) (qualifiers : List String) (base : TypeBase Unit) : Parse (TypeSpec Unit) := do
  let depth ← pointersBehind allowPointers
  return { TypeSpec.ofBase base with
    ops := List.replicate depth .pointer
    qualifiers := qualifiers }

/-- A type that is known as a whole, with the pointers and qualifiers around it. -/
def knownType (allowPointers : Bool) (qualifiers : List String) (type : TypeSpec Unit) : Parse (TypeSpec Unit) := do
  let depth ← pointersBehind allowPointers
  return (type.pointers depth).qualify qualifiers

def atomicType (rule : Rules) (allowPointers : Bool) (context : TypeContext)
    (qualifiers : List String) (keyword : Token) : Parse (TypeSpec Unit) := do
  let (type, fault) ← if ← atPunct "(" then
      let (type, qualified) ← atomicOperand rule
      pure (type, atomicFault? type qualified false)
    else
      let token ← current
      if token.kind ≠ .keyword && token.kind ≠ .identifier then
        failAt keyword .expectedTypeAfterAtomic
      let type ← rule (.typeSpec false context)
      pure (type, atomicFault? type false true)
  match fault with
  | some reason => failAt keyword (.invalidAtomic reason)
  | none => knownType allowPointers qualifiers type.atomic

def complexName (context : TypeContext) (keyword : Token) : Parse String := do
  let token ← current
  if token.isKeyword "float" || token.isKeyword "double" then
    return (← advance).lexeme
  else if token.isKeyword "long" && (← peek 1).isKeyword "double" then
    discard advance
    discard advance
    return "long double"
  else failAt keyword (.noType context keyword)

/-- Reads over `_Complex` behind a floating type, and refuses it behind any other. -/
def skipComplex (context : TypeContext) (allow : Bool) : Parse Unit := do
  let token ← current
  if token.isKeyword "_Complex" then
    discard advance
    if !allow then failAt token (.noType context token)

/-- The type names of the GNU mode that are no keywords. -/
def extendedTypeNames : List String :=
  ["_Float16", "_Float32", "_Float64", "_Float128", "_Float32x", "_Float64x", "__int128_t",
    "__uint128_t"]

def keywordType (rule : Rules) (allowPointers : Bool) (context : TypeContext)
    (qualifiers : List String) (token : Token) : Parse (TypeSpec Unit) := do
  discard advance
  let plain := plainType allowPointers qualifiers
  match token.lexeme with
  | "typeof" | "typeof_unqual" | "__typeof__" =>
    if !(← isGnu) then failAt token (.gnuExtension "typeof")
    knownType allowPointers qualifiers (← typeofOperand rule)
  | "_Complex" => plain (.named (← complexName context token))
  | "float" | "double" =>
    skipComplex context true
    plain (.named token.lexeme)
  | "_Bool" | "void" => plain (.named token.lexeme)
  | "enum" => plain (← enumBase rule token)
  | "struct" => plain (← recordBase rule .struct token)
  | "union" => plain (← recordBase rule .union token)
  | keyword =>
    if integerKeywords.contains keyword then
      let name ← integerType token
      if name = "long" && (← atKeyword "double") then
        discard advance
        skipComplex context true
        plain (.named "long double")
      else
        skipComplex context false
        plain (.named name)
    else failAt token (.noType context token)

/-- A type specifier with its qualifiers and, where they are read as part of it, its pointers. -/
def typeSpec (rule : Rules) (allowPointers : Bool) (context : TypeContext) : Parse (TypeSpec Unit) := do
  let qualifiers ← typeQualifiers
  let token ← current
  if token.isKeyword "_Atomic" then
    discard advance
    atomicType rule allowPointers context qualifiers token
  else if token.kind = .identifier then
    if extendedTypeNames.contains token.lexeme then
      discard advance
      knownType allowPointers qualifiers (TypeSpec.ofName token.lexeme)
    else
      match (← names).typedef? token.lexeme with
      | none => failAt token (.noType context token)
      | some (type, _) =>
        discard advance
        knownType allowPointers qualifiers type
  else if token.kind = .keyword then
    keywordType rule allowPointers context qualifiers token
  else failAt token (.noType context token)

end CCompiler.Grammar
