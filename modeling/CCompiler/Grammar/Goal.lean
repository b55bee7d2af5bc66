import CCompiler.Grammar.Basic

/-!
# Array sizes, attributes and goals

The integer constant expressions that the parser evaluates by itself: bounds of arrays and operands of
`_Alignas`. Names of objects matter only as controls of generic selections.

Extensions that the grammar reads over: GNU attributes, `__declspec`, calling conventions, assembler labels
and the `__extension__` marker. Only the attribute `overloadable` has a meaning. Type qualifiers are read
here as well, in a strict and in a lenient way.

The phrases of the grammar that refer to each other. A rule for one goal is written with the rules for
all goals as a parameter, so that every rule is an ordinary definition; the knot is tied once, at the end.
-/
namespace CCompiler.Grammar

/-! ## 1. Array sizes -/

def baseSize? (name : String) : Option Int :=
  [("_Bool", 1), ("char", 1), ("unsigned char", 1), ("short", 2), ("unsigned short", 2), ("int", 4),
    ("unsigned int", 4), ("long", 8), ("unsigned long", 8), ("long long", 8),
    ("unsigned long long", 8), ("__int128_t", 16), ("__uint128_t", 16), ("float", 4), ("double", 8),
    ("long double", 16), ("enum", 4), ("_Float16", 2), ("_Float32", 4), ("_Float64", 8),
    ("_Float128", 16), ("_Float32x", 8), ("_Float64x", 16)].lookup name

def alignOps? {α : Type} (base : String) : List (DeclOp α) → Option Int
  | [] => baseSize? base
  | .pointer :: _ => some 8
  | .array _ :: rest => alignOps? base rest
  | _ => none

/-- What evaluating a size answers: an integer, nothing where the expression is not constant, or a fault
    of an integer in it. -/
abbrev Size := Except NumberFault (Option Int)

def truth (b : Bool) : Int := if b then 1 else 0

/-- Arithmetic without bounds; division truncates and needs a divisor, shifts need a count of zero or
    more, and one to the left needs room. -/
def evalArith (op : ArithOp) (l r : Int) : Size :=
  match op with
  | .mul => .ok (l * r)
  | .div => .ok (if r = 0 then none else some (l.tdiv r))
  | .rem => .ok (if r = 0 then none else some (l.tmod r))
  | .add => .ok (l + r)
  | .sub => .ok (l - r)
  | .shl => if r < 0 then .ok none else (Number.shiftLeft l r.toNat).map some
  | .shr => .ok (if r < 0 then none else some (Bits.shiftRight l r.toNat))
  | .bitAnd => .ok (Bits.and l r)
  | .bitXor => .ok (Bits.xor l r)
  | .bitOr => .ok (Bits.or l r)

def evalRelation (op : Relation) (l r : Int) : Bool :=
  match op with
  | .lt => l < r
  | .le => l ≤ r
  | .gt => l > r
  | .ge => l ≥ r
  | .eq => l = r
  | .ne => l ≠ r

def evalBinary (op : BinaryOp) (l r : Int) : Size :=
  match op with
  | .arith op => evalArith op l r
  | .relation op => .ok (truth (evalRelation op l r))
  | .logicalAnd => .ok (truth (l ≠ 0 && r ≠ 0))
  | .logicalOr => .ok (truth (l ≠ 0 || r ≠ 0))
  | .other _ => .ok none

def evalUnary (op : UnaryOp) (n : Int) : Option Int :=
  match op with
  | .plus => some n
  | .minus => some (-n)
  | .complement => some (Bits.not n)
  | .logicalNot => some (truth (n = 0))
  | _ => none

/-- The type of the control of a generic selection, where it can be told: a literal or a known name. -/
def controlType? (types : Names) : Expr Unit → Option (TypeSpec Unit)
  | .int _ text => some (TypeSpec.ofName (Literal.suffixType text))
  | .string .. => some ((TypeSpec.ofName "char").pointers 1)
  | .ident _ name => (types.objectType? name).map TypeSpec.decay
  | _ => none

section

variable (types : Names)

mutual

/-- The value of an integer constant expression. Both operands are evaluated, even if the first has no
    value. -/
def evalSize? : Expr Unit → Size
  | .int _ text => Literal.value? text
  | .generic _ control associations _ =>
    match matchingSize? (controlType? types control) associations with
    | some value => value
    | none => (defaultSize? associations).getD (.ok none)
  | .cast _ _ operand => evalSize? operand
  | .sizeofType _ type => sizeofSpec? type
  | .alignofType _ type => .ok (alignOps? type.name type.ops)
  | .unary _ op operand => do return (← evalSize? operand).bind (evalUnary op)
  | .binary _ op left right => do
    match ← evalSize? left, ← evalSize? right with
    | some l, some r => evalBinary op l r
    | _, _ => return none
  | .conditional _ condition thenExpr elseExpr => do
    match ← evalSize? condition with
    | none => return none
    | some value => if value ≠ 0 then evalSize? thenExpr else evalSize? elseExpr
  | _ => .ok none

def matchingSize? (control : Option (TypeSpec Unit)) : List (Association Unit) → Option Size
  | [] => none
  | .typed type value :: rest =>
    if control.any fun c => c.matchesControl type then some (evalSize? value)
    else matchingSize? control rest
  | .default _ :: rest => matchingSize? control rest

def defaultSize? : List (Association Unit) → Option Size
  | [] => none
  | .typed .. :: rest => defaultSize? rest
  | .default value :: rest =>
    match defaultSize? rest with
    | some later => some later
    | none => some (evalSize? value)

def sizeofSpec? : TypeSpec Unit → Size
  | ⟨_, base, ops, _, _, _, _, _⟩ => sizeofOps? base.name ops

/-- The size of a type with derivations over a named base. -/
def sizeofOps? (base : String) : List (DeclOp Unit) → Size
  | [] => .ok (baseSize? base)
  | .array bound :: rest => do
    match ← boundLength? bound with
    | none => return none
    | some length =>
      if length ≤ 0 then return none
      return (← sizeofOps? base rest).map (· * length)
  | .pointer :: _ => .ok (some 8)
  | _ => .ok none

def boundLength? : ArrayBound Unit → Size
  | .length n => .ok n
  | .unsized .. => .ok none
  | .constant n _ _ => .ok n
  | .sized size _ _ => evalSize? size

end

end

def isVariable (types : Names) (e : Expr Unit) : Bool := (evalSize? types e).toOption.join.isNone

/-- The part of an expression to blame when it has no value. -/
def sizeSubject (types : Names) : Expr Unit → String
  | .ident _ name => s!"identifier '{name}'"
  | .unary _ op _ => s!"unary operator '{op.text}'"
  | .binary _ op _ _ => s!"binary operator '{op.text}'"
  | .call .. => "call expression"
  | .generic .. => "generic selection"
  | .comma .. => "comma expression"
  | .assign .. => "assignment expression"
  | .update .. => "update expression"
  | .subscript .. => "subscript expression"
  | .member .. => "member access expression"
  | .compoundLiteral .. => "compound literal"
  | .int .. => "integer literal"
  | .float .. => "floating literal"
  | .char .. => "character literal"
  | .string .. => "string literal"
  | .statements .. => "statement expression"
  | .labelAddress .. => "label address expression"
  | .cast _ _ operand =>
    if isVariable types operand then sizeSubject types operand else "cast expression"
  | .sizeofExpr .. | .sizeofType .. => "sizeof expression"
  | .alignofExpr .. | .alignofType .. => "alignof expression"
  | .conditional _ condition thenExpr elseExpr =>
    match (evalSize? types condition).toOption.join with
    | none => "conditional condition"
    | some value =>
      if value ≠ 0 then
        if isVariable types thenExpr then sizeSubject types thenExpr
        else "conditional expression"
      else
        if isVariable types elseExpr then sizeSubject types elseExpr
        else "conditional expression"
  | e => s!"expression '{e.kindName}'"

def isBadSize (standard : Standard) (size : Int) : Bool :=
  size < 0 || (size = 0 && standard = .c11)

def sizeOf? (size : Expr Unit) : Parse (Option Int) := do
  match evalSize? (← names) size with
  | .ok value => return value
  | .error fault => throw (.number fault)

def arraySize (size : Expr Unit) (token : Token) : Parse Int := do
  match ← sizeOf? size with
  | none => failAt token (.arraySizeNotConstant (sizeSubject (← names) size))
  | some n => if isBadSize (← read).standard n then failAt token .arraySizeNotPositive else return n

/-- The size that an expression gives an array, -1 if it is not constant. -/
def arraySizeOrVariable (size : Expr Unit) (token : Token) : Parse Int := do
  match ← sizeOf? size with
  | none => return -1
  | some n => if isBadSize (← read).standard n then failAt token .arraySizeNotPositive else return n

def literalArraySize (standard : Standard) (token : Token) : Except ParseError Int := do
  match Literal.sizeFault? token.lexeme with
  | some fault => throw (.at (.arraySizeLiteral fault) token)
  | none =>
    match Literal.value? token.lexeme with
    | .error fault => throw (.number fault)
    | .ok none => throw (.at .arraySizeNotPositive token)
    | .ok (some n) =>
      if isBadSize standard n then throw (.at .arraySizeNotPositive token) else return n

/-! ## 2. Extensions and qualifiers -/

/-- Consumes tokens until so many open parentheses are closed. Answers whether the word `overloadable`
    stood among them. -/
def skipParentheses (start : Token) (depth : Nat) : Parse Bool :=
  repeatStep (depth, false) fun (depth, found) => do
    if depth = 0 then return .inr found
    let token ← current
    if token.isEnd then failAt start (.expectedPunct ")")
    discard advance
    let found := found || (token.kind == .identifier && token.lexeme == "overloadable")
    if token.isPunct "(" then return .inl (depth + 1, found)
    else if token.isPunct ")" then return .inl (depth - 1, found)
    else return .inl (depth, found)

structure AttributeSummary where
  any : Bool := false
  isOverloadable : Bool := false

def AttributeSummary.join (a b : AttributeSummary) : AttributeSummary :=
  ⟨a.any || b.any, a.isOverloadable || b.isOverloadable⟩

def atGnuAttribute : Parse Bool := do
  let token ← current
  return token.kind == .identifier && token.lexeme == "__attribute__"
    && (← peek 1).isPunct "(" && (← peek 2).isPunct "("

def gnuAttributes : Parse AttributeSummary := do
  let found ← whileTrue atGnuAttribute do
    let start ← advance
    expectPunct "("
    expectPunct "("
    skipParentheses start 2
  return ⟨!found.isEmpty, found.any id⟩

def atDeclspec : Parse Bool := do
  let token ← current
  return token.kind == .identifier && token.lexeme == "__declspec" && (← nextIsPunct "(")

/-- Reads over `__declspec` specifiers and says whether there was one. -/
def skipDeclspecs : Parse Bool := do
  let found ← whileTrue atDeclspec do
    let start ← advance
    expectPunct "("
    skipParentheses start 1
  return !found.isEmpty

def attributes : Parse AttributeSummary :=
  repeatStep ({} : AttributeSummary) fun summary => do
    let gnu ← gnuAttributes
    let declspec ← skipDeclspecs
    let summary := summary.join ⟨gnu.any || declspec, gnu.isOverloadable⟩
    if gnu.any || declspec then return .inl summary else return .inr summary

def skipAttributes : Parse Bool := do
  return (← attributes).any

def skipTypeNameAttributes (allowGnu : Bool) : Parse Bool :=
  repeatStep false fun found => do
    let declspec ← skipDeclspecs
    let gnu ← if allowGnu then gnuAttributes else pure {}
    if declspec || gnu.any then return .inl true else return .inr found

def skipMarkers : Parse Unit := do
  discard (whileTrue (atKeyword "__extension__") advance)

/-- Reads over an assembler label and says whether there was one. -/
def skipAsmLabel : Parse Bool := do
  let token ← current
  if token.kind == .identifier && ["__asm__", "__asm", "asm"].contains token.lexeme then
    let start ← advance
    if ← acceptPunct "(" then discard (skipParentheses start 1)
    return true
  else return false

/-- Reads over the attributes and assembler labels behind a declarator. -/
def skipDeclaratorExtensions : Parse Unit :=
  repeatStep () fun _ => do
    if ← skipAttributes then return .inl ()
    if ← skipAsmLabel then return .inl ()
    return .inr ()

def isCallingConvention (token : Token) : Bool :=
  token.kind == .identifier &&
    ["__cdecl", "__stdcall", "__fastcall", "__thiscall", "__vectorcall"].contains token.lexeme

def skipCallingConventions : Parse Unit := do
  discard (whileTrue (return isCallingConvention (← current)) advance)

/-- Reads over calling conventions if the token behind them passes a test. -/
def skipCallingConventionsIf (test : Token → Bool) : Parse Unit := do
  let rest := (← get).rest
  let words := (rest.takeWhile isCallingConvention).length
  if words ≠ 0 && test (← peek words) then
    modify fun cursor => { cursor with rest := rest.drop words }

def skipConventionsBeforePointer : Parse Unit :=
  skipCallingConventionsIf (·.isPunct "*")

/-- Reads over calling conventions between a `*` and what is declared. -/
def skipConventionsAfterPointer : Parse Unit :=
  skipCallingConventionsIf fun token =>
    token.kind == .identifier || token.isPunct "(" || token.isPunct ")"

def qualifierKeywords : List String := ["const", "volatile", "restrict"]

def isIgnoredQualifier (token : Token) : Bool :=
  token.kind == .identifier && token.lexeme == "__unaligned"

def isQualifier (token : Token) : Bool :=
  token.kind == .keyword && qualifierKeywords.contains token.lexeme

def isNullability (token : Token) : Bool :=
  token.kind == .identifier && ["_Nullable", "_Nonnull", "_Null_unspecified"].contains token.lexeme

/-- Type qualifiers in the order written; one may not stand twice. -/
def typeQualifiers : Parse (List String) := do
  let seen ← repeatStep ([] : List String) fun seen => do
    let token ← current
    if isQualifier token || isIgnoredQualifier token then
      discard advance
      if seen.contains token.lexeme then failAt token (.duplicateQualifier token.lexeme)
      return .inl (seen ++ [token.lexeme])
    else if ← atDeclspec then
      discard skipDeclspecs
      return .inl seen
    else return .inr seen
  return seen.filter qualifierKeywords.contains

def qualifierStep (allowAtomic : Bool) (found : Bool) : Parse (Bool ⊕ Bool) := do
  let token ← current
  if isQualifier token || isIgnoredQualifier token || isNullability token
      || (allowAtomic && token.isKeyword "_Atomic") then
    discard advance
    return .inl true
  else if ← atDeclspec then
    discard skipDeclspecs
    return .inl true
  else return .inr found

/-- Reads over qualifiers, `_Atomic` too if it is allowed, and says whether there was one. -/
def skipQualifiers (allowAtomic : Bool) : Parse Bool :=
  repeatStep false (qualifierStep allowAtomic)

/-- The number of `*` that follow, with the qualifiers between them. -/
def pointerDepth : Parse Nat := do
  discard (skipQualifiers false)
  let stars ← whileTrue (acceptPunct "*") (skipQualifiers true)
  return stars.length

/-- What a declarator may hold: no name, bounds that are not constant, the bounds of parameters, no
    bound at all. With `capture` the parameters of the function that is declared are answered. -/
structure DeclaratorMode where
  allowAbstract : Bool := true
  allowVariable : Bool := false
  allowParameterBounds : Bool := false
  allowUnsized : Bool := false
  capture : Bool := false

structure ParamList where
  params : List (Param Unit)
  hasPrototype : Bool
  isVariadic : Bool

def ParamList.op (list : ParamList) : DeclOp Unit :=
  if list.hasPrototype then .function (list.params.map (·.type)) list.isVariadic
  else .unprototyped list.isVariadic

/-- A declarator: the name, if there is one, and the derivations, outermost first. -/
structure Declarator where
  name : Option String
  ops : List (DeclOp Unit)
  captured : Option ParamList := none

/-- A declarator with what it says about qualifiers at the top of the type. -/
structure QualifiedDeclarator where
  name : Option String
  ops : List (DeclOp Unit)
  hasLeadingQualifier : Bool
  topPointerIsQualified : Bool

inductive Goal where
  | expression
  | assignment
  | conditional
  | unary
  | typeSpec (allowPointers : Bool) (context : TypeContext)
  | declarator (mode : DeclaratorMode)
  | qualifiedDeclarator (allowAbstract allowGnu : Bool)
  | param
  | initializer
  | statement
  | declaration

@[reducible] def Goal.Result : Goal → Type
  | .expression | .assignment | .conditional | .unary => Expr Unit
  | .typeSpec .. => TypeSpec Unit
  | .declarator _ => Declarator
  | .qualifiedDeclarator .. => QualifiedDeclarator
  | .param => Param Unit
  | .initializer => Initializer Unit
  | .statement | .declaration => Stmt Unit

abbrev Rules := (goal : Goal) → Parse goal.Result

/-! ## 3. Type names -/

/-- A type name: a specifier and a declarator that names nothing. -/
def typeName (rule : Rules) : Parse (TypeSpec Unit) := do
  let base ← rule (.typeSpec true .typeName)
  let d ← rule (.declarator { allowVariable := true })
  match d.name with
  | some name => fail (.typeNameDeclares name)
  | none => return base.derive d.ops

def parenthesizedTypeName (rule : Rules) : Parse (TypeSpec Unit) := do
  expectPunct "("
  let type ← typeName rule
  expectPunct ")"
  return type

def constantTypeName (rule : Rules) : Parse (Option String × TypeSpec Unit) := do
  let base ← rule (.typeSpec true .declaration)
  let d ← rule (.declarator {})
  return (d.name, base.derive d.ops)

/-- Whether a type name with constant bounds stands here. -/
def looksLikeTypeName (rule : Rules) : Parse Bool := do
  return (← speculate (constantTypeName rule)).any (·.1.isNone)

def typeNameKeywords : List String :=
  ["_Atomic", "_Bool", "_Complex", "__int128_t", "__uint128_t", "__typeof__", "_Float16", "_Float32",
    "_Float32x", "_Float64", "_Float64x", "_Float128", "char", "double", "enum", "float", "int",
    "long", "short", "signed", "struct", "typeof", "typeof_unqual", "union", "unsigned", "void"]

def atParenthesizedTypeName : Parse Bool := do
  if !(← atPunct "(") then return false
  let behind := (← get).rest.tail.dropWhile fun token => isQualifier token || isIgnoredQualifier token
  match behind with
  | [] => return false
  | token :: _ =>
    match token.kind with
    | .keyword => return typeNameKeywords.contains token.lexeme
    | .identifier => return (← names).isTypedef token.lexeme
    | _ => return false

end CCompiler.Grammar
