import CCompiler.Literal.Typed
import CCompiler.Machine.Instr
import CCompiler.Syntax.Basic

/-!
# Storage

The generator covers part of C: objects of type `int`, `long` and pointer, functions of up to eight
parameters, and statements without jumps of the programmer. What it does not cover is a cause.

Which types the generator can hold, in how many bytes, and where an object of a function lies.

Literals, the initializers of objects with static storage, and the texts of strings in assembly.
-/
namespace CCompiler.Codegen

/-- Where a type stands that the generator cannot hold. -/
inductive Role where
  | object (name : String)
  | param (name : String)
  | local (name : String)
  | paramType (label : String)
  | result (function : String)
  | sizeof
  | alignof
  | storage
  | source
  | target
  | operation (op : String)
deriving Repr, DecidableEq

def Role.text : Role → String
  | .object name => s!"global '{name}'"
  | .param name => s!"parameter '{name}'"
  | .local name => s!"local '{name}'"
  | .paramType label => label
  | .result function => s!"return type of {function}"
  | .sizeof => "sizeof"
  | .alignof => "alignof"
  | .storage => "storage"
  | .source => "source expression"
  | .target => "target expression"
  | .operation op => s!"binary '{op}'"

inductive Cause where
  | platform
  | assembler
  | declaration (kind : String)
  | globalStorage (name : String)
  | localStorage (name : String)
  | aggregate (name : String)
  | functionStorage (name : String)
  | functionAttributes (name : String)
  | variadicFunction (name : String)
  | parameterCount (name : String)
  | statement (kind : String)
  | breakOutside
  | continueOutside
  | type (role : Role) (text : String)
  | floating
  | expression (kind : String)
  | unaryOperator (op : String)
  | binaryOperator (op : String)
  | operandTypes (op : String)
  | pointerOperands (op : String)
  | assignedExpression
  | assignedName (name : String)
  | assignmentOperator (op : String)
  | assignedType (op : String)
  | updatedExpression
  | updatedType (name : String)
  | updateOperator (op : String)
  | calledExpression
  | unknownFunction (name : String)
  | argumentCount (name : String)
  | functionValue (name : String)
  | identifier (name : String)
  | character (lexeme : String)
  | initializer (kind : String)
deriving Repr, DecidableEq

def Cause.message : Cause → String
  | .platform => "Native backend is only available on macOS arm64"
  | .assembler => "GNU asm is not supported by the native backend"
  | .declaration kind => s!"Unsupported native codegen declaration: {kind}"
  | .globalStorage name => s!"Unsupported native codegen storage for global '{name}'"
  | .localStorage name => s!"Unsupported native codegen storage for local '{name}'"
  | .aggregate name => s!"Aggregate initializer is not supported by the native backend: {name}"
  | .functionStorage name => s!"Unsupported native codegen function storage: {name}"
  | .functionAttributes name => s!"Unsupported native codegen function attributes: {name}"
  | .variadicFunction name => s!"Variadic functions are not supported by the native backend: {name}"
  | .parameterCount name => s!"Native backend supports at most 8 parameters: {name}"
  | .statement kind => s!"Unsupported native codegen statement: {kind}"
  | .breakOutside => "break is not supported here"
  | .continueOutside => "continue is not supported here"
  | .type role text => s!"Unsupported native codegen type in {role.text}: {text}"
  | .floating => "Floating-point expressions are not supported by the native backend"
  | .expression kind => s!"Unsupported native codegen expression: {kind}"
  | .unaryOperator op => s!"Unsupported native codegen unary operator: {op}"
  | .binaryOperator op => s!"Unsupported native codegen binary operator: {op}"
  | .operandTypes op => s!"Unsupported native codegen operand types for '{op}'"
  | .pointerOperands op => s!"Pointer operands are not supported for '{op}' in the native backend"
  | .assignedExpression => "Native backend only supports assignments to identifiers"
  | .assignedName name => s!"Unsupported native assignment target: {name}"
  | .assignmentOperator op => s!"Unsupported native codegen assignment operator: {op}"
  | .assignedType op => s!"Unsupported native codegen assignment target type for '{op}'"
  | .updatedExpression => "Native backend only supports updates on identifiers"
  | .updatedType name => s!"Unsupported native codegen update operand type: {name}"
  | .updateOperator op => s!"Unsupported native codegen update operator: {op}"
  | .calledExpression => "Native backend only supports direct function calls"
  | .unknownFunction name => s!"Unknown function for native backend call: {name}"
  | .argumentCount name => s!"Native backend supports at most 8 call arguments: {name}"
  | .functionValue name =>
    s!"Function designators are not supported as values by the native backend: {name}"
  | .identifier name => s!"Unsupported native identifier reference: {name}"
  | .character lexeme => s!"Unsupported native character literal: {lexeme}"
  | .initializer kind => s!"Unsupported global initializer for native backend: {kind}"

def Cause.code : Cause → String
  | .platform => "XCC-CG-0003"
  | _ => "XCC-CG-0001"

/-- Why generation ends: a cause, an initializer whose folding has no value, or a tree that was not
    analysed. -/
inductive Failure where
  | refused (cause : Cause)
  | divisionByZero
  | negativeShift
  | number (fault : NumberFault)
  | untyped
  | unplaced
  | namelessParameter
deriving Repr, DecidableEq

def Failure.message : Failure → String
  | .refused cause => cause.message
  | .divisionByZero => "integer division or modulo by zero"
  | .negativeShift => "negative shift count"
  | .number fault => fault.message
  | .untyped | .unplaced | .namelessParameter => ""

def refuse {m : Type → Type} [MonadExceptOf Failure m] {β : Type} (cause : Cause) : m β :=
  throwThe Failure (.refused cause)

open Machine (Width)

variable {α : Type}

/-! ## 1. Types and slots -/

def isMachineInteger (t : CType) : Bool :=
  t.ops.isEmpty && (t.name == "int" || t.name == "long")

/-- Whether the machine can hold values of a type. There is nothing to hold of type `void`. -/
def isHeld (t : CType) : Bool := t == .void || t.isPointer || isMachineInteger t

def ensureHeld (role : Role) (t : CType) : Except Failure Unit :=
  if isHeld t then .ok () else refuse (.type role t.text)

def widthOf (t : CType) : Except Failure Width := do
  ensureHeld .storage t
  return if t.isPointer || t.name == "long" then .long else .word

/-- The type of an object that a specifier declares. Only `int`, `long`, `void` and pointers can be
    declared. -/
def objectType (role : Role) (t : TypeSpec α) : Except Failure CType :=
  if t.ops.any (fun op => !op.isPointer) then refuse (.type role "declarator")
  else if !t.ops.isEmpty then .ok ⟨t.name, t.ops.map fun _ => .pointer, t.qualifiers, false⟩
  else if t.name == "int" || t.name == "long" then .ok ⟨t.name, [], t.qualifiers, false⟩
  else if t.name == "void" then .ok .void
  else refuse (.type role t.name)

def resultType (f : FunctionDef α) : Except Failure CType :=
  if f.returnType.name == "void" && f.returnType.ops.isEmpty then .ok .void
  else objectType (.result f.name) f.returnType

/-- A cell of eight bytes that ends so many bytes below the frame pointer, and the type of its object. -/
structure Slot where
  offset : Nat
  type : CType

def Slot.size : Nat := 8

/-! ## 2. Initializers -/

def integerValue (lexeme : String) : Except Failure Int := (Literal.value lexeme).mapError .number

def escapeValue? : Char → Option Int
  | 'n' => some 10
  | 't' => some 9
  | 'r' => some 13
  | '\\' => some 92
  | '\'' => some 39
  | '"' => some 34
  | '0' => some 0
  | _ => none

/-- The value of a character literal: of one character, or of a backslash and one character. -/
def characterValue (lexeme : String) : Except Failure Int :=
  let value := match lexeme.toList with
    | ['\'', c, '\''] => some (c.toNat : Int)
    | ['\'', '\\', c, '\''] => escapeValue? c
    | _ => none
  match value with
  | some n => .ok n
  | none => refuse (.character lexeme)

/-- The size of objects of a type, which is also their alignment. -/
def typeSize (role : Role) (type : TypeSpec α) : Except Failure Int := do
  return ((← widthOf (← objectType role type)).bytes : Nat)

def truth (b : Bool) : Int := if b then 1 else 0

def relationValue (left right : Int) : Relation → Int
  | .lt => truth (left < right)
  | .le => truth (left ≤ right)
  | .gt => truth (left > right)
  | .ge => truth (left ≥ right)
  | .eq => truth (left == right)
  | .ne => truth (left != right)

/-- The value of a binary operator on unbounded integers. Division rounds down. -/
def operationValue? (left right : Int) : BinaryOp → Option Int
  | .arith .add => some (left + right)
  | .arith .sub => some (left - right)
  | .arith .mul => some (left * right)
  | .arith .div => some (left.fdiv right)
  | .arith .rem => some (left.fmod right)
  | .arith .bitAnd => some (Bits.and left right)
  | .arith .bitXor => some (Bits.xor left right)
  | .arith .bitOr => some (Bits.or left right)
  | .arith .shl => some (Bits.shiftLeft left right.toNat)
  | .arith .shr => some (Bits.shiftRight left right.toNat)
  | .relation op => some (relationValue left right op)
  | .logicalAnd => some (truth (left != 0 && right != 0))
  | .logicalOr => some (truth (left != 0 || right != 0))
  | .other _ => none

def unaryValue? (n : Int) : UnaryOp → Option Int
  | .plus => some n
  | .minus => some (-n)
  | .complement => some (Bits.not n)
  | .logicalNot => some (truth (n == 0))
  | _ => none

/-- The value of an initializer. A binary operator needs operands that can be divided and shifted,
    whichever operator it is. -/
def initializerValue (typeOf : α → Option CType) : Expr α → Except Failure Int
  | .int _ text => integerValue text
  | .char _ text => characterValue text
  | e@(.unary _ op operand) => do
    let n ← initializerValue typeOf operand
    match unaryValue? n op with
    | some value => return value
    | none => refuse (.initializer e.kindName)
  | e@(.binary _ op left right) => do
    let l ← initializerValue typeOf left
    let r ← initializerValue typeOf right
    if r = 0 then throw .divisionByZero
    if r < 0 then throw .negativeShift
    (Number.room l r.toNat).mapError .number
    match operationValue? l r op with
    | some value => return value
    | none => refuse (.initializer e.kindName)
  | .cast _ _ operand => initializerValue typeOf operand
  | .sizeofType _ type => typeSize .sizeof type
  | .alignofType _ type => typeSize .alignof type
  | .sizeofExpr _ operand | .alignofExpr _ operand =>
    match typeOf operand.note with
    | none => .error .untyped
    | some type => do return ((← widthOf type).bytes : Nat)
  | e => refuse (.initializer e.kindName)

/-- What stands between the quotes of a string literal without a wide prefix; any other literal is
    taken whole. -/
def stringBody (lexeme : List Char) : List Char :=
  let inner (cs : List Char) : List Char :=
    if lexeme.getLast? = some '"' then cs.dropLast else lexeme
  match lexeme with
  | 'u' :: '8' :: '"' :: cs => inner cs
  | '"' :: cs => inner cs
  | _ => lexeme

def assemblyChar : Char → List Char
  | '\\' => ['\\', '\\']
  | '"' => ['\\', '"']
  | '\n' => ['\\', 'n']
  | '\t' => ['\\', 't']
  | c => [c]

def assemblyString (lexeme : String) : String :=
  "\"" ++ String.ofList ((stringBody lexeme.toList).flatMap assemblyChar) ++ "\""

/-! ## 3. Frames

Every parameter and every named local of a function has a slot of its own, in the order of their
declarations. The frame has room for all of them and keeps the stack pointer on a boundary of sixteen
bytes.
-/

/-- Where the objects of a function lie. The slots of locals stand in the order of their
    declarations. -/
structure Layout where
  params : List (String × Slot)
  locals : List Slot
  frameSize : Nat

namespace Layout

def localType (name : String) (type : TypeSpec α) (storage : Option StorageClass)
    (isThreadLocal : Bool) : Except Failure CType :=
  if storage.isSome || isThreadLocal then refuse (.localStorage name)
  else objectType (.local name) type

mutual

/-- The types of the locals of a statement, in order. Statements that the generator does not cover are
    refused here. -/
def statementLocals : Stmt α → Except Failure (List CType)
  | .group declarations => itemLocals declarations
  | .declaration _ none _ _ _ _ => .ok []
  | .declaration type (some name) _ _ storage isThreadLocal => do
    return [← localType name type storage isThreadLocal]
  | .compound items => itemLocals items
  | .ifElse _ thenBody none => statementLocals thenBody
  | .ifElse _ thenBody (some elseBody) => do
    return (← statementLocals thenBody) ++ (← statementLocals elseBody)
  | .while_ _ body => statementLocals body
  | .doWhile body _ => statementLocals body
  | .for_ none _ _ body => statementLocals body
  | .for_ (some init) _ _ body => do
    return (← statementLocals init) ++ (← statementLocals body)
  | .expr _ | .return_ _ | .null | .staticAssert .. | .typedef .. | .break_ | .continue_ => .ok []
  | s@(.switch ..) | s@(.case_ ..) | s@(.default_ _) | s@(.label ..) | s@(.goto _)
  | s@(.indirectGoto _) | s@(.unknown _) => refuse (.statement s.kindName)

def itemLocals : List (Stmt α) → Except Failure (List CType)
  | [] => .ok []
  | s :: rest => do return (← statementLocals s) ++ (← itemLocals rest)

end

def slotsFrom (count : Nat) : List CType → List Slot
  | [] => []
  | t :: ts => ⟨Slot.size * (count + 1), t⟩ :: slotsFrom (count + 1) ts

def param (p : Param α) : Except Failure (String × CType) :=
  match p.name with
  | none => .error .namelessParameter
  | some name => do return (name, ← objectType (.param name) p.type)

def frameFor (slots : Nat) : Nat := (Slot.size * slots + 15) / 16 * 16

def maxParams : Nat := 8

def ofFunction (f : FunctionDef α) (body : List (Stmt α)) : Except Failure Layout := do
  if f.params.length > maxParams then refuse (.parameterCount f.name)
  let params ← f.params.mapM param
  let locals ← itemLocals body
  return {
    params := (params.map (·.1)).zip (slotsFrom 0 (params.map (·.2)))
    locals := slotsFrom params.length locals
    frameSize := frameFor (params.length + locals.length) }

end Layout

end CCompiler.Codegen
