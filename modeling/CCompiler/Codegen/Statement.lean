import CCompiler.Analysis.TypeSpec
import CCompiler.Codegen.Layout

/-!
# Code

Labels are numbered through the whole program. A string literal has one label, however often it stands
in the source. Names of locals are looked up in the scopes around them, the innermost first.

The code of an expression leaves its value in register 0 and leaves the stack as it was. The left operand
of a binary operator waits on the stack while the right one is computed, and arguments wait there until
all of them are known.
-/
namespace CCompiler.Codegen

open Machine (Label Line Instr Reg Width)

abbrev Code := List Line

structure Callee where
  returnType : CType
  params : List CType

structure GlobalObject where
  name : String
  type : CType
  init : Option (Expr NodeId)
  isExtern : Bool

/-- What is known of a program before its functions are generated. -/
structure Scene where
  typeOf : NodeId → Option CType
  globals : List GlobalObject := []
  functions : List (String × Callee) := []

/-- What changes during generation: the labels in use, the labels of strings in the order of their first
    use, the scopes of locals, and the slots of the locals that are still to be declared. -/
structure State where
  labels : Nat := 0
  strings : List (String × Label) := []
  scopes : List (List (String × Slot)) := []
  pending : List Slot := []

abbrev Gen (β : Type) := ReaderT Scene (StateT State (Except Failure)) β

namespace Gen

def newLabel (purpose : String) : Gen Label :=
  modifyGet fun s => (⟨purpose, s.labels + 1⟩, { s with labels := s.labels + 1 })

def stringLabel (lexeme : String) : Gen Label := do
  match (← get).strings.lookup lexeme with
  | some l => return l
  | none =>
    let l ← newLabel "str"
    modify fun s => { s with strings := s.strings ++ [(lexeme, l)] }
    return l

def typeOf (e : Expr NodeId) : Gen CType := do
  match (← read).typeOf e.note with
  | some t => return t
  | none => throw .untyped

def slot? (name : String) : Gen (Option Slot) := do
  return (← get).scopes.findSome? (·.lookup name)

def global? (name : String) : Gen (Option GlobalObject) := do
  return (← read).globals.find? (·.name == name)

/-- Declares a local: it takes the next slot. -/
def declare (name : String) : Gen Slot := do
  match (← get).pending with
  | [] => throw .unplaced
  | slot :: pending =>
    modify fun s => match s.scopes with
      | [] => { s with pending, scopes := [[(name, slot)]] }
      | scope :: rest => { s with pending, scopes := ((name, slot) :: scope) :: rest }
    return slot

def inScope {β : Type} (action : Gen β) : Gen β := do
  modify fun s => { s with scopes := [] :: s.scopes }
  let result ← action
  modify fun s => { s with scopes := s.scopes.drop 1 }
  return result

end Gen

/-! ## 1. Pieces of code -/

def width (t : CType) : Gen Width := widthOf t

def reg (index : Nat) (t : CType) : Gen Reg := do return ⟨index, ← width t⟩

def instrs (is : List Instr) : Code := is.map .instr

/-- Fills the long register 0 from its word, if it holds a word. -/
def extendCode (t : CType) : Gen Code := do
  match ← width t with
  | .long => return []
  | .word => return instrs [.extend]

def pushCode : Code := instrs [.growStack 16, .storeTop]

def spillCode (t : CType) : Gen Code := do return (← extendCode t) ++ pushCode

def popCode (index : Nat) : Code := instrs [.loadTop index, .shrinkStack 16]

def convertCode (source target : CType) : Gen Code := do
  if target == .void then return []
  ensureHeld .source source
  ensureHeld .target target
  match ← width source, ← width target with
  | .word, .long => return instrs [.extend]
  | .long, .word => return instrs [.truncate]
  | _, _ => return []

/-- The chunks of sixteen bits of a value, the lowest first, with their positions. -/
def chunks (w : Width) (value : Int) : List (Nat × Nat) :=
  let bits := (value % Nat.pow 2 w.bits).toNat
  (List.range (w.bits / 16)).map fun i => (bits / Nat.pow 2 (16 * i) % 65536, 16 * i)

/-- Puts a value into register 0: its lowest chunk first, then every chunk that is not zero. -/
def immediateCode (value : Int) (t : CType) : Gen Code := do
  let r ← reg 0 t
  match chunks r.width value with
  | [] => return []
  | (low, _) :: rest =>
    return instrs (.moveZero r low 0 :: (rest.filter (·.1 != 0)).map fun (chunk, shift) => .moveKeep r chunk shift)

def addressCode (index : Nat) (target : Machine.Target) : Code :=
  instrs [.page index target, .pageOffset index target]

def branchZeroCode (t : CType) (l : Label) : Gen Code := do
  return instrs [.branchZero (← reg 0 t) l]

def branchNonzeroCode (t : CType) (l : Label) : Gen Code := do
  return instrs [.branchNonzero (← reg 0 t) l]

def storeSlotCode (slot : Slot) (index : Nat) : Gen Code := do
  return instrs [.storeSlot (← reg index slot.type) slot.offset]

open Gen

def loadCode (name : String) : Gen (Code × CType) := do
  if let some slot ← slot? name then
    return (instrs [.loadSlot (← reg 0 slot.type) slot.offset], slot.type)
  if let some object ← global? name then
    return (addressCode 9 (.symbol name) ++ instrs [.loadAt (← reg 0 object.type) 9], object.type)
  if ((← read).functions.lookup name).isSome then refuse (.functionValue name)
  refuse (.identifier name)

def storeCode (name : String) (t : CType) : Gen Code := do
  if let some slot ← slot? name then return ← storeSlotCode slot 0
  if (← global? name).isNone then refuse (.assignedName name)
  return addressCode 9 (.symbol name) ++ instrs [.storeAt (← reg 0 t) 9]

/-! ## 2. Operators and calls -/

def operation : ArithOp → Machine.Operation
  | .add => .add
  | .sub => .sub
  | .mul => .mul
  | .div | .rem => .sdiv
  | .bitAnd => .and
  | .bitXor => .eor
  | .bitOr => .orr
  | .shl => .lsl
  | .shr => .asr

/-- Computes an operator on registers 1 and 0. A shift takes its count in the width of the right
    operand. -/
def operatorCode (op : ArithOp) (left right : CType) : Gen Code := do
  if !isMachineInteger left || !isMachineInteger right then refuse (.operandTypes op.text)
  let r0 ← reg 0 left
  let r1 ← reg 1 left
  match op with
  | .rem => return instrs [.operate .sdiv r0 r1 r0, .multiplySub r0 r0 r1 r1]
  | .shl | .shr => return instrs [.operate (operation op) r0 r1 (← reg 0 right)]
  | _ => return instrs [.operate (operation op) r0 r1 r0]

def condition : Relation → Machine.Condition
  | .lt => .lt
  | .le => .le
  | .gt => .gt
  | .ge => .ge
  | .eq => .eq
  | .ne => .ne

def isEquality : BinaryOp → Bool
  | .relation .eq | .relation .ne => true
  | _ => false

def isShift : BinaryOp → Bool
  | .arith .shl | .arith .shr => true
  | _ => false

/-- The type in which a binary operator computes: the type of its result, and for pointers, which can
    only be tested for equality, their own. -/
def operandType (e : Expr NodeId) (op : BinaryOp) (left right : Expr NodeId) : Gen CType := do
  let l ← typeOf left
  let r ← typeOf right
  if l.isPointer || r.isPointer then
    if !isEquality op then refuse (.pointerOperands op.text)
    return if l.isPointer then l else r
  let result ← typeOf e
  ensureHeld (.operation op.text) result
  return result

def maxArguments : Nat := 8

/-- Takes the arguments from the stack into registers. -/
def argumentLoads (params : List CType) : Gen Code := do
  let loads ← params.zipIdx.mapM fun (t, i) => do
    return Instr.loadStack (← reg i t) (16 * (params.length - i - 1))
  return instrs loads

def callee (name : String) (arguments : Nat) : Gen Callee := do
  match (← read).functions.lookup name with
  | none => refuse (.unknownFunction name)
  | some f =>
    if arguments > maxArguments then refuse (.argumentCount name)
    return f

/-! ## 3. Expressions -/

mutual

/-- The code of an expression and the type of the value that it leaves in register 0. -/
def exprCode : Expr NodeId → Gen (Code × CType)
  | e@(.int _ text) => do
    let t ← typeOf e
    return (← immediateCode (← integerValue text) t, t)
  | .char _ text => do return (← immediateCode (← characterValue text) .int, .int)
  | e@(.string _ text) => do
    let l ← stringLabel text
    return (addressCode 0 (.label l), ← typeOf e)
  | .float .. => refuse .floating
  | .ident _ name => loadCode name
  | e@(.unary _ op operand) => do
    let (code, t) ← exprCode operand
    let result ← typeOf e
    match op with
    | .plus => return (code ++ (← convertCode t result), result)
    | .minus =>
      let conversion ← convertCode t result
      return (code ++ conversion ++ instrs [.negate (← reg 0 result)], result)
    | .complement =>
      let conversion ← convertCode t result
      return (code ++ conversion ++ instrs [.complement (← reg 0 result)], result)
    | .logicalNot => return (code ++ instrs [.compareZero (← reg 0 t), .setIf .eq], .int)
    | _ => refuse (.unaryOperator op.text)
  | .binary _ .logicalAnd left right => do
    let ifFalse ← newLabel "and_false"
    let done ← newLabel "and_end"
    let leftCode ← zeroBranchCode left ifFalse
    let rightCode ← zeroBranchCode right ifFalse
    return (leftCode ++ rightCode ++ [.instr (.moveBit 1), .instr (.branch done), .label ifFalse,
      .instr (.moveBit 0), .label done], .int)
  | .binary _ .logicalOr left right => do
    let ifTrue ← newLabel "or_true"
    let done ← newLabel "or_end"
    let (leftCode, _) ← exprCode left
    let leftBranch ← branchNonzeroCode (← typeOf left) ifTrue
    let (rightCode, _) ← exprCode right
    let rightBranch ← branchNonzeroCode (← typeOf right) ifTrue
    return (leftCode ++ leftBranch ++ rightCode ++ rightBranch ++ [.instr (.moveBit 0),
      .instr (.branch done), .label ifTrue, .instr (.moveBit 1), .label done], .int)
  | e@(.binary _ op left right) => do
    let (leftCode, leftType) ← exprCode left
    let t ← operandType e op left right
    let leftCode := leftCode ++ (← convertCode leftType t) ++ (← spillCode t)
    let (rightCode, rightType) ← exprCode right
    let rightTarget ← if isShift op then typeOf right else pure t
    let rightCode := rightCode ++ (← convertCode rightType rightTarget) ++ popCode 1
    let result ← typeOf e
    match op with
    | .arith op => return (leftCode ++ rightCode ++ (← operatorCode op t rightTarget), result)
    | .relation relation =>
      return (leftCode ++ rightCode ++ instrs [.compare (← reg 1 t) (← reg 0 t), .setIf (condition relation)], .int)
    | _ => refuse (.binaryOperator op.text)
  | .assign _ op target@(.ident _ name) value => do
    if (← slot? name).isNone && (← global? name).isNone then refuse (.assignedName name)
    let t ← typeOf target
    match op with
    | .plain =>
      let (code, _) ← exprCode value
      let conversion ← convertCode (← typeOf value) t
      return (code ++ conversion ++ (← storeCode name t), t)
    | .compound arith =>
      if !isMachineInteger t then refuse (.assignedType op.text)
      let (loadTarget, _) ← loadCode name
      let spill ← spillCode t
      let (code, _) ← exprCode value
      let conversion ← convertCode (← typeOf value) t
      let compute ← operatorCode arith t t
      return (loadTarget ++ spill ++ code ++ conversion ++ popCode 1 ++ compute ++ (← storeCode name t), t)
    | .other text => refuse (.assignmentOperator text)
  | .assign .. => refuse .assignedExpression
  | e@(.update _ op (.ident _ name) isPostfix) => do
    let t ← typeOf e
    if !isMachineInteger t then refuse (.updatedType name)
    let (loadTarget, _) ← loadCode name
    let spill ← if isPostfix then spillCode t else pure []
    let r ← reg 0 t
    let step ← match op with
      | .increment => pure (Instr.addOne r)
      | .decrement => pure (Instr.subOne r)
      | .other text => refuse (.updateOperator text)
    let store ← storeCode name t
    return (loadTarget ++ spill ++ instrs [step] ++ store ++ (if isPostfix then popCode 0 else []), t)
  | .update .. => refuse .updatedExpression
  | .call _ (.ident _ name) args => do
    let f ← callee name args.length
    let pushes ← argumentCode args f.params
    let loads ← argumentLoads f.params
    let unwind := if args.isEmpty then [] else instrs [.shrinkStack (16 * args.length)]
    return (pushes ++ loads ++ instrs [.call name] ++ unwind, f.returnType)
  | .call .. => refuse .calledExpression
  | .comma _ left right => do
    let (leftCode, _) ← exprCode left
    let (rightCode, t) ← exprCode right
    return (leftCode ++ rightCode, t)
  | e@(.conditional _ condition thenExpr elseExpr) => do
    let result ← typeOf e
    let otherwise ← newLabel "cond_else"
    let done ← newLabel "cond_end"
    let test ← zeroBranchCode condition otherwise
    let (thenCode, _) ← exprCode thenExpr
    let thenConversion ← convertCode (← typeOf thenExpr) result
    let (elseCode, _) ← exprCode elseExpr
    let elseConversion ← convertCode (← typeOf elseExpr) result
    return (test ++ thenCode ++ thenConversion ++ [.instr (.branch done), .label otherwise] ++
      elseCode ++ elseConversion ++ [.label done], result)
  | e@(.cast _ _ operand) => do
    let target ← typeOf e
    let (code, _) ← exprCode operand
    if target == .void then return (code, .void)
    return (code ++ (← convertCode (← typeOf operand) target), target)
  | .sizeofType _ type => do return (← immediateCode (← typeSize .sizeof type) .int, .int)
  | .alignofType _ type => do return (← immediateCode (← typeSize .alignof type) .int, .int)
  | .sizeofExpr _ operand | .alignofExpr _ operand => do
    let w ← width (← typeOf operand)
    return (← immediateCode (w.bytes : Nat) .int, .int)
  | e@(.labelAddress ..) | e@(.subscript ..) | e@(.member ..) | e@(.offsetof ..)
  | e@(.compoundLiteral ..) | e@(.statements ..) | e@(.generic ..) | e@(.unknown ..) =>
    refuse (.expression e.kindName)

def zeroBranchCode (e : Expr NodeId) (l : Label) : Gen Code := do
  let (code, t) ← exprCode e
  return code ++ (← branchZeroCode t l)

/-- Puts arguments on the stack, each converted to its parameter's type. Arguments without a parameter
    are left out. -/
def argumentCode : List (Expr NodeId) → List CType → Gen Code
  | e :: es, t :: ts => do
    let (code, _) ← exprCode e
    let conversion ← convertCode (← typeOf e) t
    let spill ← spillCode t
    return code ++ conversion ++ spill ++ (← argumentCode es ts)
  | _, _ => return []

end

open Machine (Label Line Instr)

/-! ## 4. Code of statements

The code of a statement leaves the stack as it was. A function has one exit, to which its `return`
statements branch.
-/

structure Loop where
  next : Label
  done : Label

/-- What the statements of a function share. -/
structure Body where
  exit : Label
  returnType : CType
  loop : Option Loop := none

mutual

def stmtCode (body : Body) : Stmt NodeId → Gen Code
  | .group declarations => stmtsCode body declarations
  | .declaration _ none _ _ _ _ => return []
  | .declaration _ (some name) init _ _ _ => do
    let slot ← declare name
    match init with
    | none => return []
    | some (.list _) => refuse (.aggregate name)
    | some (.expr value) =>
      let (code, _) ← exprCode value
      let conversion ← convertCode (← typeOf value) slot.type
      return code ++ conversion ++ (← storeSlotCode slot 0)
  | .typedef .. | .staticAssert .. | .null => return []
  | .expr value => do return (← exprCode value).1
  | .return_ none => return instrs [.branch body.exit]
  | .return_ (some value) => do
    let (code, _) ← exprCode value
    let conversion ← convertCode (← typeOf value) body.returnType
    return code ++ conversion ++ instrs [.branch body.exit]
  | .compound items => inScope (stmtsCode body items)
  | .ifElse condition thenBody elseBody => do
    let otherwise ← newLabel "else"
    let done ← newLabel "endif"
    let test ← zeroBranchCode condition otherwise
    let thenCode ← stmtCode body thenBody
    match elseBody with
    | none => return test ++ thenCode ++ [.label otherwise]
    | some elseBody =>
      let elseCode ← stmtCode body elseBody
      return test ++ thenCode ++ [.instr (.branch done), .label otherwise] ++ elseCode ++ [.label done]
  | .while_ condition loopBody => do
    let again ← newLabel "while_cond"
    let done ← newLabel "while_end"
    let test ← zeroBranchCode condition done
    let code ← stmtCode { body with loop := some ⟨again, done⟩ } loopBody
    return [.label again] ++ test ++ code ++ [.instr (.branch again), .label done]
  | .doWhile loopBody condition => do
    let again ← newLabel "do_body"
    let next ← newLabel "do_cond"
    let done ← newLabel "do_end"
    let code ← stmtCode { body with loop := some ⟨next, done⟩ } loopBody
    let (test, _) ← exprCode condition
    let branch ← branchNonzeroCode (← typeOf condition) again
    return [.label again] ++ code ++ [.label next] ++ test ++ branch ++ [.label done]
  | .for_ init condition post loopBody => inScope do
    let again ← newLabel "for_cond"
    let next ← newLabel "for_post"
    let done ← newLabel "for_end"
    let inner := { body with loop := some ⟨next, done⟩ }
    let initCode ← match init with
      | none => pure []
      | some init => stmtCode inner init
    let test ← match condition with
      | none => pure []
      | some condition => zeroBranchCode condition done
    let code ← stmtCode inner loopBody
    let postCode ← match post with
      | none => pure []
      | some post => do pure (← exprCode post).1
    return initCode ++ [.label again] ++ test ++ code ++ [.label next] ++ postCode ++
      [.instr (.branch again), .label done]
  | .break_ =>
    match body.loop with
    | none => refuse .breakOutside
    | some loop => return instrs [.branch loop.done]
  | .continue_ =>
    match body.loop with
    | none => refuse .continueOutside
    | some loop => return instrs [.branch loop.next]
  | s@(.switch ..) | s@(.case_ ..) | s@(.default_ _) | s@(.label ..) | s@(.goto _)
  | s@(.indirectGoto _) | s@(.unknown _) => refuse (.statement s.kindName)

def stmtsCode (body : Body) : List (Stmt NodeId) → Gen Code
  | [] => return []
  | s :: rest => do
    let code ← stmtCode body s
    return code ++ (← stmtsCode body rest)

end

end CCompiler.Codegen
