import CCompiler.Codegen.Statement
import Mathlib

/-!
# Programs over `int`

The part of C in which every object and every value is an `int`, as a test on trees. Declarations stand
among the items of blocks and in the first clause of a `for`, and every name is the name of a parameter or
of a local that is declared before.
-/
namespace CCompiler.Codegen

variable (typeOf : NodeId → Option CType)

/-- Whether a type is `int`, qualified or not. -/
def isInt (t : CType) : Bool := t.name == "int" && t.ops.isEmpty

/-- Whether analysis gave a node the type `int`. -/
def isIntNote (a : NodeId) : Bool := (typeOf a).any isInt

/-- The unary operators on `int`. -/
def isIntUnary : UnaryOp → Bool
  | .plus | .minus | .complement | .logicalNot => true
  | _ => false

/-- The operators with two operands that are covered, the remainder apart. -/
def isIntArith : ArithOp → Bool
  | .rem => false
  | _ => true

/-- The binary operators on `int`. -/
def isIntBinary : BinaryOp → Bool
  | .arith op => isIntArith op
  | .relation _ | .logicalAnd | .logicalOr => true
  | .other _ => false

/-- The assignments of an `int`. -/
def isIntAssign : AssignOp → Bool
  | .plain => true
  | .compound op => isIntArith op
  | .other _ => false

/-- The updates of an `int`. -/
def isIntUpdate : UpdateOp → Bool
  | .increment | .decrement => true
  | .other _ => false

/-- Whether an expression is one over `int`, the names of locals given. -/
def isIntExpr (locals : List String) : Expr NodeId → Bool
  | .int a _ => isIntNote typeOf a
  | .ident a name => isIntNote typeOf a && locals.contains name
  | .unary a op operand => isIntNote typeOf a && isIntUnary op && isIntExpr locals operand
  | .binary a op left right =>
    isIntNote typeOf a && isIntBinary op && isIntExpr locals left && isIntExpr locals right
  | .assign a op (.ident b name) value =>
    isIntNote typeOf a && isIntNote typeOf b && isIntAssign op && locals.contains name && isIntExpr locals value
  | .update a op (.ident b name) _ =>
    isIntNote typeOf a && isIntNote typeOf b && isIntUpdate op && locals.contains name
  | .comma a left right => isIntNote typeOf a && isIntExpr locals left && isIntExpr locals right
  | .conditional a condition thenExpr elseExpr =>
    isIntNote typeOf a && isIntExpr locals condition && isIntExpr locals thenExpr && isIntExpr locals elseExpr
  | _ => false

/-- Whether a specifier names `int`, qualified or not. -/
def isIntSpec (type : TypeSpec NodeId) : Bool := type.name == "int" && type.ops.isEmpty

/-- Whether a declaration declares one object of type `int`. -/
def isIntObject (locals : List String) : Stmt NodeId → Bool
  | .declaration type (some _) none _ _ _ => isIntSpec type
  | .declaration type (some name) (some (.expr value)) _ _ _ =>
    isIntSpec type && isIntExpr typeOf (name :: locals) value
  | _ => false

/-- The name that a declaration declares. -/
def objectNames : Stmt NodeId → List String
  | .declaration _ (some name) _ _ _ _ => [name]
  | _ => []

/-- Whether declarations declare objects of type `int`, each in the scope of those before. -/
def isIntObjects (locals : List String) : List (Stmt NodeId) → Bool
  | [] => true
  | s :: rest => isIntObject typeOf locals s && isIntObjects (objectNames s ++ locals) rest

/-- Whether a statement declares objects of type `int`. -/
def isIntDeclaration (locals : List String) : Stmt NodeId → Bool
  | .group declarations => isIntObjects typeOf locals declarations
  | s => isIntObject typeOf locals s

/-- The names that a statement declares, the last first. -/
def declaredNames : Stmt NodeId → List String
  | .group declarations => (declarations.flatMap objectNames).reverse
  | s => objectNames s

mutual

/-- Whether a statement that is no declaration is one over `int`. -/
def isIntStmt (locals : List String) : Stmt NodeId → Bool
  | .compound items => isIntItems locals items
  | .ifElse condition thenBody none =>
    isIntExpr typeOf locals condition && isIntStmt locals thenBody
  | .ifElse condition thenBody (some elseBody) =>
    isIntExpr typeOf locals condition && isIntStmt locals thenBody && isIntStmt locals elseBody
  | .while_ condition body => isIntExpr typeOf locals condition && isIntStmt locals body
  | .doWhile body condition => isIntExpr typeOf locals condition && isIntStmt locals body
  | .for_ init condition post body =>
    let inner := (init.map declaredNames).getD [] ++ locals
    (match init with
      | none => true
      | some (.expr value) => isIntExpr typeOf locals value
      | some s => isIntDeclaration typeOf locals s) &&
    condition.all (isIntExpr typeOf inner) && post.all (isIntExpr typeOf inner) && isIntStmt inner body
  | .expr value => isIntExpr typeOf locals value
  | .return_ (some value) => isIntExpr typeOf locals value
  | .null | .break_ | .continue_ | .return_ none => true
  | _ => false

/-- Whether the items of a block are declarations and statements over `int`. -/
def isIntItems (locals : List String) : List (Stmt NodeId) → Bool
  | [] => true
  | s :: rest =>
    (isIntStmt locals s || isIntDeclaration typeOf locals s) && isIntItems (declaredNames s ++ locals) rest

end

/-- Whether a function is one over `int`. -/
def isIntFunction (f : FunctionDef NodeId) (body : List (Stmt NodeId)) : Bool :=
  isIntSpec f.returnType && f.params.all (fun p => isIntSpec p.type) &&
    isIntItems typeOf (f.params.filterMap (·.name)) body

end CCompiler.Codegen
