/-!
# Syntax trees

The operators of C expressions. An operator that C does not have can still stand in a tree built by
hand; it keeps its spelling so that the analysis can name it.

Expressions, type specifiers, declarations and statements of C11 and its GNU dialect. Every expression
and every type specifier carries a note of a type `α` of the user's choice: nothing at all after
parsing, a number that tells nodes apart during analysis, the type of the expression after it.

How the parser puts type specifiers together: adding derivations and qualifiers, marking a type as
atomic, and the comparisons it makes on its own. A specifier that is put together anew forgets an empty
record body and its place in the source.
-/
namespace CCompiler

inductive UnaryOp where
  | plus
  | minus
  | logicalNot
  | complement
  | address
  | indirection
  | other (text : String)
deriving Repr, DecidableEq, Inhabited

/-- The operators of `++` and `--`, before or after their operand. -/
inductive UpdateOp where
  | increment
  | decrement
  | other (text : String)
deriving Repr, DecidableEq, Inhabited

/-- Binary operators that compute with two values and have a compound assignment. -/
inductive ArithOp where
  | mul
  | div
  | rem
  | add
  | sub
  | shl
  | shr
  | bitAnd
  | bitXor
  | bitOr
deriving Repr, DecidableEq, Inhabited

inductive Relation where
  | lt
  | le
  | gt
  | ge
  | eq
  | ne
deriving Repr, DecidableEq, Inhabited

inductive BinaryOp where
  | arith (op : ArithOp)
  | relation (op : Relation)
  | logicalAnd
  | logicalOr
  | other (text : String)
deriving Repr, DecidableEq, Inhabited

inductive AssignOp where
  | plain
  | compound (op : ArithOp)
  | other (text : String)
deriving Repr, DecidableEq, Inhabited

/-! ## 1. Operators -/

def UnaryOp.text : UnaryOp → String
  | .plus => "+"
  | .minus => "-"
  | .logicalNot => "!"
  | .complement => "~"
  | .address => "&"
  | .indirection => "*"
  | .other text => text

def UpdateOp.text : UpdateOp → String
  | .increment => "++"
  | .decrement => "--"
  | .other text => text

def ArithOp.text : ArithOp → String
  | .mul => "*"
  | .div => "/"
  | .rem => "%"
  | .add => "+"
  | .sub => "-"
  | .shl => "<<"
  | .shr => ">>"
  | .bitAnd => "&"
  | .bitXor => "^"
  | .bitOr => "|"

def Relation.text : Relation → String
  | .lt => "<"
  | .le => "<="
  | .gt => ">"
  | .ge => ">="
  | .eq => "=="
  | .ne => "!="

def BinaryOp.text : BinaryOp → String
  | .arith op => op.text
  | .relation op => op.text
  | .logicalAnd => "&&"
  | .logicalOr => "||"
  | .other text => text

def AssignOp.text : AssignOp → String
  | .plain => "="
  | .compound op => op.text ++ "="
  | .other text => text

def ArithOp.all : List ArithOp :=
  [.mul, .div, .rem, .add, .sub, .shl, .shr, .bitAnd, .bitXor, .bitOr]

def Relation.all : List Relation := [.lt, .le, .gt, .ge, .eq, .ne]

def UnaryOp.all : List UnaryOp :=
  [.plus, .minus, .logicalNot, .complement, .address, .indirection]

def BinaryOp.all : List BinaryOp :=
  ArithOp.all.map .arith ++ Relation.all.map .relation ++ [.logicalAnd, .logicalOr]

def AssignOp.all : List AssignOp := .plain :: ArithOp.all.map .compound

def UnaryOp.ofText (text : String) : UnaryOp :=
  (UnaryOp.all.find? (·.text == text)).getD (.other text)

def UpdateOp.ofText (text : String) : UpdateOp :=
  if text = "++" then .increment else if text = "--" then .decrement else .other text

def BinaryOp.ofText (text : String) : BinaryOp :=
  (BinaryOp.all.find? (·.text == text)).getD (.other text)

def AssignOp.ofText (text : String) : AssignOp :=
  (AssignOp.all.find? (·.text == text)).getD (.other text)

inductive Standard where
  | c11
  | gnu11
deriving Repr, DecidableEq, Inhabited

def Standard.name : Standard → String
  | .c11 => "c11"
  | .gnu11 => "gnu11"

def Standard.ofName? (name : String) : Option Standard :=
  [Standard.c11, .gnu11].find? (·.name == name)

inductive StorageClass where
  | auto
  | register
  | static
  | extern_
  | typedef
deriving Repr, DecidableEq, Inhabited

def StorageClass.keyword : StorageClass → String
  | .auto => "auto"
  | .register => "register"
  | .static => "static"
  | .extern_ => "extern"
  | .typedef => "typedef"

def StorageClass.ofKeyword? (text : String) : Option StorageClass :=
  [StorageClass.auto, .register, .static, .extern_, .typedef].find? (·.keyword == text)

inductive RecordKind where
  | struct
  | union
deriving Repr, DecidableEq, Inhabited

def RecordKind.keyword : RecordKind → String
  | .struct => "struct"
  | .union => "union"

/-! ## 2. The trees -/

mutual

inductive Expr (α : Type) where
  | int (note : α) (text : String)
  | float (note : α) (text : String)
  | char (note : α) (text : String)
  | string (note : α) (text : String)
  | ident (note : α) (name : String)
  | labelAddress (note : α) (label : String)
  | unary (note : α) (op : UnaryOp) (operand : Expr α)
  | update (note : α) (op : UpdateOp) (operand : Expr α) (isPostfix : Bool)
  | binary (note : α) (op : BinaryOp) (left right : Expr α)
  | assign (note : α) (op : AssignOp) (target value : Expr α)
  | conditional (note : α) (condition thenExpr elseExpr : Expr α)
  | comma (note : α) (left right : Expr α)
  | call (note : α) (callee : Expr α) (args : List (Expr α))
  | subscript (note : α) (base index : Expr α)
  | member (note : α) (base : Expr α) (name : String) (throughPointer : Bool)
  | sizeofExpr (note : α) (operand : Expr α)
  | sizeofType (note : α) (type : TypeSpec α)
  | alignofExpr (note : α) (operand : Expr α)
  | alignofType (note : α) (type : TypeSpec α)
  | offsetof (note : α) (type : TypeSpec α) (member : String)
  | cast (note : α) (type : TypeSpec α) (operand : Expr α)
  | compoundLiteral (note : α) (type : TypeSpec α) (items : List (InitItem α))
  | statements (note : α) (body : List (Stmt α))
  | generic (note : α) (control : Expr α) (associations : List (Association α))
      (locations : List (Option Int × Option Int))
  | unknown (note : α) (name : String)

/-- A branch of a generic selection. -/
inductive Association (α : Type) where
  | typed (type : TypeSpec α) (value : Expr α)
  | default (value : Expr α)

/-- A type specifier with the derivations of its declarator, outermost first. -/
structure TypeSpec (α : Type) where
  note : α
  base : TypeBase α
  ops : List (DeclOp α)
  qualifiers : List String
  isAtomic : Bool
  atomicTarget : Option (TypeSpec α)
  line : Option Int
  column : Option Int

/-- What a type specifier names before any derivation. -/
inductive TypeBase (α : Type) where
  | named (name : String)
  | enum (tag : Option String) (members : List (Enumerator α))
  | record (kind : RecordKind) (tag : Option String) (members : List (MemberDecl α)) (hasBody : Bool)
  | typeof (operand : Expr α)

structure Enumerator (α : Type) where
  name : String
  value : Option (Expr α)

structure MemberDecl (α : Type) where
  type : TypeSpec α
  name : Option String
  alignment : Option Int
  bitWidth : Option (Expr α)

/-- One derivation of a declarator. A function without a prototype says nothing about its
    parameters. -/
inductive DeclOp (α : Type) where
  | pointer
  | array (bound : ArrayBound α)
  | unprototyped (isVariadic : Bool)
  | function (params : List (TypeSpec α)) (isVariadic : Bool)

/-- The bound of an array: a length, or what stands between the brackets, with the qualifiers and the
    `static` that a parameter may have there. -/
inductive ArrayBound (α : Type) where
  | length (n : Int)
  | unsized (qualifiers : List String) (isStatic : Bool)
  | constant (n : Int) (qualifiers : List String) (isStatic : Bool)
  | sized (size : Expr α) (qualifiers : List String) (isStatic : Bool)

inductive Initializer (α : Type) where
  | expr (value : Expr α)
  | list (items : List (InitItem α))

structure InitItem (α : Type) where
  designators : List (Designator α)
  value : Initializer α

inductive Designator (α : Type) where
  | member (name : String)
  | index (value : Expr α)
  | range (low high : Expr α)

/-- Statements and block-scope declarations. The first clause of a `for` is a declaration or an
    expression statement. A declaration without a name declares a tag alone. -/
inductive Stmt (α : Type) where
  | compound (items : List (Stmt α))
  | ifElse (condition : Expr α) (thenBody : Stmt α) (elseBody : Option (Stmt α))
  | while_ (condition : Expr α) (body : Stmt α)
  | doWhile (body : Stmt α) (condition : Expr α)
  | for_ (init : Option (Stmt α)) (condition post : Option (Expr α)) (body : Stmt α)
  | switch (condition : Expr α) (body : Stmt α)
  | case_ (value : Expr α) (body : Stmt α)
  | default_ (body : Stmt α)
  | label (name : String) (body : Stmt α)
  | goto (label : String)
  | indirectGoto (target : Expr α)
  | break_
  | continue_
  | return_ (value : Option (Expr α))
  | expr (value : Expr α)
  | null
  | declaration (type : TypeSpec α) (name : Option String) (init : Option (Initializer α))
      (alignment : Option Int) (storage : Option StorageClass) (isThreadLocal : Bool)
  | typedef (type : TypeSpec α) (name : String)
  | group (declarations : List (Stmt α))
  | staticAssert (condition : Expr α) (message : String)
  | unknown (name : String)

end

/-- A declaration of one object or function, or of a tag alone when there is no name. -/
structure Declaration (α : Type) where
  type : TypeSpec α
  name : Option String
  init : Option (Initializer α)
  alignment : Option Int
  storage : Option StorageClass
  isThreadLocal : Bool

structure Param (α : Type) where
  type : TypeSpec α
  name : Option String

/-- A function declaration, with a body if it is a definition. -/
structure FunctionDef (α : Type) where
  returnType : TypeSpec α
  name : String
  params : List (Param α)
  body : Option (List (Stmt α))
  storage : Option StorageClass := none
  isThreadLocal : Bool := false
  isInline : Bool := false
  isNoreturn : Bool := false
  hasPrototype : Bool := true
  isVariadic : Bool := false
  isOverloadable : Bool := false

inductive External (α : Type) where
  | function (definition : FunctionDef α)
  | declaration (decl : Stmt α)

structure SourceUnit (α : Type) where
  externals : List (External α)

/-! ## 3. Observers -/

variable {α : Type}

instance [Inhabited α] : Inhabited (Expr α) := ⟨.unknown default ""⟩

def Expr.note : Expr α → α
  | .int a _ | .float a _ | .char a _ | .string a _ | .ident a _ | .labelAddress a _ => a
  | .unary a _ _ | .update a _ _ _ | .binary a _ _ _ | .assign a _ _ _ => a
  | .conditional a _ _ _ | .comma a _ _ | .call a _ _ | .subscript a _ _ | .member a _ _ _ => a
  | .sizeofExpr a _ | .sizeofType a _ | .alignofExpr a _ | .alignofType a _ | .offsetof a _ _ => a
  | .cast a _ _ | .compoundLiteral a _ _ | .statements a _ | .generic a _ _ _ | .unknown a _ => a

/-- The name of the kind of an expression, as messages and listings give it. -/
def Expr.kindName : Expr α → String
  | .int .. => "IntLiteral"
  | .float .. => "FloatLiteral"
  | .char .. => "CharLiteral"
  | .string .. => "StringLiteral"
  | .ident .. => "Identifier"
  | .labelAddress .. => "LabelAddressExpr"
  | .unary .. => "UnaryExpr"
  | .update .. => "UpdateExpr"
  | .binary .. => "BinaryExpr"
  | .assign .. => "AssignExpr"
  | .conditional .. => "ConditionalExpr"
  | .comma .. => "CommaExpr"
  | .call .. => "CallExpr"
  | .subscript .. => "SubscriptExpr"
  | .member .. => "MemberExpr"
  | .sizeofExpr .. | .sizeofType .. => "SizeofExpr"
  | .alignofExpr .. | .alignofType .. => "AlignofExpr"
  | .offsetof .. => "BuiltinOffsetofExpr"
  | .cast .. => "CastExpr"
  | .compoundLiteral .. => "CompoundLiteralExpr"
  | .statements .. => "StatementExpr"
  | .generic .. => "GenericExpr"
  | .unknown _ name => name

/-- The name of the kind of a statement, as messages give it. -/
def Stmt.kindName : Stmt α → String
  | .compound .. => "CompoundStmt"
  | .ifElse .. => "IfStmt"
  | .while_ .. => "WhileStmt"
  | .doWhile .. => "DoWhileStmt"
  | .for_ .. => "ForStmt"
  | .switch .. => "SwitchStmt"
  | .case_ .. => "CaseStmt"
  | .default_ .. => "DefaultStmt"
  | .label .. => "LabelStmt"
  | .goto .. => "GotoStmt"
  | .indirectGoto .. => "IndirectGotoStmt"
  | .break_ => "BreakStmt"
  | .continue_ => "ContinueStmt"
  | .return_ .. => "ReturnStmt"
  | .expr .. => "ExprStmt"
  | .null => "NullStmt"
  | .declaration .. => "DeclStmt"
  | .typedef .. => "TypedefDecl"
  | .group .. => "DeclGroupStmt"
  | .staticAssert .. => "StaticAssertDecl"
  | .unknown name => name

variable {α : Type}

/-- The name of a base, as comparisons and messages give it. -/
def TypeBase.name : TypeBase α → String
  | .named name => name
  | .enum .. => "enum"
  | .record kind .. => kind.keyword
  | .typeof _ => "typeof"

/-- A base put together anew: only a record with members keeps its body. -/
def TypeBase.renewed : TypeBase α → TypeBase α
  | .record kind tag members _ => .record kind tag members (!members.isEmpty)
  | base => base

def TypeBase.bare : TypeBase α → TypeBase α
  | .enum .. => .enum none []
  | .record kind .. => .record kind none [] false
  | base => base

namespace DeclOp

def isPointer : DeclOp α → Bool
  | .pointer => true
  | _ => false

def isArray : DeclOp α → Bool
  | .array _ => true
  | _ => false

def isFunction : DeclOp α → Bool
  | .unprototyped _ | .function .. => true
  | _ => false

end DeclOp

namespace TypeSpec

def name (t : TypeSpec α) : String := t.base.name

def ofBase [Inhabited α] (base : TypeBase α) : TypeSpec α :=
  ⟨default, base, [], [], false, none, none, none⟩

def ofName [Inhabited α] (name : String) : TypeSpec α := ofBase (.named name)

def renewed (t : TypeSpec α) : TypeSpec α :=
  { t with base := t.base.renewed, line := none, column := none }

/-- The specifier with further derivations outside its own. -/
def derive (t : TypeSpec α) (ops : List (DeclOp α)) : TypeSpec α :=
  { t.renewed with ops := ops ++ t.ops }

def pointers (t : TypeSpec α) (depth : Nat) : TypeSpec α :=
  if depth = 0 then t else t.derive (List.replicate depth .pointer)

/-- Texts without repetition, each where it first stands. -/
def distinct (texts : List String) : List String :=
  texts.foldl (fun seen s => if seen.contains s then seen else seen ++ [s]) []

def qualify (t : TypeSpec α) (qualifiers : List String) : TypeSpec α :=
  if qualifiers.isEmpty then t
  else { t.renewed with qualifiers := distinct (t.qualifiers ++ qualifiers) }

def atomic (t : TypeSpec α) : TypeSpec α :=
  if t.isAtomic then t else { t.renewed with isAtomic := true, atomicTarget := some t }

/-- The specifier without the pointers at the innermost end of its derivations, which were read as
    part of the specifier and belong to the first declarator alone. -/
def withoutPointers (t : TypeSpec α) : TypeSpec α :=
  let kept := (t.ops.reverse.dropWhile DeclOp.isPointer).reverse
  if kept.length = t.ops.length then t else { t.renewed with ops := kept }

def isFunction (t : TypeSpec α) : Bool := t.ops.head?.any DeclOp.isFunction

def isArray (t : TypeSpec α) : Bool := t.ops.head?.any DeclOp.isArray

/-- Whether an object of this type would have type `void` behind arrays or functions only. -/
def isVoidObject (t : TypeSpec α) : Bool :=
  t.name == "void" && !t.ops.any DeclOp.isPointer

def isVoid (t : TypeSpec α) : Bool := t.name == "void" && t.ops.isEmpty

/-- Whether a declaration without declarators declares something: a tag or a definition. -/
def declaresTag (t : TypeSpec α) : Bool :=
  match t.base with
  | .enum tag members => tag.isSome || !members.isEmpty
  | .record _ tag members _ => tag.isSome || !members.isEmpty
  | _ => false

def enumerators (t : TypeSpec α) : List (Enumerator α) :=
  match t.base with
  | .enum _ members => members
  | _ => []

/-- Arrays and functions become pointers, and the base keeps its name only. -/
def decay (t : TypeSpec α) : TypeSpec α :=
  let plain : TypeSpec α := ⟨t.note, t.base.bare, [], [], false, none, none, none⟩
  match t.ops with
  | .array _ :: rest => { plain with ops := .pointer :: rest }
  | ops => if t.isFunction then { plain with ops := .pointer :: ops } else t

def unqualified (t : TypeSpec α) : TypeSpec α :=
  if t.qualifiers.isEmpty then t else { t.renewed with qualifiers := [] }

end TypeSpec

end CCompiler
