import CCompiler.Literal.Typed
import CCompiler.Syntax.Basic

/-!
# Errors and symbols

Every way in which a syntax tree fails to be a meaningful C program, with its wording.
-/
namespace CCompiler.Analysis

inductive Level where
  | file
  | block
deriving Repr, DecidableEq

def Level.label : Level → String
  | .file => "file-scope"
  | .block => "block-scope"

inductive TypeFault where
  | atomic
  | void
  | incomplete
  | function
  | variablyModified
deriving Repr, DecidableEq

def TypeFault.label : TypeFault → String
  | .atomic => "atomic"
  | .void => "void"
  | .incomplete => "incomplete"
  | .function => "function"
  | .variablyModified => "variably modified"

inductive AlignmentFault where
  | notPositive
  | notPowerOfTwo (alignment : Int)
  | unknownNatural
  | weaker (alignment natural : Int)
deriving Repr, DecidableEq

def AlignmentFault.message : AlignmentFault → String
  | .notPositive => "alignment must be positive"
  | .notPowerOfTwo alignment => s!"alignment {alignment} is not a power of two"
  | .unknownNatural => "cannot determine natural alignment"
  | .weaker alignment natural =>
    s!"alignment {alignment} is weaker than natural alignment {natural}"

/-- What a declaration without a name says about its storage. -/
structure Storage where
  storage : Option StorageClass
  isThreadLocal : Bool
deriving Repr, DecidableEq

def Storage.text? (s : Storage) : Option String :=
  let parts := (s.storage.map fun c => s!"storage class '{c.keyword}'").toList
    ++ (if s.isThreadLocal then ["'_Thread_local'"] else [])
  if parts.isEmpty then none else some (" and ".intercalate parts)

/-- A place in the source, as far as it is known. -/
structure Place where
  line : Option Int
  column : Option Int
deriving Repr, DecidableEq

def Place.text? (p : Place) : Option String :=
  match p.line, p.column with
  | some line, some column => some s!"line {line}, column {column}"
  | some line, none => some s!"line {line}"
  | none, some column => some s!"column {column}"
  | none, none => none

def Place.suffix (p : Place) : String :=
  match p.text? with
  | some text => " at " ++ text
  | none => ""

inductive Side where
  | left
  | right
deriving Repr, DecidableEq

def Side.label : Side → String
  | .left => "left"
  | .right => "right"

/-- A group of binary operators and what they ask of their operands. -/
inductive OperandRule where
  | multiplication
  | division
  | modulo
  | shift
  | bitwise
  | equality
  | logical
deriving Repr, DecidableEq

/-- What a group of operators asks of an operand. -/
def OperandRule.message (rule : OperandRule) (side : Side) : String :=
  let (operator, requirement) := match rule with
    | .multiplication => ("Multiplication", "arithmetic")
    | .division => ("Division", "arithmetic")
    | .modulo => ("Modulo", "integer")
    | .shift => ("Shift", "integer")
    | .bitwise => ("Bitwise", "integer")
    | .equality => ("Equality", "scalar")
    | .logical => ("Logical", "scalar")
  s!"{operator} {side.label} operand must be {requirement}"

/-- Why a program is not meaningful. -/
inductive Cause where
  | duplicateDeclaration (name : String)
  | conflictingDeclaration (name : String)
  | duplicateFunction (name : String)
  | duplicateRecord (name : String)
  | functionStorage (level : Level) (storage : StorageClass)
  | objectStorage (storage : StorageClass)
  | typedefStorage (level : Level)
  | threadLocalFunction
  | threadLocalStorage (level : Level) (storage : Option StorageClass)
  | missingName (level : Level) (storage : Storage)
  | alignmentWithoutName (level : Level) (storage : Storage)
  | invalidObject (level : Level) (fault : TypeFault)
  | invalidMember (fault : TypeFault)
  | invalidLiteral (fault : TypeFault)
  | invalidTypedef (level : Level)
  | invalidReturn (fault : TypeFault)
  | invalidParameter (fault : TypeFault)
  | missingParameterName
  | variadicWithoutPrototype
  | alignment (context : String) (fault : AlignmentFault)
  | externInitializer (level : Level)
  | variableLengthAtFileScope
  | arrayTooLarge
  | bitFieldType
  | bitFieldNotConstant
  | bitFieldNegative
  | bitFieldTooWide
  | bitFieldZero
  | enumeratorNotConstant
  | assertionNotConstant
  | assertionFailed (message : String)
  | invalidIntegerLiteral
  | undeclared (name : String)
  | undeclaredFunction (name : String)
  | statementExpressionOutside
  | subscriptNotInteger
  | subscriptedNotArray
  | memberOfIncomplete
  | memberOfNonRecord
  | memberOfNonRecordPointer
  | noMember (name : String)
  | invalidSizeof (fault : TypeFault)
  | invalidAlignof (fault : TypeFault)
  | alignofUnknown
  | alignofExpression
  | castTarget
  | castOverload
  | castOperand
  | unarySign (isPlus : Bool)
  | bitwiseNot
  | logicalNot
  | addressOf
  | dereference
  | unsupportedUnary (op : String)
  | unsupportedUpdate (op : String)
  | unsupportedBinary (op : String)
  | unsupportedAssignment (op : String)
  | notAssignable
  | updateOperand
  | addition
  | subtraction
  | operand (rule : OperandRule) (side : Side)
  | relational
  | equality
  | conditionVoid
  | conditionNotScalar
  | switchNotInteger
  | conditionalMismatch
  | assignmentValue
  | compoundMultiplicative
  | compoundAdditive
  | compoundInteger
  | genericDuplicateDefault (index : Nat) (place : Place) (previous : Nat) (previousPlace : Place)
  | genericInvalid (index : Nat) (label : String) (place : Place) (fault : TypeFault)
  | genericDuplicate (index : Nat) (place : Place) (label : String) (previous : Nat)
      (previousPlace : Place) (previousLabel : String)
  | genericNoMatch (control : String) (available : List String)
  | ambiguousCall (name : String)
  | notCallable
  | argumentCount (expected got : Nat) (isVariadic : Bool) (name : Option String)
  | argumentType (index : Nat) (name : Option String)
  | initializerMismatch
  | scalarItems
  | scalarDesignated
  | initializerRange
  | initializerIndex
  | arrayDesignator
  | recordDesignator
  | indexNotConstant
  | returnValueMissing
  | returnValueInVoid
  | returnMismatch
  | caseOutside
  | caseNotConstant
  | duplicateCase
  | defaultOutside
  | duplicateDefault
  | duplicateLabel (name : String)
  | undefinedLabel (name : String)
  | gotoNotPointer
  | gotoNotVoidPointer
  | breakOutside
  | continueOutside
  | unknownExpression (name : String)
  | unknownStatement (name : String)
  | unknownDeclaration (name : String)
deriving Repr, DecidableEq

/-! ## 1. Wording -/

def nameSuffix : Option String → String
  | some name => ": " ++ name
  | none => ""

def genericNoMatchMessage (control : String) (available : List String) : String :=
  let head := s!"No matching generic association for control type '{control}'"
  if available.isEmpty then head
  else head ++ "; available association types: " ++ ", ".intercalate available

def argumentCountMessage (expected got : Nat) (isVariadic : Bool) (name : Option String) : String :=
  let least := if isVariadic then "at least " else ""
  s!"Argument count mismatch (expected {least}{expected}, got {got}){nameSuffix name}"

def withStorage (head : String) (storage : Storage) : String :=
  match storage.text? with
  | some text => head ++ " with " ++ text
  | none => head

def Cause.message : Cause → String
  | .duplicateDeclaration name => s!"Duplicate declaration: {name}"
  | .conflictingDeclaration name => s!"Conflicting declaration: {name}"
  | .duplicateFunction name => s!"Duplicate function definition: {name}"
  | .duplicateRecord name => s!"Duplicate definition: {name}"
  | .functionStorage level storage =>
    s!"Invalid storage class for {level.label} function declaration: '{storage.keyword}'"
  | .objectStorage storage =>
    s!"Invalid storage class for file-scope object declaration: '{storage.keyword}'"
  | .typedefStorage level =>
    s!"Invalid storage class for {level.label} object declaration: 'typedef'; "
      ++ "use a typedef declaration instead"
  | .threadLocalFunction =>
    "Invalid declaration specifier for function declaration: '_Thread_local'"
  | .threadLocalStorage level storage =>
    let label := (storage.map StorageClass.keyword).getD "none"
    s!"Invalid storage class for {level.label} thread-local object declaration: '{label}'; "
      ++ "'_Thread_local' requires 'static' or 'extern'"
  | .missingName level storage =>
    withStorage s!"Expected identifier for {level.label} object declaration" storage
  | .alignmentWithoutName level storage =>
    withStorage s!"Invalid alignment specifier for {level.label} object declaration without identifier"
      storage
  | .invalidObject level fault =>
    s!"Invalid object type for {level.label} object declaration: {fault.label}"
  | .invalidMember fault => s!"Invalid object type for record member declaration: {fault.label}"
  | .invalidLiteral fault => s!"Invalid object type for compound literal: {fault.label}"
  | .invalidTypedef level => s!"Invalid atomic type for {level.label} typedef declaration"
  | .invalidReturn fault => s!"Invalid return type: {fault.label}"
  | .invalidParameter fault => s!"Invalid parameter type: {fault.label}"
  | .missingParameterName => "Missing parameter name"
  | .variadicWithoutPrototype => "Variadic function requires a prototype"
  | .alignment context fault => s!"Invalid alignment specifier for {context}: {fault.message}"
  | .externInitializer level =>
    s!"Invalid initializer for {level.label} object declaration with storage class 'extern'"
  | .variableLengthAtFileScope => "Variable length array not allowed at file scope"
  | .arrayTooLarge => "array is too large"
  | .bitFieldType => "Bit-field type must be integer"
  | .bitFieldNotConstant => "Bit-field width is not integer constant"
  | .bitFieldNegative => "Bit-field width must be non-negative"
  | .bitFieldTooWide => "Bit-field width exceeds type width"
  | .bitFieldZero => "Named bit-field width must be greater than zero"
  | .enumeratorNotConstant => "Enumerator value is not integer constant"
  | .assertionNotConstant => "Static assertion condition is not integer constant"
  | .assertionFailed message => s!"Static assertion failed: {message}"
  | .invalidIntegerLiteral => "Invalid integer literal"
  | .undeclared name => s!"Undeclared identifier: {name}"
  | .undeclaredFunction name => s!"Undeclared function: {name}"
  | .statementExpressionOutside => "Statement expression outside of a function"
  | .subscriptNotInteger => "Array subscript is not an integer"
  | .subscriptedNotArray => "Subscripted value is not an array or pointer"
  | .memberOfIncomplete => "Member access on incomplete type"
  | .memberOfNonRecord => "Member access on non-record type"
  | .memberOfNonRecordPointer => "Member access on non-record pointer"
  | .noMember name => s!"No such member: {name}"
  | .invalidSizeof fault => s!"Invalid sizeof operand: {fault.label} type"
  | .invalidAlignof fault => s!"Invalid alignof operand: {fault.label} type"
  | .alignofUnknown => "Invalid alignof operand: unknown or unsupported type"
  | .alignofExpression => "Invalid alignof operand: expression form requires GNU mode"
  | .castTarget => "Cast target type is not castable"
  | .castOverload => "Cast target is not compatible with overload set"
  | .castOperand => "Cast operand is not castable to target type"
  | .unarySign isPlus =>
    if isPlus then "Unary plus operand must be arithmetic" else "Unary minus operand must be arithmetic"
  | .bitwiseNot => "Bitwise not operand must be integer"
  | .logicalNot => "Logical not requires scalar operand"
  | .addressOf => "Address-of operand is not assignable"
  | .dereference => "Cannot dereference non-pointer"
  | .unsupportedUnary op => s!"Unsupported unary operator: {op}"
  | .unsupportedUpdate op => s!"Unsupported update operator: {op}"
  | .unsupportedBinary op => s!"Unsupported binary operator: {op}"
  | .unsupportedAssignment op => s!"Unsupported assignment operator: {op}"
  | .notAssignable => "Assignment target is not assignable"
  | .updateOperand => "Update operand must be integer or pointer"
  | .addition => "Addition operands must be arithmetic or pointer/integer"
  | .subtraction => "Subtraction operands must be arithmetic, pointer/integer, or compatible pointers"
  | .operand rule side => rule.message side
  | .relational => "Relational operator requires integer or compatible object pointer operands"
  | .equality => "Equality operator requires integer or compatible pointer operands"
  | .conditionVoid => "Condition must be non-void"
  | .conditionNotScalar => "Condition must be scalar"
  | .switchNotInteger => "Switch condition must be integer"
  | .conditionalMismatch => "Conditional type mismatch"
  | .assignmentValue => "Assignment value is not compatible with target type"
  | .compoundMultiplicative => "Compound multiplicative assignment requires arithmetic operands"
  | .compoundAdditive =>
    "Compound additive assignment requires arithmetic operands or pointer/integer"
  | .compoundInteger => "Compound bitwise/shift/modulo assignment requires integer operands"
  | .genericDuplicateDefault index place previous previousPlace =>
    s!"Duplicate default generic association at position {index}{place.suffix}: previous default was "
      ++ s!"at position {previous}{previousPlace.suffix}; only one default association is allowed"
  | .genericInvalid index label place fault =>
    s!"Invalid generic association type at position {index} ('{label}'){place.suffix}: "
      ++ s!"{fault.label} type"
  | .genericDuplicate index place label previous previousPlace previousLabel =>
    s!"Duplicate generic association type at position {index}{place.suffix} ('{label}'): previous "
      ++ s!"compatible type was at position {previous}{previousPlace.suffix} ('{previousLabel}')"
  | .genericNoMatch control available => genericNoMatchMessage control available
  | .ambiguousCall name => s!"Ambiguous overloaded call: {name}"
  | .notCallable => "Call target is not a function"
  | .argumentCount expected got isVariadic name => argumentCountMessage expected got isVariadic name
  | .argumentType index name => s!"Argument {index} type mismatch{nameSuffix name}"
  | .initializerMismatch => "Initializer type mismatch"
  | .scalarItems => "Scalar initializer list must contain exactly one item"
  | .scalarDesignated => "Scalar initializer list item cannot be designated"
  | .initializerRange => "Initializer range out of bounds"
  | .initializerIndex => "Initializer index out of range"
  | .arrayDesignator => "Array initializer designator must use index"
  | .recordDesignator => "Record initializer designator must use member"
  | .indexNotConstant => "Initializer index is not integer constant"
  | .returnValueMissing => "Non-void function must return a value"
  | .returnValueInVoid => "Void function should not return a value"
  | .returnMismatch => "Return value is not compatible with function return type"
  | .caseOutside => "case not in switch"
  | .caseNotConstant => "case value is not integer constant"
  | .duplicateCase => "Duplicate case value"
  | .defaultOutside => "default not in switch"
  | .duplicateDefault => "Duplicate default label"
  | .duplicateLabel name => s!"Duplicate label: {name}"
  | .undefinedLabel name => s!"Undefined label: {name}"
  | .gotoNotPointer => "Indirect goto target must be pointer"
  | .gotoNotVoidPointer => "Indirect goto target must be pointer to void"
  | .breakOutside => "break not in loop"
  | .continueOutside => "continue not in loop"
  | .unknownExpression name =>
    s!"Unsupported expression node: {name} (internal sema bug: unexpected AST expression node)"
  | .unknownStatement name =>
    s!"Unsupported statement node: {name} (internal sema bug: unexpected AST statement node)"
  | .unknownDeclaration name =>
    s!"Unsupported file-scope declaration node: {name} (internal sema bug: unexpected AST "
      ++ "file-scope declaration node)"

/-- Why an analysis stopped: the program is not meaningful, there is no such integer, an escape has no
    value, an anonymous record
    cannot be told from others because its members hold a call or a block, a declaration that should
    declare a function does not, a record contains itself, or the tree is deeper than its size allows. -/
inductive Failure where
  | meaning (cause : Cause)
  | number (fault : NumberFault)
  | escape (error : Literal.EscapeError)
  | unnamedRecord
  | notFunction
  | cyclic
  | tooDeep
deriving Repr, DecidableEq

def Failure.message : Failure → String
  | .meaning cause => cause.message
  | .number fault => fault.message
  | .escape error => error.message
  | .unnamedRecord => "unhashable type: 'list'"
  | .notFunction => ""
  | .cyclic => "maximum recursion depth exceeded"
  | .tooDeep => "maximum recursion depth exceeded"

/-! ## 2. Symbols and scopes

A scope maps names to objects, functions and enumerators, and apart from them to types. Names keep the
order in which they were declared.
-/

inductive Symbol where
  | object (name : String) (type : CType) (alignment : Option Int) (isExtern : Bool)
  | enumerator (name : String) (value : Int)

namespace Symbol

def name : Symbol → String
  | object name .. | enumerator name _ => name

def type : Symbol → CType
  | object _ type .. => type
  | enumerator .. => .int

/-- Whether a declaration may be repeated by another: the first is `extern` and the types are the
    same. -/
def redeclarable : Symbol → Symbol → Bool
  | object _ type _ isExtern, object _ type' _ _ => isExtern && type == type'
  | _, _ => false

def isEnumerator : Symbol → Bool
  | enumerator .. => true
  | object .. => false

end Symbol

/-- A list of pairs with a value put under a key: in the place of the key, or at the end. -/
def put {β : Type} (key : String) (value : β) : List (String × β) → List (String × β)
  | [] => [(key, value)]
  | (k, v) :: rest => if k = key then (k, value) :: rest else (k, v) :: put key value rest

structure Scope where
  symbols : List (String × Symbol) := []
  typedefs : List (String × CType) := []

namespace Scope

def define (scope : Scope) (symbol : Symbol) : Except Cause Scope :=
  match scope.symbols.lookup symbol.name with
  | some existing =>
    if existing.redeclarable symbol then
      .ok { scope with symbols := put symbol.name symbol scope.symbols }
    else .error (.duplicateDeclaration symbol.name)
  | none =>
    if (scope.typedefs.lookup symbol.name).isSome then
      .error (.duplicateDeclaration symbol.name)
    else .ok { scope with symbols := put symbol.name symbol scope.symbols }

def defineTypedef (scope : Scope) (name : String) (type : CType) : Except Cause Scope :=
  if (scope.symbols.lookup name).isSome || (scope.typedefs.lookup name).isSome then
    .error (.duplicateDeclaration name)
  else .ok { scope with typedefs := scope.typedefs ++ [(name, type)] }

def lookup? (scopes : List Scope) (name : String) : Option Symbol :=
  scopes.findSome? fun scope => scope.symbols.lookup name

def lookupTypedef? (scopes : List Scope) (name : String) : Option CType :=
  scopes.findSome? fun scope => scope.typedefs.lookup name

end Scope

end CCompiler.Analysis
