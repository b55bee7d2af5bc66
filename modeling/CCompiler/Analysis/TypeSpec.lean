import Std.Data.HashMap
import CCompiler.Analysis.Symbol
import CCompiler.Syntax.Notes
import CCompiler.Syntax.Encoding

/-!
# Types named by specifiers

What an analysis knows after reading a part of a program: the scopes it has opened, the types of the
expressions it has seen, the functions and records declared, and where in a function body it stands.

The types that type specifiers name, the records and enumerators they define, and why a specifier may name
no type of an object.
-/
namespace CCompiler.Analysis

abbrev ScopeId := Nat

/-- The scopes around a place, the innermost first. -/
abbrev ScopePath := List ScopeId

def fileScope : ScopePath := [0]

structure SwitchLabels where
  cases : List Int := []
  hasDefault : Bool := false

/-- A function that has been analysed, with the scope of its parameters and outermost locals. -/
structure FunctionInfo where
  returnType : CType
  scope : ScopeId

structure State where
  scopes : Array Scope := #[{}]
  types : Std.HashMap NodeId CType := {}
  functions : List (String × FunctionInfo) := []
  signatures : List (String × Signature) := []
  overloads : List (String × List Signature) := []
  overloadable : List String := []
  overloadShapes : List (Json × String) := []
  overloadNodes : List (NodeId × String) := []
  definedFunctions : List String := []
  records : RecordTable := []
  anonymousRecords : List (Json × String) := []
  seenRecords : List NodeId := []
  seenEnums : List (ScopeId × NodeId) := []
  loopDepth : Nat := 0
  switches : List SwitchLabels := []
  labels : List String := []
  gotos : List String := []
  returnType : Option CType := none
  currentScope : Option ScopePath := none

abbrev Analyze := ReaderT Standard (StateT State (Except Failure))

def fail {β : Type} (cause : Cause) : Analyze β := throw (.meaning cause)

/-- Stops for a cause unless a condition holds. -/
def require (condition : Bool) (cause : Cause) : Analyze Unit :=
  if condition then pure () else fail cause

def ofLayout {β : Type} (result : Except Cyclic β) : Analyze β :=
  match result with
  | .ok b => pure b
  | .error _ => throw .cyclic

def ofScope {β : Type} (result : Except Cause β) : Analyze β :=
  match result with
  | .ok b => pure b
  | .error cause => fail cause

def ofNumber {β : Type} (result : Except NumberFault β) : Analyze β :=
  match result with
  | .ok b => pure b
  | .error fault => throw (.number fault)

def ofEscape {β : Type} (result : Except Literal.EscapeError β) : Analyze β :=
  match result with
  | .ok b => pure b
  | .error e => throw (.escape e)

/-! ## 1. What an analysis knows -/

def openScope (path : ScopePath) : Analyze ScopePath := do
  let id := (← get).scopes.size
  modify fun s => { s with scopes := s.scopes.push {} }
  return id :: path

def State.scopesOf (s : State) (path : ScopePath) : List Scope :=
  path.filterMap fun id => s.scopes[id]?

def lookup? (path : ScopePath) (name : String) : Analyze (Option Symbol) := do
  return Scope.lookup? ((← get).scopesOf path) name

def lookupTypedef? (path : ScopePath) (name : String) : Analyze (Option CType) := do
  return Scope.lookupTypedef? ((← get).scopesOf path) name

def changeScope (path : ScopePath) (change : Scope → Except Cause Scope) : Analyze Unit := do
  match path with
  | [] => pure ()
  | id :: _ =>
    let scope := (← get).scopes[id]?.getD {}
    let changed ← ofScope (change scope)
    modify fun s => { s with scopes := s.scopes.setIfInBounds id changed }

def define (path : ScopePath) (symbol : Symbol) : Analyze Unit :=
  changeScope path (·.define symbol)

def defineTypedef (path : ScopePath) (name : String) (type : CType) : Analyze Unit :=
  changeScope path (·.defineTypedef name type)

def record (e : Expr NodeId) (type : CType) : Analyze CType := do
  modify fun s => { s with types := s.types.insert e.note type }
  return type

def typeOf? (e : Expr NodeId) : Analyze (Option CType) := do
  return (← get).types[e.note]?

def records : Analyze RecordTable := do
  return (← get).records

def sizeOf? (t : CType) : Analyze (Option Int) := do
  ofLayout ((← records).size? t none)

def alignOf? (t : CType) : Analyze (Option Int) := do
  ofLayout ((← records).align? t)

/-- Notes that an expression stands for an overloaded function. Expressions that are built alike share
    the note, unless they hold a call or a block. -/
def setOverload (e : Expr NodeId) (name : String) : Analyze Unit :=
  let shape := e.json false
  if shape.isFlat then
    modify fun s => { s with overloadShapes := (shape, name) :: s.overloadShapes }
  else modify fun s => { s with overloadNodes := (e.note, name) :: s.overloadNodes }

def overload? (e : Expr NodeId) : Analyze (Option String) := do
  let s ← get
  if s.overloadShapes.isEmpty && s.overloadNodes.isEmpty then return none
  let shape := e.json false
  if shape.isFlat then return s.overloadShapes.lookup shape
  else return s.overloadNodes.lookup e.note

def inheritOverload (source target : Expr NodeId) : Analyze Unit := do
  match ← overload? source with
  | some name => setOverload target name
  | none => pure ()

/-- What one part of an analysis asks another: the type of an expression, the value of a constant
    expression, whether an expression is a null pointer constant, the type that a specifier names, and
    that a specifier, an initializer or a statement be analysed. -/
inductive Query where
  | expr (e : Expr NodeId) (scope : ScopePath)
  | value (e : Expr NodeId) (scope : ScopePath)
  | isNull (e : Expr NodeId) (scope : ScopePath)
  | type (spec : TypeSpec NodeId)
  | register (spec : TypeSpec NodeId)
  | initializer (target : CType) (init : Initializer NodeId) (scope : ScopePath)
  | designated (target : CType) (designators : List (Designator NodeId))
      (init : Initializer NodeId) (scope : ScopePath)
  | stmt (s : Stmt NodeId) (scope : ScopePath) (returnType : CType)

@[reducible] def Query.Answer : Query → Type
  | .expr .. | .type _ => CType
  | .value .. => Option Int
  | .isNull .. => Bool
  | .register _ | .initializer .. | .designated .. | .stmt .. => Unit

/-- A step that answers each question. -/
abbrev Ask := (query : Query) → Analyze query.Answer

/-! ## 2. Faults and alignments -/

/-- Whether a specifier names a record that is not defined, or an array of one. -/
def isIncomplete (spec : TypeSpec NodeId) : Analyze Bool := do
  match spec.base with
  | .record kind tag members _ =>
    if spec.ops.any DeclOp.isPointer || !members.isEmpty then return false
    match tag with
    | none => return true
    | some tag => return ((← records).members? s!"{kind.keyword} {tag}").isNone
  | _ => return false

def isInvalidAtomic (spec : TypeSpec NodeId) : Analyze Bool := do
  if !spec.isAtomic then return false
  let target := spec.atomicTarget.getD spec
  return target.isVoidObject || (← isIncomplete target) || target.isFunction || target.isArray

def objectFault? (spec : TypeSpec NodeId) : Analyze (Option TypeFault) := do
  if ← isInvalidAtomic spec then return some .atomic
  if spec.isVoidObject then return some .void
  if ← isIncomplete spec then return some .incomplete
  return none

def parameterFault? (spec : TypeSpec NodeId) : Analyze (Option TypeFault) := do
  if ← isInvalidAtomic spec then return some .atomic
  if spec.isVoid then return some .void
  if ← isIncomplete spec then return some .incomplete
  return none

def sizeFault? (spec : TypeSpec NodeId) : Analyze (Option TypeFault) := do
  match ← objectFault? spec with
  | some fault => return some fault
  | none => return if spec.isFunction then some .function else none

def typeSizeFault? (t : CType) : Analyze (Option TypeFault) := do
  if t == CType.void then return some .void
  if t.isFunction then return some .function
  if isRecordName t.name && !t.hasPointer && ((← records).members? t.name).isNone then
    return some .incomplete
  return none

/-- Whether a derivation is an array whose length is not known. -/
def isVariableBound (ask : Ask) (isFile : Bool) : DeclOp NodeId → Analyze Bool
  | .array (.length n) => return !isFile && n < 0
  | .array (.unsized ..) => return !isFile
  | .array (.constant ..) => return false
  | .array (.sized e _ _) => return (← ask (.value e fileScope)).isNone
  | _ => return false

/-- Whether some element of a list passes a test, the later ones not being tried. -/
def anyM {β : Type} (test : β → Analyze Bool) : List β → Analyze Bool
  | [] => return false
  | b :: rest => do if ← test b then return true else anyM test rest

/-- Whether a specifier names an array whose length is not known. -/
def isVariablyModified (ask : Ask) (spec : TypeSpec NodeId) : Analyze Bool :=
  anyM (isVariableBound ask false) spec.ops

/-- Whether a specifier names an array with a bound that is not constant. -/
def isVariableAtFileScope (ask : Ask) (spec : TypeSpec NodeId) : Analyze Bool :=
  anyM (isVariableBound ask true) spec.ops

/-- Why a specifier may not head a generic association. -/
def associationFault? (ask : Ask) (spec : TypeSpec NodeId) : Analyze (Option TypeFault) := do
  match ← sizeFault? spec with
  | some fault => return some fault
  | none => return if ← isVariablyModified ask spec then some .variablyModified else none

/-- Why an explicit alignment is refused for a type with a natural alignment. -/
def alignmentFault? (alignment : Option Int) (natural : Option Int) : Option AlignmentFault :=
  match alignment with
  | none => none
  | some n =>
    if n ≤ 0 then some .notPositive
    else if Bits.and n (n - 1) ≠ 0 then some (.notPowerOfTwo n)
    else
      match natural with
      | none => some .unknownNatural
      | some m => if n ≥ m then none else some (.weaker n m)

/-- Refuses an alignment that is too weak or no alignment at all. -/
def checkAlignment (context : String) (alignment natural : Option Int) : Analyze Unit :=
  match alignmentFault? alignment natural with
  | some fault => fail (.alignment context fault)
  | none => pure ()

/-! ## 3. Records -/

/-- The name of a record: its tag, or a number for an anonymous one. Anonymous records with the same
    members share it. -/
def recordName (kind : RecordKind) (tag : Option String) (members : List (MemberDecl NodeId)) : Analyze String := do
  match tag with
  | some tag => return s!"{kind.keyword} {tag}"
  | none =>
    let shape := Json.ofList (MemberDecl.json false) members
    if !shape.isFlat then throw .unnamedRecord
    let key := .array [.string kind.keyword, shape]
    let known := (← get).anonymousRecords
    match known.lookup key with
    | some name => return name
    | none =>
      let name := s!"{kind.keyword} <anon:{known.length + 1}>"
      modify fun s => { s with anonymousRecords := s.anonymousRecords ++ [(key, name)] }
      return name

/-- The names visible in a record; a name that is visible twice is refused. -/
def visibleMembers? (name : String) : Analyze (Option (List (String × CType × Nat))) := do
  match ← ofLayout ((← records).visible? name) with
  | none => return none
  | some members =>
    let repeated := members.zipIdx.find? fun (m, i) => (members.take i).any (·.1 == m.1)
    match repeated with
    | some (m, _) => fail (.duplicateDeclaration m.1)
    | none => return some members

def memberType (t : CType) (name : String) : Analyze CType := do
  match ← visibleMembers? t.name with
  | none => fail .memberOfIncomplete
  | some members =>
    match members.lookup name with
    | some (type, _) => return type
    | none => fail (.noMember name)

def bitWidth (ask : Ask) (type : CType) (member : MemberDecl NodeId) (width : Expr NodeId) : Analyze Int := do
  require type.isInteger .bitFieldType
  match ← ask (.value width fileScope) with
  | none => fail .bitFieldNotConstant
  | some n =>
    require (n ≥ 0) .bitFieldNegative
    match ← sizeOf? type with
    | none => throw .notFunction
    | some size => require (n ≤ size * 8) .bitFieldTooWide
    require (member.name.isNone || n ≠ 0) .bitFieldZero
    return n

/-- Notes names of members; each may be visible only once. -/
def addMemberNames (seen : List String) : List String → Analyze (List String)
  | [] => return seen
  | name :: rest => do
    if seen.contains name then fail (.duplicateDeclaration name)
    addMemberNames (name :: seen) rest

def memberFault? (spec : TypeSpec NodeId) : Analyze (Option TypeFault) := do
  if spec.isVoidObject then return some .void
  if ← isInvalidAtomic spec then return some .atomic
  if spec.isFunction then return some .function
  if ← isIncomplete spec then return some .incomplete
  return none

def registerMember (ask : Ask) (seen : List String) (member : MemberDecl NodeId) :
    Analyze (List String × RecordMember) := do
  let seen ← addMemberNames seen member.name.toList
  match ← memberFault? member.type with
  | some fault => fail (.invalidMember fault)
  | none => pure ()
  let type ← ask (.type member.type)
  let width ← match member.bitWidth with
    | some width => some <$> bitWidth ask type member width
    | none => pure none
  checkAlignment "record member declaration" member.alignment (← alignOf? type)
  let info : RecordMember := ⟨member.name, type, member.alignment, width⟩
  if info.isAnonymousRecord then
    let nested := (← visibleMembers? type.name).getD []
    return (← addMemberNames seen (nested.map (·.1)), info)
  else return (seen, info)

def registerMembers (ask : Ask) (seen : List String) : List (MemberDecl NodeId) → Analyze (List RecordMember)
  | [] => return []
  | member :: rest => do
    let (seen, info) ← registerMember ask seen member
    return info :: (← registerMembers ask seen rest)

/-- Defines the record that a specifier has a body for, once for each specifier. -/
def register (ask : Ask) (spec : TypeSpec NodeId) : Analyze Unit := do
  match spec.base with
  | .record kind tag members true =>
    if (← get).seenRecords.contains spec.note then return
    modify fun s => { s with seenRecords := spec.note :: s.seenRecords }
    let infos ← registerMembers ask [] members
    let name ← recordName kind tag members
    match (← records).members? name with
    | some existing => require (existing == infos) (.duplicateRecord name)
    | none => modify fun s => { s with records := s.records ++ [(name, infos)] }
  | _ => pure ()

/-! ## 4. Types and enumerators -/

def boundLength (ask : Ask) : ArrayBound NodeId → Analyze Int
  | .length n | .constant n _ _ => return n
  | .unsized .. => return -1
  | .sized e _ _ => return (← ask (.value e fileScope)).getD (-1)

/-- The type of a parameter: arrays and functions become pointers. -/
def paramType (ask : Ask) (spec : TypeSpec NodeId) : Analyze CType := do
  match ← parameterFault? spec with
  | some fault => fail (.invalidParameter fault)
  | none => return (← ask (.type spec)).decay

/-- The derivation that a derivation of a declarator stands for. -/
def typeOp (ask : Ask) : DeclOp NodeId → Analyze TypeOp
  | .pointer => return .pointer
  | .array bound => return .array (← boundLength ask bound)
  | .unprototyped isVariadic =>
    if isVariadic then fail .variadicWithoutPrototype else return .unprototyped false
  | .function params isVariadic => return .function (← params.mapM (paramType ask)) isVariadic

/-- The type of an expression with further derivations; those of functions are left out. -/
def deriveTypeof (ask : Ask) (type : CType) : List (DeclOp NodeId) → Analyze CType
  | [] => return type
  | .pointer :: rest => deriveTypeof ask type.pointerTo rest
  | .array bound :: rest => do deriveTypeof ask (type.arrayOf (← boundLength ask bound)) rest
  | _ :: rest => deriveTypeof ask type rest

def resolveType (ask : Ask) (spec : TypeSpec NodeId) : Analyze CType := do
  ask (.register spec)
  match spec.base with
  | .typeof e =>
    let scope := (← get).currentScope.getD fileScope
    deriveTypeof ask (← ask (.expr e scope)) spec.ops
  | .named name =>
    let ops ← spec.ops.mapM (typeOp ask)
    let isVoid := name == "void" && ops.isEmpty && spec.qualifiers.isEmpty
    return ⟨name, ops, spec.qualifiers, isVoid⟩
  | .enum .. => return ⟨"int", ← spec.ops.mapM (typeOp ask), spec.qualifiers, false⟩
  | .record kind tag members _ =>
    let ops ← spec.ops.mapM (typeOp ask)
    return ⟨← recordName kind tag members, ops, spec.qualifiers, false⟩

/-- How a generic association's type is called: as it is written if it is not derived. -/
def associationLabel (spec : TypeSpec NodeId) (type : CType) : String :=
  if spec.ops.isEmpty && !spec.isAtomic then
    if spec.qualifiers.isEmpty then spec.name else " ".intercalate spec.qualifiers ++ " " ++ spec.name
  else type.text

/-- Declares enumerators: each has its value, or one more than the one before. -/
def defineEnumerators (ask : Ask) (scope : ScopePath) : Int → List (Enumerator NodeId) → Analyze Unit
  | _, [] => pure ()
  | next, e :: rest => do
    let value ← match e.value with
      | none => pure next
      | some expr =>
        match ← ask (.value expr scope) with
        | none => fail .enumeratorNotConstant
        | some value => pure value
    define scope (.enumerator e.name value)
    defineEnumerators ask scope (value + 1) rest

def declareEnumerators (ask : Ask) (spec : TypeSpec NodeId) (scope : ScopePath) : Analyze Unit :=
  defineEnumerators ask scope 0 spec.enumerators

/-- Declares the enumerators that a specifier inside an expression defines, once for each scope. -/
def declareScopedEnumerators (ask : Ask) (spec : TypeSpec NodeId) (scope : ScopePath) : Analyze Unit := do
  if spec.enumerators.isEmpty then return
  let key := (scope.headD 0, spec.note)
  if (← get).seenEnums.contains key then return
  modify fun s => { s with seenEnums := key :: s.seenEnums }
  declareEnumerators ask spec scope

def maxArraySize : Int := 0x7FFFFFFF

/-- Refuses arrays that are too large. -/
def checkArraySize (t : CType) : Analyze Unit := do
  if t.isArray then
    match ← ofLayout ((← records).size? t (some maxArraySize)) with
    | some size => require (size ≤ maxArraySize) .arrayTooLarge
    | none => pure ()

end CCompiler.Analysis
