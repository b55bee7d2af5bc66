/-!
# Types

A type is the name of a base type with derivations around it, the outermost first, and qualifiers. All
qualifiers of a type stand together: they are not told apart by derivation.

The record definitions that an analysis has seen, and what hangs on them: sizes, alignments and the
members that a name in a record stands for. A record that contains itself has no size; the answer is then
an error of its own.
-/
namespace CCompiler

mutual

/-- A type. The flag marks `void` as it is named by a specifier; the `void` that is left when a
    derivation is taken off does not have it. Only named `void` is refused as a condition and lets a
    function return nothing. -/
structure CType where
  name : String
  ops : List TypeOp
  qualifiers : List String
  isNamedVoid : Bool

/-- A derivation. A function without a prototype says nothing about its parameters. -/
inductive TypeOp where
  | pointer
  | array (length : Int)
  | unprototyped (isVariadic : Bool)
  | function (params : List CType) (isVariadic : Bool)

end

/-! ## 1. Types -/

mutual

/-- Whether two types are the same; the flag of `void` does not matter. -/
def CType.same : CType → CType → Bool
  | ⟨name, ops, qualifiers, _⟩, ⟨name', ops', qualifiers', _⟩ =>
    name == name' && qualifiers == qualifiers' && sameOps ops ops'

def TypeOp.same : TypeOp → TypeOp → Bool
  | .pointer, .pointer => true
  | .array n, .array m => n == m
  | .unprototyped v, .unprototyped w => v == w
  | .function params v, .function params' w => v == w && sameTypes params params'
  | _, _ => false

def sameOps : List TypeOp → List TypeOp → Bool
  | [], [] => true
  | a :: as, b :: bs => a.same b && sameOps as bs
  | _, _ => false

def sameTypes : List CType → List CType → Bool
  | [], [] => true
  | a :: as, b :: bs => a.same b && sameTypes as bs
  | _, _ => false

end

instance : BEq CType := ⟨CType.same⟩

instance : BEq TypeOp := ⟨TypeOp.same⟩

mutual

/-- The spelling of a type: qualifiers, name, and the derivations from the innermost to the
    outermost. -/
def CType.text : CType → String
  | ⟨name, ops, qualifiers, _⟩ =>
    let front := if qualifiers.isEmpty then "" else " ".intercalate qualifiers ++ " "
    front ++ name ++ opsText ops

def TypeOp.text : TypeOp → String
  | .pointer => "*"
  | .array n => "[" ++ toString n ++ "]"
  | .unprototyped _ => "()"
  | .function [] _ => "(void)"
  | .function (p :: ps) isVariadic =>
    "(" ++ p.text ++ paramsText ps ++ (if isVariadic then ",...)" else ")")

def opsText : List TypeOp → String
  | [] => ""
  | op :: ops => opsText ops ++ op.text

def paramsText : List CType → String
  | [] => ""
  | p :: ps => "," ++ p.text ++ paramsText ps

end

mutual

def CType.lengths : CType → List Int
  | ⟨_, ops, _, _⟩ => opsLengths ops

def opsLengths : List TypeOp → List Int
  | [] => []
  | .array n :: ops => n :: opsLengths ops
  | .function params _ :: ops => paramsLengths params ++ opsLengths ops
  | _ :: ops => opsLengths ops

def paramsLengths : List CType → List Int
  | [] => []
  | p :: ps => p.lengths ++ paramsLengths ps

end

namespace CType

def ofName (name : String) : CType := ⟨name, [], [], false⟩

/-- `void` as a specifier names it. -/
def void : CType := ⟨"void", [], [], true⟩

def int : CType := ofName "int"

def char : CType := ofName "char"

def long : CType := ofName "long"

def unsignedLong : CType := ofName "unsigned long"

def longDouble : CType := ofName "long double"

def withOps (t : CType) (ops : List TypeOp) : CType := ⟨t.name, ops, t.qualifiers, false⟩

def derive (t : CType) (op : TypeOp) : CType := t.withOps (op :: t.ops)

def pointerTo (t : CType) : CType := t.derive .pointer

def arrayOf (t : CType) (length : Int) : CType := t.derive (.array length)

def pointee? (t : CType) : Option CType :=
  match t.ops with
  | .pointer :: rest => some (t.withOps rest)
  | _ => none

def element? (t : CType) : Option CType :=
  match t.ops with
  | .array _ :: rest => some (t.withOps rest)
  | _ => none

/-- The length of an array type; it is negative if the type is incomplete. -/
def length? (t : CType) : Option Int :=
  match t.ops with
  | .array n :: _ => some n
  | _ => none

def isArray (t : CType) : Bool := t.length?.isSome

def isPointer (t : CType) : Bool := t.pointee?.isSome

def isFunction (t : CType) : Bool :=
  match t.ops with
  | .unprototyped _ :: _ | .function _ _ :: _ => true
  | _ => false

def hasPointer (t : CType) : Bool :=
  t.ops.any fun op =>
    match op with
    | .pointer => true
    | _ => false

/-- Arrays become pointers to their elements and functions pointers to themselves. -/
def decay (t : CType) : CType :=
  match t.ops with
  | .array _ :: rest => t.withOps (.pointer :: rest)
  | .unprototyped _ :: _ | .function _ _ :: _ => t.pointerTo
  | _ => t

end CType

/-- What a call of a function needs and gives. There are no parameters to check without a
    prototype. -/
structure Signature where
  returnType : CType
  params : Option (List CType)
  isVariadic : Bool

namespace Signature

def sameParams : Option (List CType) → Option (List CType) → Bool
  | none, none => true
  | some ps, some qs => sameTypes ps qs
  | _, _ => false

def same (a b : Signature) : Bool :=
  a.returnType == b.returnType && sameParams a.params b.params && a.isVariadic == b.isVariadic

instance : BEq Signature := ⟨same⟩

def op (s : Signature) : TypeOp :=
  match s.params with
  | none => .unprototyped s.isVariadic
  | some params => .function params s.isVariadic

def type (s : Signature) : CType := s.returnType.derive s.op

end Signature

/-- The signature of a function, or of the function that a pointer points to. -/
def CType.signature? (t : CType) : Option Signature :=
  let ops := match t.ops with
    | .pointer :: rest => rest
    | ops => ops
  match ops with
  | .unprototyped isVariadic :: rest => some ⟨t.withOps rest, none, isVariadic⟩
  | .function params isVariadic :: rest => some ⟨t.withOps rest, some params, isVariadic⟩
  | _ => none

/-! ## 2. Arithmetic types

Integer and floating types, their ranges, and the conversions that arithmetic makes. An integer type is
known by its name; the floating types likewise.
-/

inductive IntegerKind where
  | bool
  | char
  | unsignedChar
  | short
  | unsignedShort
  | int
  | unsignedInt
  | long
  | unsignedLong
  | longLong
  | unsignedLongLong
  | int128
  | unsignedInt128
deriving Repr, DecidableEq

namespace IntegerKind

def all : List IntegerKind :=
  [bool, char, unsignedChar, short, unsignedShort, int, unsignedInt, long, unsignedLong, longLong,
    unsignedLongLong, int128, unsignedInt128]

def name : IntegerKind → String
  | bool => "_Bool"
  | char => "char"
  | unsignedChar => "unsigned char"
  | short => "short"
  | unsignedShort => "unsigned short"
  | int => "int"
  | unsignedInt => "unsigned int"
  | long => "long"
  | unsignedLong => "unsigned long"
  | longLong => "long long"
  | unsignedLongLong => "unsigned long long"
  | int128 => "__int128_t"
  | unsignedInt128 => "__uint128_t"

def ofName? (text : String) : Option IntegerKind := all.find? (·.name == text)

def rank : IntegerKind → Nat
  | bool => 1
  | char | unsignedChar => 2
  | short | unsignedShort => 3
  | int | unsignedInt => 4
  | long | unsignedLong => 5
  | longLong | unsignedLongLong => 6
  | int128 | unsignedInt128 => 7

def isSigned : IntegerKind → Bool
  | char | short | int | long | longLong | int128 => true
  | _ => false

def size : IntegerKind → Nat
  | bool | char | unsignedChar => 1
  | short | unsignedShort => 2
  | int | unsignedInt => 4
  | long | unsignedLong | longLong | unsignedLongLong => 8
  | int128 | unsignedInt128 => 16

/-- The type that a value has in arithmetic: nothing smaller than `int`. -/
def promoted (k : IntegerKind) : IntegerKind := if k.rank < int.rank then int else k

/-- The least and the greatest value of a signed type of rank `int` or more. -/
def signedRange? (k : IntegerKind) : Option (Int × Int) :=
  if k.isSigned && int.rank ≤ k.rank then
    let half := Nat.pow 2 (8 * k.size - 1)
    some (-half, half - 1)
  else none

/-- The greatest value of an unsigned type of rank `int` or more. -/
def unsignedMax? (k : IntegerKind) : Option Int :=
  if !k.isSigned && int.rank ≤ k.rank then some (Nat.pow 2 (8 * k.size) - 1) else none

def holdsAll (signed unsigned : IntegerKind) : Bool :=
  match signed.signedRange?, unsigned.unsignedMax? with
  | some (_, high), some max => high ≥ max
  | _, _ => false

def toUnsigned : IntegerKind → IntegerKind
  | int => unsignedInt
  | long => unsignedLong
  | longLong => unsignedLongLong
  | int128 => unsignedInt128
  | k => k

def mixedCommon (signed unsigned : IntegerKind) : IntegerKind :=
  if unsigned.rank ≥ signed.rank then unsigned
  else if signed.holdsAll unsigned then signed
  else signed.toUnsigned

def promotedCommon (left right : IntegerKind) : IntegerKind :=
  if left = right then left
  else if left.isSigned = right.isSigned then if left.rank ≥ right.rank then left else right
  else if left.isSigned then mixedCommon left right
  else mixedCommon right left

def common (left right : IntegerKind) : IntegerKind :=
  promotedCommon left.promoted right.promoted

def type (k : IntegerKind) : CType := CType.ofName k.name

end IntegerKind

namespace CType

def integerKind? (t : CType) : Option IntegerKind :=
  if t.ops.isEmpty then IntegerKind.ofName? t.name else none

def isInteger (t : CType) : Bool := t.integerKind?.isSome

def isFloating (t : CType) : Bool :=
  t.ops.isEmpty && ["float", "double", "long double"].contains t.name

def isArithmetic (t : CType) : Bool := t.isInteger || t.isFloating

def isScalar (t : CType) : Bool := t.isArithmetic || t.isPointer

def isConst (t : CType) : Bool := t.qualifiers.contains "const"

def unqualified (t : CType) : CType :=
  if t.qualifiers.isEmpty then t else ⟨t.name, t.ops, [], false⟩

def isSigned (t : CType) : Bool := t.integerKind?.any (·.isSigned)

def promoted (t : CType) : CType :=
  match t.integerKind? with
  | some k => k.promoted.type
  | none => t.unqualified

/-- Whether the first type, signed, holds every value of the second, unsigned. -/
def holdsAll (signed unsigned : CType) : Bool :=
  match signed.integerKind?, unsigned.integerKind? with
  | some s, some u => s.holdsAll u
  | _, _ => false

def commonFloating (left right : CType) : CType :=
  if left.name = "long double" || right.name = "long double" then longDouble
  else if left.name = "double" || right.name = "double" then ofName "double"
  else ofName "float"

/-- The common type of two operands in arithmetic. One floating operand is enough to make it
    floating. -/
def common? (left right : CType) : Option CType :=
  if left.isFloating || right.isFloating then some (commonFloating left right)
  else
    match left.integerKind?, right.integerKind? with
    | some l, some r => some (l.common r).type
    | _, _ => none

end CType

end CCompiler

namespace CCompiler.CType

/-! ## 3. Compatibility of types

Which values may be assigned to which objects, by their types alone.
-/

def isVoidPointer (t : CType) : Bool :=
  t.pointee?.any fun p => p.ops.isEmpty && p.name == "void"

def isObjectPointer (t : CType) : Bool := t.pointee?.any fun p => !p.isFunction

/-- Whether two types are alike, qualifiers aside. -/
def alike (a b : CType) : Bool := a.name == b.name && sameOps a.ops b.ops

def mergedQualifiers (a b : CType) : List String :=
  (a.qualifiers ++ b.qualifiers).foldl (fun seen q => if seen.contains q then seen else seen ++ [q]) []

def qualifiersContain (target value : CType) : Bool :=
  value.qualifiers.all target.qualifiers.contains

def nestedMismatch (a b : CType) : Bool := a.isPointer && a.qualifiers != b.qualifiers

/-- Whether a pointer converts to another without a cast, `void` aside. -/
def pointerConverts (target value : CType) : Bool :=
  match target.pointee?, value.pointee? with
  | some t, some v => t.alike v && t.qualifiersContain v && !t.nestedMismatch v
  | _, _ => false

/-- Whether a value of one type may be assigned to an object of another. -/
def assignable (target value : CType) : Bool :=
  target == value || (target.isArithmetic && value.isArithmetic) || match target.pointee?, value.pointee? with
    | some t, some v =>
      target.pointerConverts value
        || (if target.isVoidPointer then value.isObjectPointer && t.qualifiersContain v
            else value.isVoidPointer && target.isObjectPointer && t.qualifiersContain v)
    | _, _ => false

def pointToAlikeObjects (left right : CType) : Bool :=
  match left.pointee?, right.pointee? with
  | some l, some r =>
    l.name != "void" && r.name != "void" && !l.isFunction && !r.isFunction && !l.nestedMismatch r
      && l.alike r
  | _, _ => false

def equalityComparable (left right : CType) : Bool := left.assignable right || right.assignable left

/-- The type of a conditional expression whose branches are two pointers. -/
def conditionalPointer? (thenType elseType : CType) : Option CType :=
  match thenType.pointee?, elseType.pointee? with
  | some t, some e =>
    let qualifiers := t.mergedQualifiers e
    if t.alike e && !t.nestedMismatch e then some ⟨thenType.name, thenType.ops, qualifiers, false⟩
    else if thenType.isVoidPointer && elseType.isObjectPointer then
      some ⟨"void", thenType.ops, qualifiers, false⟩
    else if elseType.isVoidPointer && thenType.isObjectPointer then
      some ⟨"void", elseType.ops, qualifiers, false⟩
    else none
  | _, _ => none

end CCompiler.CType

namespace CCompiler

structure RecordMember where
  name : Option String
  type : CType
  alignment : Option Int := none
  bitWidth : Option Int := none
deriving BEq

/-- A record that contains itself. -/
inductive Cyclic where
  | cyclic
deriving Repr, DecidableEq

/-- The record definitions seen so far, in the order of their definition. -/
abbrev RecordTable := List (String × List RecordMember)

def isRecordName (name : String) : Bool := name.startsWith "struct " || name.startsWith "union "

def CType.isRecord (t : CType) : Bool := t.ops.isEmpty && isRecordName t.name

/-- An unnamed member whose own members are members of the record around it. -/
def RecordMember.isAnonymousRecord (m : RecordMember) : Bool :=
  m.name.isNone && m.bitWidth.isNone && m.type.isRecord

namespace RecordTable

variable (table : RecordTable)

def members? (name : String) : Option (List RecordMember) := table.lookup name

def baseSize? (name : String) : Option Int :=
  match IntegerKind.ofName? name with
  | some k => some k.size
  | none => [("float", (4 : Int)), ("double", 8), ("long double", 16)].lookup name

/-! ## 4. Sizes and alignments -/

/-- The size of a derived type, from the size of its base. With a limit, an array that exceeds it has
    the size one above it. -/
def sizeOfOps (base : Option Int → Except Cyclic (Option Int)) (limit : Option Int) :
    List TypeOp → Except Cyclic (Option Int)
  | [] => base limit
  | .pointer :: _ => return some 8
  | .unprototyped _ :: _ | .function _ _ :: _ => return none
  | .array n :: rest => do
    if n ≤ 0 then return none
    match ← sizeOfOps base limit rest with
    | none => return none
    | some size =>
      match limit with
      | some l => if size > Int.fdiv l n then return some (l + 1) else return some (size * n)
      | none => return some (size * n)

/-- The sum of the sizes of members, cut off above a limit. -/
def structSize (sizeOf : CType → Option Int → Except Cyclic (Option Int)) (limit : Option Int) :
    Int → List RecordMember → Except Cyclic (Option Int)
  | total, [] => return some total
  | total, m :: rest => do
    match ← sizeOf m.type (limit.map (· - total)) with
    | none => return none
    | some size =>
      match limit with
      | some l => if total + size > l then return some (l + 1) else structSize sizeOf limit (total + size) rest
      | none => structSize sizeOf limit (total + size) rest

/-- The greatest of the sizes of members, cut off above a limit. -/
def unionSize (sizeOf : CType → Option Int → Except Cyclic (Option Int)) (limit : Option Int) :
    Int → List RecordMember → Except Cyclic (Option Int)
  | largest, [] => return some largest
  | largest, m :: rest => do
    match ← sizeOf m.type limit with
    | none => return none
    | some size =>
      let largest := max largest size
      match limit with
      | some l => if largest > l then return some (l + 1) else unionSize sizeOf limit largest rest
      | none => unionSize sizeOf limit largest rest

def sizeWithin : Nat → CType → Option Int → Except Cyclic (Option Int)
  | 0, _, _ => .error .cyclic
  | depth + 1, t, limit =>
    sizeOfOps (fun limit =>
      match baseSize? t.name with
      | some size => return some size
      | none =>
        if isRecordName t.name then
          match table.members? t.name with
          | none => return none
          | some members =>
            if t.name.startsWith "struct " then structSize (sizeWithin depth) limit 0 members
            else unionSize (sizeWithin depth) limit 0 members
        else return none) limit t.ops

def size? (t : CType) (limit : Option Int) : Except Cyclic (Option Int) :=
  table.sizeWithin (table.length + 2) t limit

/-- The base of a type and whether an object of the type needs its alignment: the alignment of a
    derived type is that of a pointer, of its base, or there is none. -/
def alignOfOps (base : Except Cyclic (Option Int)) : List TypeOp → Except Cyclic (Option Int)
  | [] => base
  | .pointer :: _ => return some 8
  | .unprototyped _ :: _ | .function _ _ :: _ => return none
  | .array _ :: rest => alignOfOps base rest

def membersAlign (alignOf : CType → Except Cyclic (Option Int)) : Int → List RecordMember → Except Cyclic (Option Int)
  | largest, [] => return some largest
  | largest, m :: rest => do
    match ← alignOf m.type with
    | none => return none
    | some align =>
      let align := match m.alignment with
        | some a => max align a
        | none => align
      membersAlign alignOf (max largest align) rest

def alignWithin : Nat → CType → Except Cyclic (Option Int)
  | 0, _ => .error .cyclic
  | depth + 1, t =>
    alignOfOps ( match baseSize? t.name with
      | some size => return some size
      | none =>
        if isRecordName t.name then
          match table.members? t.name with
          | none => return none
          | some members => membersAlign (alignWithin depth) 1 members
        else return none) t.ops

def align? (t : CType) : Except Cyclic (Option Int) := table.alignWithin (table.length + 2) t

/-! ## 5. Members -/

/-- The names that members bring into the record around them, with their types. Anonymous records
    bring in those of their own members. -/
def hoisted (inner : String → Except Cyclic (List (String × CType))) :
    List RecordMember → Except Cyclic (List (String × CType))
  | [] => return []
  | m :: rest => do
    let more ← hoisted inner rest
    match m.name with
    | some name => return (name, m.type) :: more
    | none => if m.isAnonymousRecord then return (← inner m.type.name) ++ more else return more

/-- The names that the members of a record bring in, where records nest at most so deep. -/
def hoistedWithin : Nat → String → Except Cyclic (List (String × CType))
  | 0, _ => .error .cyclic
  | depth + 1, name =>
    match table.members? name with
    | none => return []
    | some members => hoisted (hoistedWithin depth) members

/-- The names visible in a record with their types and the position of the member that brings each
    in; none if the record is not defined. -/
def visible? (name : String) : Except Cyclic (Option (List (String × CType × Nat))) :=
  match table.members? name with
  | none => return none
  | some members => do
    let groups ← members.zipIdx.mapM fun (m, index) => do
      let names ← hoisted (table.hoistedWithin (table.length + 1)) [m]
      return names.map fun (name, type) => (name, type, index)
    return some groups.flatten

/-- Whether the type is a pointer to an object whose size is known. -/
def isCompletePointer (t : CType) : Bool :=
  t.pointee?.any fun p =>
    p.name != "void" && !p.isFunction && !(isRecordName p.name && (table.members? p.name).isNone)

def sumType? (left right : CType) : Option CType :=
  match left.common? right with
  | some t => some t
  | none =>
    if table.isCompletePointer left && right.isInteger then some left
    else if table.isCompletePointer right && left.isInteger then some right
    else none

def differenceType? (left right : CType) : Option CType :=
  match left.common? right with
  | some t => some t
  | none =>
    if table.isCompletePointer left && right.isInteger then some left
    else if left.pointToAlikeObjects right then some .int
    else none

end RecordTable

end CCompiler
