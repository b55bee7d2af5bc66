import CCompiler.Condition.Word
import CCompiler.Syntax.Basic

/-!
# Values of conditions

The grammar of the words of a condition, from the weakest binding to the strongest:

    term        = disjunction ["if" disjunction "else" term]
    disjunction = conjunction ("or" conjunction)*
    conjunction = negation ("and" negation)*
    negation    = "not" negation | comparison
    comparison  = bits (relation bits)*
    bits        = the arithmetic operators, level by level
    factor      = ("+" | "-" | "~") factor | operand
    operand     = (value | quotation+ | "(" term ")" | "(" ")") ("(" [["*"] term] ")")*

A name of a condition is a value by now, so a parenthesis behind an operand is a call of something that
cannot be called. A quotation is a character literal without characters.

A condition is computed in words of 64 bits. A word is signed or unsigned; an operator with an unsigned
operand takes both as unsigned and its result wraps around, while a signed result that does not fit is
refused. Division and remainder round down. The same terms can be computed in unbounded integers, which
know neither unsigned values nor choices.
-/
namespace CCompiler.Condition

inductive Term where
  | number (value : Nat)
  | unsigned (t : Term)
  | unary (op : UnaryOp) (t : Term)
  | arith (op : ArithOp) (left right : Term)
  | relation (op : Relation) (left right : Term)
  | comparisons (count : Nat)
  | both (left right : Term)
  | either (left right : Term)
  | choice (condition first second : Term)
  | call
  | empty
  | quotation
deriving Repr, DecidableEq, Inhabited

namespace Term

abbrev Reader (α : Type) := List Word → Option (α × List Word)

/-! ## 1. Terms -/

/-- The levels of arithmetic operators, from the weakest binding to the strongest. -/
def levels : List (List (String × ArithOp)) :=
  [[("|", .bitOr)], [("^", .bitXor)], [("&", .bitAnd)], [("<<", .shl), (">>", .shr)],
   [("+", .add), ("-", .sub)], [("*", .mul), ("//", .div), ("%", .rem)]]

def relation? : Word → Option Relation
  | .mark text => Relation.all.find? (·.text == text)
  | _ => none

def operator? (level : List (String × ArithOp)) : Word → Option ArithOp
  | .mark text => level.lookup text
  | _ => none

def sign? : Word → Option UnaryOp
  | .mark "+" => some .plus
  | .mark "-" => some .minus
  | .mark "~" => some .complement
  | _ => none

def chainRest {α β : Type} (operator? : Word → Option β) (combine : β → α → α → α)
    (operand : Reader α) : Nat → α → Reader α
  | 0, _, _ => none
  | fuel + 1, left, words =>
    match words with
    | [] => some (left, [])
    | word :: rest =>
      match operator? word with
      | none => some (left, words)
      | some op =>
        match operand rest with
        | none => none
        | some (right, behind) => chainRest operator? combine operand fuel (combine op left right) behind

/-- Reads a chain of operands with operators between them, grouped from the left. -/
def chain {α β : Type} (operator? : Word → Option β) (combine : β → α → α → α)
    (operand : Reader α) : Reader α := fun words =>
  match operand words with
  | none => none
  | some (left, behind) => chainRest operator? combine operand (behind.length + 1) left behind

def mark? (text : String) (word : Word) : Option Unit := if word = .mark text then some () else none

structure Compared where
  count : Nat
  term : Term

/-- Puts one more relation behind a comparison; more than one in a row have no meaning. -/
def Compared.extend (op : Relation) (left right : Compared) : Compared :=
  if left.count = 0 then ⟨1, .relation op left.term right.term⟩
  else ⟨left.count + 1, .comparisons (left.count + 1)⟩

def group (term : Reader Term) : Reader Term
  | .mark ")" :: rest => some (.empty, rest)
  | words =>
    match term words with
    | some (t, .mark ")" :: rest) => some (t, rest)
    | _ => none

/-- The words behind the arguments of a call and its closing parenthesis. -/
def behindArguments (term : Reader Term) (words : List Word) : Option (List Word) :=
  match words with
  | .mark ")" :: rest => some rest
  | _ =>
    let words := match words with
      | .mark "*" :: rest => rest
      | _ => words
    match term words with
    | some (_, .mark ")" :: rest) => some rest
    | _ => none

def calls (term : Reader Term) : Nat → Term → Reader Term
  | 0, _, _ => none
  | fuel + 1, _, .mark "(" :: rest =>
    match behindArguments term rest with
    | none => none
    | some behind => calls term fuel .call behind
  | _ + 1, t, words => some (t, words)

def isQuotation : Word → Bool
  | .mark text => (Text.quotation? text.toList).isSome
  | _ => false

def operand (term : Reader Term) : Reader Term := fun words =>
  let found := match words with
    | .number value :: rest => some (Term.number value, rest)
    | .unsigned value :: rest => some (.unsigned (.number value), rest)
    | .mark "(" :: rest => group term rest
    | word :: rest => if isQuotation word then some (.quotation, rest.dropWhile isQuotation) else none
    | [] => none
  match found with
  | none => none
  | some (t, behind) => calls term (behind.length + 1) t behind

def factor (term : Reader Term) : Reader Term
  | [] => none
  | word :: rest =>
    match sign? word with
    | some op => (factor term rest).map fun (t, behind) => (.unary op t, behind)
    | none => operand term (word :: rest)

def arithmetic (term : Reader Term) : List (List (String × ArithOp)) → Reader Term
  | [] => factor term
  | level :: rest => chain (operator? level) (fun op l r => .arith op l r) (arithmetic term rest)

def comparison (term : Reader Term) : Reader Term := fun words =>
  let side : Reader Compared := fun words =>
    (arithmetic term levels words).map fun (t, behind) => (⟨0, t⟩, behind)
  (chain relation? Compared.extend side words).map fun (c, behind) => (c.term, behind)

def negation (term : Reader Term) : Reader Term
  | [] => none
  | word :: rest =>
    if word = .mark "not" then
      (negation term rest).map fun (t, behind) => (.unary .logicalNot t, behind)
    else comparison term (word :: rest)

def conjunction (term : Reader Term) : Reader Term :=
  chain (mark? "and") (fun _ l r => .both l r) (negation term)

def disjunction (term : Reader Term) : Reader Term :=
  chain (mark? "or") (fun _ l r => .either l r) (conjunction term)

/-- Reads a term whose parentheses and branches go no deeper than a bound. -/
def read : Nat → Reader Term
  | 0, _ => none
  | depth + 1, words =>
    match disjunction (read depth) words with
    | some (first, .mark "if" :: rest) =>
      match disjunction (read depth) rest with
      | some (condition, .mark "else" :: rest) =>
        (read depth rest).map fun (second, behind) => (.choice condition first second, behind)
      | _ => none
    | result => result

def nestingLimit : Nat := 200

/-- Whether parentheses stand deeper in one another than allowed, where some are open. -/
def exceedsNesting (opened : Nat) : List Word → Bool
  | [] => false
  | .mark "(" :: rest => opened ≥ nestingLimit || exceedsNesting (opened + 1) rest
  | .mark ")" :: rest => exceedsNesting (opened - 1) rest
  | .unsigned _ :: rest => opened ≥ nestingLimit || exceedsNesting opened rest
  | _ :: rest => exceedsNesting opened rest

def hasNull : Word → Bool
  | .mark text => text.toList.contains '\x00'
  | _ => false

def ofWords (words : List Word) : Except Fault Term :=
  if words.any hasNull then .error .nullCharacter
  else if exceedsNesting 0 words then .error .invalidExpression
  else
    match read (words.length + 1) words with
    | some (t, []) => .ok t
    | _ => .error .invalidExpression

end Term

/-! ## 2. Words -/

def shiftLeft (left right : Int) : Except Fault Int :=
  if right < 0 then .error .negativeShift
  else (Number.shiftLeft left right.toNat).mapError .number

def shiftRight (left right : Int) : Except Fault Int :=
  if right < 0 then .error .negativeShift
  else .ok (Bits.shiftRight left right.toNat)

def ofArith (op : ArithOp) (left right : Int) : Except Fault Int :=
  match op with
  | .add => .ok (left + right)
  | .sub => .ok (left - right)
  | .mul => .ok (left * right)
  | .div => if right = 0 then .error .divisionByZero else .ok (left.fdiv right)
  | .rem => if right = 0 then .error .remainderByZero else .ok (left.fmod right)
  | .shl => shiftLeft left right
  | .shr => shiftRight left right
  | .bitAnd => .ok (Bits.and left right)
  | .bitXor => .ok (Bits.xor left right)
  | .bitOr => .ok (Bits.or left right)

def holds (op : Relation) (left right : Int) : Bool :=
  match op with
  | .lt => left < right
  | .le => left ≤ right
  | .gt => left > right
  | .ge => left ≥ right
  | .eq => left = right
  | .ne => left ≠ right

def ofBool (b : Bool) : Int := if b then 1 else 0

structure Value where
  value : Int
  isUnsigned : Bool := false
deriving Repr, DecidableEq, Inhabited

namespace Value

def asUnsigned (v : Value) : Int := v.value % 0x10000000000000000

/-- The value brought into the range of its words: an unsigned one wraps around, a signed one that does
    not fit is refused. -/
def normalize (v : Value) : Except Fault Value :=
  if v.isUnsigned then .ok ⟨v.asUnsigned, true⟩
  else if v.value < -0x8000000000000000 ∨ v.value > 0x7FFFFFFFFFFFFFFF then .error .overflow
  else .ok v

/-- The values of two operands under the usual conversions, and whether they are unsigned. -/
def convert (left right : Value) : Int × Int × Bool :=
  if left.isUnsigned || right.isUnsigned then (left.asUnsigned, right.asUnsigned, true)
  else (left.value, right.value, false)

/-- The result of shifting a word to the left: if there is room for it, a count of 64 or more leaves
    nothing of an unsigned word and does not fit a signed one. -/
def shiftedLeft (left right : Int) (isUnsigned : Bool) : Except Fault Value := do
  if right ≥ 64 ∧ left ≠ 0 then
    (Number.room left right.toNat).mapError .number
    if isUnsigned then return ⟨0, true⟩ else throw .overflow
  else (⟨← shiftLeft left right, isUnsigned⟩ : Value).normalize

def arith (op : ArithOp) (left right : Value) : Except Fault Value :=
  let (l, r, isUnsigned) := convert left right
  match op with
  | .shl => shiftedLeft l r isUnsigned
  | op => do (⟨← ofArith op l r, isUnsigned⟩ : Value).normalize

def relation (op : Relation) (left right : Value) : Value :=
  let (l, r, _) := convert left right
  ⟨ofBool (holds op l r), false⟩

def unary (op : UnaryOp) (v : Value) : Except Fault Value :=
  match op with
  | .logicalNot => .ok ⟨ofBool (v.value = 0), false⟩
  | .minus => (⟨-v.value, v.isUnsigned⟩ : Value).normalize
  | .complement => (⟨Bits.not v.value, v.isUnsigned⟩ : Value).normalize
  | _ => v.normalize

/-- The value of a literal: unsigned if it does not fit a signed word. -/
def ofNumber (n : Nat) : Except Fault Value :=
  if n > unsignedMax then .error .overflow else .ok ⟨n, n > signedMax⟩

/-- The value of a choice from its branch and what the other branch came to: unsigned if one of the
    branches is. Only a lack of room in the other branch is a fault of the choice. -/
def chosen (result : Value) (other : Except Fault Value) : Except Fault Value := do
  let isUnsigned ← match other with
    | .ok v => pure (result.isUnsigned || v.isUnsigned)
    | .error fault => if fault.isOfExpression then pure result.isUnsigned else throw fault
  return if isUnsigned then ⟨result.asUnsigned, true⟩ else result

end Value

/-- The value of a term in words. Of a choice both branches are computed. -/
def Term.value : Term → Except Fault Value
  | .number n => Value.ofNumber n
  | .unsigned t => do return ⟨(← t.value).asUnsigned, true⟩
  | .unary op t => do Value.unary op (← t.value)
  | .arith op left right => do
    let l ← left.value
    let r ← right.value
    Value.arith op l r
  | .relation op left right => do
    let l ← left.value
    let r ← right.value
    return Value.relation op l r
  | .comparisons count => .error (.unsupported .words (.comparisons count))
  | .both left right => do
    if (← left.value).value = 0 then return ⟨0, false⟩
    return ⟨ofBool ((← right.value).value ≠ 0), false⟩
  | .either left right => do
    if (← left.value).value ≠ 0 then return ⟨1, false⟩
    return ⟨ofBool ((← right.value).value ≠ 0), false⟩
  | .choice condition first second => do
    if (← condition.value).value ≠ 0 then (← first.value).chosen second.value
    else (← second.value).chosen first.value
  | .call => .error (.unsupported .words .call)
  | .empty => .error (.unsupported .words .empty)
  | .quotation => .error (.unsupported .words .text)

/-! ## 3. Unbounded integers -/

def ofUnary (op : UnaryOp) (n : Int) : Int :=
  match op with
  | .logicalNot => ofBool (n = 0)
  | .minus => -n
  | .complement => Bits.not n
  | _ => n

def Term.integer : Term → Except Fault Int
  | .number n => .ok n
  | .unsigned _ => .error (.unsupported .unbounded .call)
  | .unary op t => do return ofUnary op (← t.integer)
  | .arith op left right => do
    let l ← left.integer
    let r ← right.integer
    ofArith op l r
  | .relation op left right => do
    let l ← left.integer
    let r ← right.integer
    return ofBool (holds op l r)
  | .comparisons count => .error (.unsupported .unbounded (.comparisons count))
  | .both left right => do
    if (← left.integer) = 0 then return 0
    return ofBool ((← right.integer) ≠ 0)
  | .either left right => do
    if (← left.integer) ≠ 0 then return 1
    return ofBool ((← right.integer) ≠ 0)
  | .choice .. => .error (.unsupported .unbounded .choice)
  | .call => .error (.unsupported .unbounded .call)
  | .empty => .error (.unsupported .unbounded .empty)
  | .quotation => .error (.unsupported .unbounded .text)

/-- A fault as the caller of a condition sees it: a divisor of zero makes the expression invalid. -/
def Fault.ofCondition : Fault → Fault
  | .divisionByZero | .remainderByZero => .invalidExpression
  | fault => fault

def wordValue (words : List Word) : Except Fault Int := do
  let t ← Term.ofWords words
  match t.value with
  | .ok v => return v.value
  | .error fault => throw fault.ofCondition

def integerValue (words : List Word) : Except Fault Int := do (← Term.ofWords words).integer

end CCompiler.Condition
