import CCompiler.Proofs.Grammar.Reading

/-!
# Writing expressions

Every expression is written with parentheses where the grammar of C11 needs them and nowhere else. A place
of the grammar asks for an expression of some level, from 0, where any expression may stand, to 15, where
only a name, a constant or something in parentheses may.

* `Expr.level` -- the level of an expression, by its outermost operator;
* `Expr.words`, `Expr.wordsAt` -- how an expression is written, by itself and at a place;
* `Expressible` -- the expressions that are written so;
* `Stops` -- the tokens that cannot continue an expression of some level.
-/
namespace CCompiler

theorem UnaryOp.ofText_text : ∀ op ∈ UnaryOp.all, UnaryOp.ofText op.text = op := by decide

theorem BinaryOp.ofText_text : ∀ op ∈ BinaryOp.all, BinaryOp.ofText op.text = op := by decide

theorem AssignOp.ofText_text : ∀ op ∈ AssignOp.all, AssignOp.ofText op.text = op := by decide

/-- The level of a binary operator: from `||`, the weakest, to the multiplicative ones. -/
def BinaryOp.level : BinaryOp → Nat
  | .logicalOr => 3
  | .logicalAnd => 4
  | .arith .bitOr => 5
  | .arith .bitXor => 6
  | .arith .bitAnd => 7
  | .relation .eq | .relation .ne => 8
  | .relation _ => 9
  | .arith .shl | .arith .shr => 10
  | .arith .add | .arith .sub => 11
  | .arith _ => 12
  | .other _ => 15

namespace Expr

/-- The level of an expression: comma 0, assignment 1, conditional 2, binary operators 3 to 12, prefix
    operators 13, postfix operators 14, everything else 15. -/
def level : Expr Unit → Nat
  | .comma .. => 0
  | .assign .. => 1
  | .conditional .. => 2
  | .binary _ op _ _ => op.level
  | .unary .. => 13
  | .update _ _ _ isPostfix => if isPostfix then 14 else 13
  | .call .. | .subscript .. | .member .. => 14
  | _ => 15

/-- The words of an expression at a place that asks for a level. -/
def grouped (k : Nat) (e : Expr Unit) (words : List Word) : List Word :=
  if e.level < k then punct "(" :: (words ++ [punct ")"]) else words

mutual

/-- The words of an expression. -/
def words : Expr Unit → List Word
  | .int _ text => [(.intConst, text)]
  | .ident _ name => [(.identifier, name)]
  | .unary _ op e => punct op.text :: e.grouped 13 e.words
  | .update _ op e false => punct op.text :: e.grouped 13 e.words
  | .update _ op e true => e.grouped 14 e.words ++ [punct op.text]
  | .binary _ op l r => l.grouped op.level l.words ++ punct op.text :: r.grouped (op.level + 1) r.words
  | .assign _ op t v => t.grouped 13 t.words ++ punct op.text :: v.grouped 1 v.words
  | .conditional _ c t e =>
    c.grouped 3 c.words ++ punct "?" :: (t.words ++ punct ":" :: e.grouped 2 e.words)
  | .comma _ l r => l.words ++ punct "," :: r.grouped 1 r.words
  | .call _ f args => f.grouped 14 f.words ++ punct "(" :: (argumentWords args ++ [punct ")"])
  | .subscript _ b i => b.grouped 14 b.words ++ punct "[" :: (i.words ++ [punct "]"])
  | .member _ b name throughPointer =>
    b.grouped 14 b.words ++ [punct (if throughPointer then "->" else "."), (.identifier, name)]
  | _ => []

/-- The words of arguments, with commas between them. -/
def argumentWords : List (Expr Unit) → List Word
  | [] => []
  | a :: rest => a.grouped 1 a.words ++ moreWords rest

/-- The words of further arguments. -/
def moreWords : List (Expr Unit) → List Word
  | [] => []
  | a :: rest => punct "," :: (a.grouped 1 a.words ++ moreWords rest)

end

-- made here, the equations are at hand for every proof that follows
attribute [local simp] words argumentWords moreWords

/-- The words of an expression at a place that asks for a level. -/
def wordsAt (k : Nat) (e : Expr Unit) : List Word := e.grouped k e.words

theorem wordsAt_of_lt {k : Nat} {e : Expr Unit} (h : e.level < k) :
    e.wordsAt k = punct "(" :: (e.words ++ [punct ")"]) := if_pos h

theorem wordsAt_of_le {k : Nat} {e : Expr Unit} (h : k ≤ e.level) : e.wordsAt k = e.words :=
  if_neg (Nat.not_lt.mpr h)

@[simp] theorem wordsAt_zero (e : Expr Unit) : e.wordsAt 0 = e.words := wordsAt_of_le (Nat.zero_le _)

end Expr

namespace Grammar

/-- The identifiers that stand for objects and functions. -/
structure IsName (names : Names) (name : String) : Prop where
  whole : Whole (.identifier, name)
  ordinary : names.isTypedef name = false
  notOffsetof : name ≠ "__builtin_offsetof"
  notIgnored : name ≠ "__unaligned"

instance (names : Names) (name : String) : Decidable (IsName names name) :=
  decidable_of_iff (Whole (.identifier, name) ∧ names.isTypedef name = false ∧
    name ≠ "__builtin_offsetof" ∧ name ≠ "__unaligned")
    ⟨fun ⟨hw, ho, hb, hi⟩ => ⟨hw, ho, hb, hi⟩, fun ⟨hw, ho, hb, hi⟩ => ⟨hw, ho, hb, hi⟩⟩

/-- The expressions over names, integer constants and the operators of C, without casts. -/
inductive Expressible (names : Names) : Expr Unit → Prop where
  | int {text} (h : Whole (.intConst, text)) : Expressible names (.int () text)
  | ident {name} (h : IsName names name) : Expressible names (.ident () name)
  | unary {op e} (hop : op ∈ UnaryOp.all) (he : Expressible names e) : Expressible names (.unary () op e)
  | update {op e isPostfix} (hop : op = .increment ∨ op = .decrement)
      (he : Expressible names e) : Expressible names (.update () op e isPostfix)
  | binary {op l r} (hop : op ∈ BinaryOp.all) (hl : Expressible names l)
      (hr : Expressible names r) : Expressible names (.binary () op l r)
  | assign {op t v} (hop : op ∈ AssignOp.all) (ht : Expressible names t)
      (hv : Expressible names v) : Expressible names (.assign () op t v)
  | conditional {c t e} (hc : Expressible names c) (ht : Expressible names t)
      (he : Expressible names e) : Expressible names (.conditional () c t e)
  | comma {l r} (hl : Expressible names l) (hr : Expressible names r) : Expressible names (.comma () l r)
  | call {f args} (hf : Expressible names f)
      (ha : ∀ a ∈ args, Expressible names a) : Expressible names (.call () f args)
  | subscript {b i} (hb : Expressible names b) (hi : Expressible names i) : Expressible names (.subscript () b i)
  | member {b name throughPointer} (hb : Expressible names b)
      (hn : Whole (.identifier, name)) : Expressible names (.member () b name throughPointer)

/-- The punctuators that continue an expression, each with the level that it continues. -/
def continuations : List (Nat × String) :=
  (0, ",") :: (2, "?") :: (AssignOp.all.map fun op => (1, op.text)) ++
    (BinaryOp.all.map fun op => (op.level, op.text)) ++
    ["(", "[", ".", "->", "++", "--"].map fun text => (14, text)

/-- A token does not continue an expression of some level or of a stronger one. -/
def Stops (k : Nat) (t : Token) : Prop := ∀ p ∈ continuations, k ≤ p.1 → t.isPunct p.2 = false

variable {k j : Nat} {t : Token}

theorem Stops.mono (h : Stops k t) (hkj : k ≤ j) : Stops j t :=
  fun p hp hj => h p hp (Nat.le_trans hkj hj)

/-- A punctuator stops all levels that are stronger than those it continues. -/
theorem stops_punct (ht : t.word = punct text) (h : ∀ p ∈ continuations, p.2 = text → p.1 < k) : Stops k t := by
  intro p hp hk
  rw [Token.isPunct_punct ht, beq_eq_false_iff_ne]
  intro heq
  exact Nat.not_lt.mpr hk (h p hp heq.symm)

theorem Stops.binary (h : Stops k t) (hi : i < 10) (hk : k ≤ i + 3) :
    (binaryLevels.getD i []).any t.isPunct = false := by
  have htable : ∀ i < 10, ∀ s ∈ binaryLevels.getD i [], (i + 3, s) ∈ continuations := by decide
  rw [List.any_eq_false]
  intro s hs
  rw [h (i + 3, s) (htable i hi s hs) hk]
  exact Bool.false_ne_true

theorem Stops.assignment (h : Stops k t) (hk : k ≤ 1) : assignmentOperators.any t.isPunct = false := by
  have htable : ∀ s ∈ assignmentOperators, (1, s) ∈ continuations := by decide
  rw [List.any_eq_false]
  intro s hs
  rw [h (1, s) (htable s hs) hk]
  exact Bool.false_ne_true

/-- A binary operator is one of those of its level. -/
theorem binaryOp_level : ∀ op ∈ BinaryOp.all, 3 ≤ op.level ∧ op.level < 13 ∧
    op.text ∈ binaryLevels.getD (op.level - 3) [] := by decide

theorem binaryOp_stops : ∀ op ∈ BinaryOp.all, ∀ p ∈ continuations, p.2 = op.text → p.1 < op.level + 1 := by decide

theorem assignOp_stops : ∀ op ∈ AssignOp.all, ∀ p ∈ continuations, p.2 = op.text → p.1 < 2 := by
  decide

end Grammar

end CCompiler
