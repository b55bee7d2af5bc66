import CCompiler.Codegen.Program
import CCompiler.Proofs.Codegen.Layout

/-!
# The code of all phrases

What the generator emits for a phrase of any types that it covers, as relations between the state before the
phrase, the phrase, its code and the state behind it. What is said of the emitted code later on is said by
induction on the phrase, case by case of these relations.

* `Yields` -- an action of the generator succeeds, and what its parts then give;
* `ExprGen`, `ArgsGen` -- the code of expressions and of the arguments of a call;
* `allEmitted`, `allEmittedStmt` -- whether all expressions that code is emitted for pass a test;
* `StmtGen`, `StmtsGen` -- the code of statements, with the places where a statement begins or ends;
* `exprCode_gen`, `stmtCode_gen` -- whatever the generator gives is such code;
* `ExprGen.calm`, `StmtGen.kept` -- what every phrase keeps: the scopes around it, and fresh labels;
* `functionCode_gen` -- the code of a function around the code of its body.
-/
namespace CCompiler.Codegen

open List
open Machine (Label Line Instr Reg Width)
open Machine.Line (instr label)

-- The equations of these recursions are needed in every case: they are made once, here.
attribute [local simp] exprCode stmtCode

/-! ## 1. Actions of generation -/

/-- An action of the generator succeeds with a result and a state behind it. -/
def Yields {β : Type} (scene : Scene) (st : State) (x : Gen β) (r : β × State) : Prop := x scene st = .ok r

namespace Yields

variable {β γ : Type} {scene : Scene} {st st' : State} {x : Gen β} {f : β → Gen γ} {r : γ × State}

/-- **A generation in two parts succeeds when both parts do.** -/
theorem bind (h : Yields scene st (x >>= f) r) :
    ∃ b st1, Yields scene st x (b, st1) ∧ Yields scene st1 (f b) r := by
  obtain ⟨p, hx, hf⟩ := run_bind.mp h
  exact ⟨p.1, p.2, hx, hf⟩

theorem pure {b : β} {r : β × State} (h : Yields scene st (pure b) r) : r = (b, st) :=
  (Except.ok.inj h).symm

theorem given (h : Yields scene st (Pure.pure b >>= f) r) : Yields scene st (f b) r := h

theorem refuse (h : Yields scene st (refuse cause) r) : False := nomatch h

/-- What follows a refusal is never reached. -/
theorem guard {c : Prop} [Decidable c] (h : Yields scene st (if c then Codegen.refuse cause >>= g else y) r) : ¬c ∧ Yields scene st y r := by
  by_cases hc : c
  · rw [if_pos hc] at h
    exact h.refuse.elim
  · rw [if_neg hc] at h
    exact ⟨hc, h⟩

/-- A check outside the state succeeds with the state unchanged. -/
theorem lift {x : Except Failure β} (h : Yields scene st (liftM x >>= f) r) :
    ∃ b, x = .ok b ∧ Yields scene st (f b) r := by
  cases x with
  | error e => cases h
  | ok b => exact ⟨b, rfl, h⟩

theorem typeOf {f : CType → Gen γ} (h : Yields scene st (Gen.typeOf e >>= f) r) :
    ∃ t, scene.typeOf e.note = some t ∧ Yields scene st (f t) r := by
  obtain ⟨t, st1, h1, h2⟩ := h.bind
  obtain ⟨_, st2, h3, h4⟩ := h1.bind
  cases h3
  cases hn : scene.typeOf e.note with
  | none =>
    rw [hn] at h4
    cases h4
  | some u =>
    rw [hn] at h4
    cases h4.pure
    exact ⟨_, rfl, h2⟩

theorem newLabel {purpose : String} {f : Label → Gen γ} (h : Yields scene st (Gen.newLabel purpose >>= f) r) :
    Yields scene (st.labelled (st.labels + 1)) (f ⟨purpose, st.labels + 1⟩) r := h

theorem slot {name : String} {f : Option Slot → Gen γ} (h : Yields scene st (Gen.slot? name >>= f) r) :
    Yields scene st (f (slotOf st.scopes name)) r := h

theorem global {name : String} {f : Option GlobalObject → Gen γ}
    (h : Yields scene st (Gen.global? name >>= f) r) :
    Yields scene st (f (scene.globals.find? (·.name == name))) r := h

theorem declare {name : String} {f : Slot → Gen γ} (h : Yields scene st (Gen.declare name >>= f) r) :
    ∃ slot pending, st.pending = slot :: pending ∧ Yields scene (st.declared name slot pending) (f slot) r := by
  obtain ⟨slot, st1, h1, h2⟩ := h.bind
  obtain ⟨_, st2, h3, h4⟩ := h1.bind
  cases h3
  cases hp : st.pending with
  | nil =>
    rw [hp] at h4
    cases h4
  | cons first pending =>
    rw [hp] at h4
    cases h4
    exact ⟨_, pending, rfl, h2⟩

theorem inScope {b : β} (h : Yields scene st (Gen.inScope x) (b, st')) :
    ∃ st1, Yields scene st.opened x (b, st1) ∧ st' = st1.closed := by
  obtain ⟨⟨⟩, st1, h1, h2⟩ := h.bind
  cases h1
  obtain ⟨c, st2, h3, h4⟩ := h2.bind
  cases h4
  exact ⟨st2, h3, rfl⟩

end Yields

/-! ## 2. Pieces -/

/-- Converts register 0 between widths. -/
def conversion : Width → Width → List Instr
  | .word, .long => [.extend]
  | .long, .word => [.truncate]
  | .word, .word | .long, .long => []

/-- Puts register 0 on the stack as a long. -/
def spillInstrs : Width → List Instr
  | .word => [.extend, .growStack 16, .storeTop]
  | .long => [.growStack 16, .storeTop]

/-- Puts a value into register 0. -/
def immediateInstrs (w : Width) (value : Int) : List Instr :=
  match chunks w value with
  | [] => []
  | (low, _) :: rest =>
    .moveZero ⟨0, w⟩ low 0 ::
      (rest.filter (·.1 != 0)).map fun (chunk, shift) => .moveKeep ⟨0, w⟩ chunk shift

/-- Computes a sign or the complement of register 0. -/
def signInstrs (w : Width) : UnaryOp → List Instr
  | .minus => [.negate ⟨0, w⟩]
  | .complement => [.complement ⟨0, w⟩]
  | _ => []

/-- Whether an operator gives a number with a sign or a complement. -/
def isSign : UnaryOp → Bool
  | .plus | .minus | .complement => true
  | _ => false

/-- Computes an operator on registers 1 and 0 of some width; a shift takes its count in a width of its
    own. -/
def computeInstrs (op : ArithOp) (w count : Width) : List Instr :=
  match op with
  | .rem => [.operate .sdiv ⟨0, w⟩ ⟨1, w⟩ ⟨0, w⟩, .multiplySub ⟨0, w⟩ ⟨0, w⟩ ⟨1, w⟩ ⟨1, w⟩]
  | .shl | .shr => [.operate (operation op) ⟨0, w⟩ ⟨1, w⟩ ⟨0, count⟩]
  | _ => [.operate (operation op) ⟨0, w⟩ ⟨1, w⟩ ⟨0, w⟩]

/-- Adds or takes away one. -/
def stepInstr? (w : Width) : UpdateOp → Option Instr
  | .increment => some (.addOne ⟨0, w⟩)
  | .decrement => some (.subOne ⟨0, w⟩)
  | .other _ => none

/-- Whether an expression is a size or an alignment. -/
def isMeasure : Expr NodeId → Bool
  | .sizeofType .. | .alignofType .. | .sizeofExpr .. | .alignofExpr .. => true
  | _ => false

/-- The code of a conversion between types; there is nothing to do for `void`. -/
inductive Converts (source target : CType) : Code → Prop where
  | void (h : (target == .void) = true) : Converts source target []
  | widths (hs : widthOf source = .ok w) (ht : widthOf target = .ok w') :
      Converts source target (instrs (conversion w w'))

/-- The code that loads a named object. -/
inductive Loads (scene : Scene) (st : State) (name : String) : Code → CType → Prop where
  | slot {slot w} (hs : slotOf st.scopes name = some slot) (hw : widthOf slot.type = .ok w) :
      Loads scene st name (instrs [.loadSlot ⟨0, w⟩ slot.offset]) slot.type
  | global {object w} (hs : slotOf st.scopes name = none)
      (hg : scene.globals.find? (·.name == name) = some object) (hw : widthOf object.type = .ok w) :
      Loads scene st name (addressCode 9 (.symbol name) ++ instrs [.loadAt ⟨0, w⟩ 9]) object.type

/-- The code that stores register 0 into a named object. -/
inductive Stores (scene : Scene) (st : State) (name : String) (t : CType) : Code → Prop where
  | slot {slot w} (hs : slotOf st.scopes name = some slot)
      (hw : widthOf slot.type = .ok w) : Stores scene st name t (instrs [.storeSlot ⟨0, w⟩ slot.offset])
  | global {object w} (hs : slotOf st.scopes name = none)
      (hg : scene.globals.find? (·.name == name) = some object) (hw : widthOf t = .ok w) :
      Stores scene st name t (addressCode 9 (.symbol name) ++ instrs [.storeAt ⟨0, w⟩ 9])

/-! ## 3. Expressions -/

mutual

/-- The code of an expression and the type of the value that it leaves in register 0. -/
inductive ExprGen (scene : Scene) : State → Expr NodeId → Code → CType → State → Prop where
  | int
      (ht : scene.typeOf a = some t) (hn : integerValue text = .ok n) (hw : widthOf t = .ok w) :
      ExprGen scene st (.int a text) (instrs (immediateInstrs w n)) t st
  | char (hn : characterValue text = .ok n) :
      ExprGen scene st (.char a text) (instrs (immediateInstrs .word n)) .int st
  | string
      (ht : scene.typeOf a = some t) (hl : Gen.stringLabel text scene st = .ok (l, st')) :
      ExprGen scene st (.string a text) (addressCode 0 (.label l)) t st'
  | ident (h : Loads scene st name code t) : ExprGen scene st (.ident a name) code t st
  | sign (hop : isSign op = true)
      (h : ExprGen scene st operand code t st') (ht : scene.typeOf a = some result)
      (hc : Converts t result convert) (hw : op = .plus ∨ widthOf result = .ok w) :
      ExprGen scene st (.unary a op operand) (code ++ convert ++ instrs (signInstrs w op)) result st'
  | logicalNot (h : ExprGen scene st operand code t st') (hw : widthOf t = .ok w) :
      ExprGen scene st (.unary a .logicalNot operand)
        (code ++ instrs [.compareZero ⟨0, w⟩, .setIf .eq]) .int st'
  | logicalAnd
      (hl : ExprGen scene (st.labelled (st.labels + 2)) left leftCode t st1) (hw : widthOf t = .ok w)
      (hr : ExprGen scene st1 right rightCode t' st2) (hw' : widthOf t' = .ok w') :
      ExprGen scene st (.binary a .logicalAnd left right)
        (leftCode ++ [instr (.branchZero ⟨0, w⟩ ⟨"and_false", st.labels + 1⟩)] ++
          rightCode ++ [instr (.branchZero ⟨0, w'⟩ ⟨"and_false", st.labels + 1⟩)] ++
          verdictCode true ⟨"and_false", st.labels + 1⟩ ⟨"and_end", st.labels + 2⟩) .int st2
  | logicalOr
      (hl : ExprGen scene (st.labelled (st.labels + 2)) left leftCode t st1)
      (ht : scene.typeOf left.note = some u) (hw : widthOf u = .ok w)
      (hr : ExprGen scene st1 right rightCode t' st2) (ht' : scene.typeOf right.note = some u')
      (hw' : widthOf u' = .ok w') :
      ExprGen scene st (.binary a .logicalOr left right)
        (leftCode ++ [instr (.branchNonzero ⟨0, w⟩ ⟨"or_true", st.labels + 1⟩)] ++
          rightCode ++ [instr (.branchNonzero ⟨0, w'⟩ ⟨"or_true", st.labels + 1⟩)] ++
          verdictCode false ⟨"or_true", st.labels + 1⟩ ⟨"or_end", st.labels + 2⟩) .int st2
  | arith {st st1 st2 a op left right leftCode convert rightCode convert' tl tr t target w count}
      (hl : ExprGen scene st left leftCode tl st1) (ht : scene.typeOf a = some t)
      (hc : Converts tl t convert) (hw : widthOf t = .ok w) (hr : ExprGen scene st1 right rightCode tr st2)
      (htarget : if isShift (.arith op) = true then scene.typeOf right.note = some target else target = t)
      (hc' : Converts tr target convert') (hcount : widthOf target = .ok count)
      (hint : isMachineInteger t = true ∧ isMachineInteger target = true) :
      ExprGen scene st (.binary a (.arith op) left right)
        (leftCode ++ convert ++ instrs (spillInstrs w) ++ (rightCode ++ convert' ++ popCode 1) ++
          instrs (computeInstrs op w count)) t st2
  | relation {st st1 st2 a op left right leftCode convert rightCode convert' tl tr t w}
      (hl : ExprGen scene st left leftCode tl st1)
      (ht : operandType (.binary a (.relation op) left right) (.relation op) left right scene st1 =
        .ok (t, st1)) (hc : Converts tl t convert) (hw : widthOf t = .ok w)
      (hr : ExprGen scene st1 right rightCode tr st2) (hc' : Converts tr t convert') :
      ExprGen scene st (.binary a (.relation op) left right)
        (leftCode ++ convert ++ instrs (spillInstrs w) ++ (rightCode ++ convert' ++ popCode 1) ++
          instrs [.compare ⟨1, w⟩ ⟨0, w⟩, .setIf (condition op)]) .int st2
  | assign (ht : scene.typeOf b = some t)
      (h : ExprGen scene st value code u st') (hv : scene.typeOf value.note = some v)
      (hc : Converts v t convert) (hs : Stores scene st' name t store) :
      ExprGen scene st (.assign a .plain (.ident b name) value) (code ++ convert ++ store) t st'
  | assignOp {st st' a b op name value load code convert store t s u v w} (ht : scene.typeOf b = some t)
      (hint : isMachineInteger t = true) (hl : Loads scene st name load s) (hw : widthOf t = .ok w)
      (h : ExprGen scene st value code u st') (hv : scene.typeOf value.note = some v)
      (hc : Converts v t convert) (hs : Stores scene st' name t store) :
      ExprGen scene st (.assign a (.compound op) (.ident b name) value)
        (load ++ instrs (spillInstrs w) ++ (code ++ convert ++ popCode 1) ++
          instrs (computeInstrs op w w) ++ store) t st'
  | update {st a b op name load store t s w i} (ht : scene.typeOf a = some t) (hint : isMachineInteger t = true)
      (hl : Loads scene st name load s) (hw : widthOf t = .ok w) (hi : stepInstr? w op = some i)
      (hs : Stores scene st name t store) :
      ExprGen scene st (.update a op (.ident b name) false) (load ++ instrs [i] ++ store) t st
  | postUpdate (ht : scene.typeOf a = some t)
      (hint : isMachineInteger t = true) (hl : Loads scene st name load s) (hw : widthOf t = .ok w)
      (hi : stepInstr? w op = some i) (hs : Stores scene st name t store) :
      ExprGen scene st (.update a op (.ident b name) true)
        (load ++ instrs (spillInstrs w) ++ (instrs [i] ++ store ++ popCode 0)) t st
  | call (hf : scene.functions.lookup name = some f)
      (hmax : args.length ≤ maxArguments) (h : ArgsGen scene st args f.params pushes st')
      (hl : argumentLoads f.params scene st' = .ok (loads, st')) :
      ExprGen scene st (.call a (.ident b name) args)
        (pushes ++ loads ++ instrs [.call name] ++
          if args.isEmpty then [] else instrs [.shrinkStack (16 * args.length)]) f.returnType st'
  | comma (hl : ExprGen scene st left leftCode t st1)
      (hr : ExprGen scene st1 right rightCode t' st2) :
      ExprGen scene st (.comma a left right) (leftCode ++ rightCode) t' st2
  | conditional {st st1 st2 st3 a condition thenExpr elseExpr test thenCode thenConvert elseCode elseConvert}
      {t t' t'' u u' result w} (ht : scene.typeOf a = some result)
      (hc : ExprGen scene (st.labelled (st.labels + 2)) condition test t st1) (hw : widthOf t = .ok w)
      (hthen : ExprGen scene st1 thenExpr thenCode t' st2) (hu : scene.typeOf thenExpr.note = some u)
      (hcv : Converts u result thenConvert) (helse : ExprGen scene st2 elseExpr elseCode t'' st3)
      (hu' : scene.typeOf elseExpr.note = some u') (hcv' : Converts u' result elseConvert) :
      ExprGen scene st (.conditional a condition thenExpr elseExpr)
        (test ++ [instr (.branchZero ⟨0, w⟩ ⟨"cond_else", st.labels + 1⟩)] ++
          (thenCode ++ thenConvert) ++ [instr (.branch ⟨"cond_end", st.labels + 2⟩)] ++
          [label ⟨"cond_else", st.labels + 1⟩] ++ (elseCode ++ elseConvert) ++
          [label ⟨"cond_end", st.labels + 2⟩]) result st3
  | cast (ht : scene.typeOf a = some target)
      (h : ExprGen scene st operand code t st') (hc : (target == .void) = true ∧ convert = [] ∨
        scene.typeOf operand.note = some u ∧ Converts u target convert) :
      ExprGen scene st (.cast a spec operand) (code ++ convert)
        (if target == .void then .void else target) st'
  | measure {st e n} (h : isMeasure e = true) :
      ExprGen scene st e (instrs (immediateInstrs .word n)) .int st

/-- The code that puts arguments on the stack, as many as there are parameters for. -/
inductive ArgsGen (scene : Scene) : State → List (Expr NodeId) → List CType → Code → State → Prop where
  | nil {st es ts} (h : es = [] ∨ ts = []) :
      ArgsGen scene st es ts [] st
  | cons {st st1 st2 e es t ts code convert rest u v w} (h : ExprGen scene st e code u st1)
      (hv : scene.typeOf e.note = some v) (hc : Converts v t convert) (hw : widthOf t = .ok w)
      (hr : ArgsGen scene st1 es ts rest st2) :
      ArgsGen scene st (e :: es) (t :: ts) (code ++ convert ++ instrs (spillInstrs w) ++ rest) st2

end

mutual

/-- Whether every expression inside an expression that code is emitted for passes a test. Operands of `sizeof`
    and arguments without a parameter have no code. -/
def allEmitted (scene : Scene) (p : Expr NodeId → Bool) : Expr NodeId → Bool
  | e@(.unary _ _ operand) | e@(.cast _ _ operand) | e@(.assign _ _ _ operand) =>
    p e && allEmitted scene p operand
  | e@(.binary _ _ left right) | e@(.comma _ left right) =>
    p e && allEmitted scene p left && allEmitted scene p right
  | e@(.conditional _ condition thenExpr elseExpr) =>
    p e && allEmitted scene p condition && allEmitted scene p thenExpr && allEmitted scene p elseExpr
  | e@(.call _ (.ident _ name) args) =>
    p e && allEmittedArgs scene p ((scene.functions.lookup name).elim 0 (·.params.length)) args
  | e => p e

/-- Whether all pass in the first arguments of a call. -/
def allEmittedArgs (scene : Scene) (p : Expr NodeId → Bool) : Nat → List (Expr NodeId) → Bool
  | n + 1, e :: es => allEmitted scene p e && allEmittedArgs scene p n es
  | _, _ => true

end

mutual

/-- Whether all pass in a statement. -/
def allEmittedStmt (scene : Scene) (p : Expr NodeId → Bool) : Stmt NodeId → Bool
  | .group items | .compound items => allEmittedStmts scene p items
  | .declaration _ (some _) (some (.expr value)) _ _ _ => allEmitted scene p value
  | .expr value | .return_ (some value) => allEmitted scene p value
  | .ifElse condition thenBody none => allEmitted scene p condition && allEmittedStmt scene p thenBody
  | .ifElse condition thenBody (some elseBody) =>
    allEmitted scene p condition && allEmittedStmt scene p thenBody && allEmittedStmt scene p elseBody
  | .while_ condition body => allEmitted scene p condition && allEmittedStmt scene p body
  | .doWhile body condition => allEmittedStmt scene p body && allEmitted scene p condition
  | .for_ none condition post body =>
    condition.all (allEmitted scene p) && allEmittedStmt scene p body && post.all (allEmitted scene p)
  | .for_ (some init) condition post body =>
    allEmittedStmt scene p init && condition.all (allEmitted scene p) && allEmittedStmt scene p body &&
      post.all (allEmitted scene p)
  | _ => true

/-- Whether all pass in statements. -/
def allEmittedStmts (scene : Scene) (p : Expr NodeId → Bool) : List (Stmt NodeId) → Bool
  | [] => true
  | s :: rest => allEmittedStmt scene p s && allEmittedStmts scene p rest

end

/-! ## 4. The generator on expressions -/

variable {e : Expr NodeId} {l : Label} {cause : Cause} {op : BinaryOp} {inner : Code} {params : List CType}
  {source target : CType}

theorem isMachineInteger_of_isInt (h : isInt t) : isMachineInteger t := by
  unfold isInt at h
  simp_all [isMachineInteger]

theorem isPointer_of_isInt (h : isInt t) : t.isPointer = false := by
  unfold isInt at h
  simp_all [CType.isPointer, CType.pointee?]

theorem ensureHeld_int (role : Role) (h : isInt t) : ensureHeld role t = .ok () := by
  unfold ensureHeld isHeld
  rw [isMachineInteger_of_isInt h, Bool.or_true, if_pos rfl]

theorem widthOf_int (h : isInt t) : widthOf t = .ok .word := by
  unfold widthOf
  rw [ensureHeld_int _ h, isPointer_of_isInt h]
  unfold isInt at h
  simp_all

theorem widthOf_of_isMachineInteger (h : isMachineInteger t) : ∃ w, widthOf t = .ok w := by
  unfold widthOf ensureHeld isHeld
  rw [h, Bool.or_true]
  exact ⟨_, rfl⟩

namespace Yields

variable {γ : Type} {scene : Scene} {st st' : State} {t u : CType} {r : γ × State} {name : String}

theorem width {f : Width → Gen γ} (h : Yields scene st (width t >>= f) r) :
    ∃ w, widthOf t = .ok w ∧ Yields scene st (f w) r := h.lift

variable {index : Nat} {slot : Slot} {done : Label} {is : List Instr} {p q : String} {marks : List Nat}

theorem reg (h : Yields scene st (reg index t >>= f) r) :
    ∃ w, widthOf t = .ok w ∧ Yields scene st (f ⟨index, w⟩) r := by
  unfold Codegen.reg at h
  rw [bind_assoc] at h
  exact h.width

theorem held {role : Role} {f : Unit → Gen γ} (h : Yields scene st (liftM (ensureHeld role t) >>= f) r) :
    Yields scene st (f ()) r := by
  obtain ⟨⟨⟩, -, h⟩ := h.lift
  exact h

variable {f : Code → Gen γ}

theorem convert (h : Yields scene st (convertCode t u >>= f) r) :
    ∃ c, Converts t u c ∧ Yields scene st (f c) r := by
  unfold convertCode at h
  by_cases hvoid : (u == CType.void)
  · rw [if_pos hvoid] at h
    exact ⟨[], .void hvoid, h⟩
  rw [if_neg hvoid] at h
  simp only [bind_assoc] at h
  obtain ⟨w, hw, h⟩ := h.held.held.width
  obtain ⟨w', hw', h⟩ := h.width
  refine ⟨_, .widths hw hw', ?_⟩
  cases w <;> cases w' <;> exact h

theorem spill (h : Yields scene st (spillCode t >>= f) r) :
    ∃ w, widthOf t = .ok w ∧ Yields scene st (f (instrs (spillInstrs w))) r := by
  unfold spillCode extendCode at h
  simp only [bind_assoc] at h
  obtain ⟨w, hw, h⟩ := h.width
  refine ⟨w, hw, ?_⟩
  cases w <;> exact h

theorem immediate (h : Yields scene st (immediateCode value t >>= f) r) :
    ∃ w, widthOf t = .ok w ∧ Yields scene st (f (instrs (immediateInstrs w value))) r := by
  unfold immediateCode at h
  rw [bind_assoc] at h
  obtain ⟨w, hw, h⟩ := h.reg
  refine ⟨w, hw, ?_⟩
  unfold immediateInstrs
  cases hc : chunks w value <;> rw [hc] at h <;> exact h

theorem branchZero (h : Yields scene st (branchZeroCode t l >>= f) r) :
    ∃ w, widthOf t = .ok w ∧ Yields scene st (f [.instr (.branchZero ⟨0, w⟩ l)]) r := by
  unfold branchZeroCode at h
  rw [bind_assoc] at h
  exact h.reg

theorem branchNonzero (h : Yields scene st (branchNonzeroCode t l >>= f) r) :
    ∃ w, widthOf t = .ok w ∧ Yields scene st (f [.instr (.branchNonzero ⟨0, w⟩ l)]) r := by
  unfold branchNonzeroCode at h
  rw [bind_assoc] at h
  exact h.reg

theorem storeSlot (h : Yields scene st (storeSlotCode slot index >>= f) r) :
    ∃ w, widthOf slot.type = .ok w ∧ Yields scene st (f (instrs [.storeSlot ⟨index, w⟩ slot.offset])) r := by
  unfold storeSlotCode at h
  rw [bind_assoc] at h
  exact h.reg

theorem load {f : Code × CType → Gen γ} (h : Yields scene st (loadCode name >>= f) r) :
    ∃ c t, Loads scene st name c t ∧ Yields scene st (f (c, t)) r := by
  obtain ⟨⟨c, t⟩, st1, hload, h⟩ := h.bind
  replace hload := hload.slot
  cases hs : slotOf st.scopes name with
  | some slot =>
    rw [hs] at hload
    obtain ⟨w, hw, hload⟩ := hload.reg
    cases hload.pure
    exact ⟨_, _, .slot hs hw, h⟩
  | none =>
    rw [hs] at hload
    replace hload := hload.global
    cases hg : scene.globals.find? (·.name == name) with
    | some object =>
      rw [hg] at hload
      obtain ⟨w, hw, hload⟩ := hload.reg
      cases hload.pure
      exact ⟨_, _, .global hs hg hw, h⟩
    | none =>
      rw [hg] at hload
      exact hload.guard.2.refuse.elim

theorem store (h : Yields scene st (storeCode name t >>= f) r) :
    ∃ c, Stores scene st name t c ∧ Yields scene st (f c) r := by
  obtain ⟨c, st1, hstore, h⟩ := h.bind
  replace hstore := hstore.slot
  cases hs : slotOf st.scopes name with
  | some slot =>
    rw [hs] at hstore
    dsimp only at hstore
    rw [← bind_pure (storeSlotCode slot 0)] at hstore
    obtain ⟨w, hw, hstore⟩ := hstore.storeSlot
    cases hstore.pure
    exact ⟨_, .slot hs hw, h⟩
  | none =>
    rw [hs] at hstore
    obtain ⟨hsome, hstore⟩ := hstore.global.guard
    obtain ⟨object, hg⟩ := Option.ne_none_iff_exists'.mp (mt Option.isNone_iff_eq_none.mpr hsome)
    obtain ⟨w, hw, hstore⟩ := hstore.reg
    cases hstore.pure
    exact ⟨_, .global hs hg hw, h⟩

/-- The type in which a binary operator computes is that of its result, unless it compares pointers. -/
theorem operandType (h : Yields scene st (operandType e op left right) (t, st')) :
    st = st' ∧ ∃ l r, scene.typeOf left.note = some l ∧ scene.typeOf right.note = some r ∧
      (isEquality op ∧ (l.isPointer || r.isPointer) ∨ scene.typeOf e.note = some t) := by
  obtain ⟨l, hl, h⟩ := h.typeOf
  obtain ⟨r, hr, h⟩ := h.typeOf
  by_cases hp : (l.isPointer || r.isPointer)
  · rw [if_pos hp] at h
    obtain ⟨heq, h⟩ := h.guard
    cases h.pure
    exact ⟨rfl, l, r, hl, hr, .inl ⟨by simpa using heq, hp⟩⟩
  · rw [if_neg hp] at h
    obtain ⟨result, hresult, h⟩ := h.typeOf
    cases h.held.pure
    exact ⟨rfl, l, r, hl, hr, .inr hresult⟩

theorem operator {op : ArithOp} (h : Yields scene st (operatorCode op t u >>= f) r) :
    isMachineInteger t ∧ isMachineInteger u ∧ ∃ w count, widthOf t = .ok w ∧
      widthOf u = .ok count ∧ Yields scene st (f (instrs (computeInstrs op w count))) r := by
  obtain ⟨c, st1, hcode, h⟩ := h.bind
  obtain ⟨hint, hcode⟩ := hcode.guard
  simp only [Bool.or_eq_true, Bool.not_eq_true', not_or, Bool.not_eq_false] at hint
  obtain ⟨count, hcount⟩ := widthOf_of_isMachineInteger hint.2
  obtain ⟨w, hw, hcode⟩ := hcode.reg
  obtain ⟨w', hw', hcode⟩ := hcode.reg
  cases hw.symm.trans hw'
  refine ⟨hint.1, hint.2, w, count, hw, hcount, ?_⟩
  cases op with
  | shl | shr =>
    obtain ⟨count', hcount', hcode⟩ := hcode.reg
    cases hcount.symm.trans hcount'
    cases hcode.pure
    exact h
  | _ =>
    cases hcode.pure
    exact h

theorem callee {arguments : Nat} {f : Callee → Gen γ} (h : Yields scene st (callee name arguments >>= f) r) :
    ∃ g, scene.functions.lookup name = some g ∧ arguments ≤ maxArguments ∧ Yields scene st (f g) r := by
  obtain ⟨g, st1, hcallee, h⟩ := h.bind
  obtain ⟨_, st2, hread, hcallee⟩ := hcallee.bind
  cases hread
  cases hg : scene.functions.lookup name with
  | none =>
    rw [hg] at hcallee
    exact hcallee.refuse.elim
  | some g =>
    rw [hg] at hcallee
    obtain ⟨hmax, hcallee⟩ := hcallee.guard
    cases hcallee.pure
    exact ⟨g, rfl, Nat.le_of_not_lt hmax, h⟩

/-- The type of the right operand: its own for a shift, else that of the operator. -/
theorem shiftTarget {right : Expr NodeId} {f : CType → Gen γ}
    (h : Yields scene st (if isShift op = true then Gen.typeOf right >>= f else Pure.pure t >>= f) r) :
    ∃ target, (if isShift op = true then scene.typeOf right.note = some target else target = t) ∧
      Yields scene st (f target) r := by
  by_cases hs : isShift op
  · rw [if_pos hs] at h
    simpa only [hs, if_true] using h.typeOf
  · rw [if_neg hs] at h
    exact ⟨t, by rw [if_neg hs], h⟩

theorem step {op : UpdateOp} {w : Width} {f : Instr → Gen γ}
    (h : Yields scene st (match op with
      | .increment => Pure.pure (Instr.addOne ⟨0, w⟩) >>= f
      | .decrement => Pure.pure (Instr.subOne ⟨0, w⟩) >>= f
      | .other text => Codegen.refuse (.updateOperator text) >>= f) r) :
    ∃ i, stepInstr? w op = some i ∧ Yields scene st (f i) r := by
  cases op with
  | increment => exact ⟨_, rfl, h⟩
  | decrement => exact ⟨_, rfl, h⟩
  | other =>
    exact h.refuse.elim

end Yields

/-- Arguments are taken from the stack by loads only. -/
theorem argumentLoads_eq_ok (h : argumentLoads params scene st = .ok (code, st')) :
    st' = st ∧ ∃ is, code = instrs is ∧ ∀ i ∈ is, ∃ r offset, i = Instr.loadStack r offset := by
  suffices hall : ∀ (ps : List (CType × Nat)) {loads : List Instr} {st1 : State},
      Yields scene st (ps.mapM fun p => do
        return Instr.loadStack (← reg p.2 p.1) (16 * (params.length - p.2 - 1))) (loads, st1) →
      st1 = st ∧ ∀ i ∈ loads, ∃ r offset, i = Instr.loadStack r offset by
    obtain ⟨loads, st1, h1, h2⟩ := Yields.bind h
    obtain ⟨rfl, hloads⟩ := hall _ h1
    cases h2.pure
    exact ⟨rfl, loads, rfl, hloads⟩
  intro ps
  induction ps with
  | nil =>
    intro loads st1 h
    cases h.pure
    exact ⟨rfl, fun i hi => absurd hi not_mem_nil⟩
  | cons p ps ih =>
    intro loads st1 h
    rw [mapM_cons, bind_assoc] at h
    obtain ⟨w, -, h⟩ := h.reg
    rw [pure_bind] at h
    obtain ⟨is, st2, his, h⟩ := h.bind
    obtain ⟨hst, hloads⟩ := ih his
    cases h.pure
    exact ⟨hst, forall_mem_cons.mpr ⟨⟨_, _, rfl⟩, hloads⟩⟩

section Expressions

variable {scene : Scene}

variable {a : NodeId} {text name : String} {left right operand : Expr NodeId}

/-- Whatever code the generator gives for an expression is described by the relation. -/
def Described (scene : Scene) (e : Expr NodeId) : Prop :=
  ∀ ⦃st st' : State⦄ ⦃code : Code⦄ ⦃t : CType⦄,
    exprCode e scene st = .ok ((code, t), st') → ExprGen scene st e code t st'

/-- The code that tests an expression. -/
theorem Yields.zeroBranch {γ : Type} {st : State} {r : γ × State}
    {f : Code → Gen γ} (h : Yields scene st (zeroBranchCode e l >>= f) r) (he : Described scene e) :
    ∃ c t w st1, ExprGen scene st e c t st1 ∧ widthOf t = .ok w ∧
      Yields scene st1 (f (c ++ [.instr (.branchZero ⟨0, w⟩ l)])) r := by
  rw [zeroBranchCode, bind_assoc] at h
  obtain ⟨⟨c, t⟩, st1, hc, h⟩ := h.bind
  rw [bind_assoc] at h
  obtain ⟨w, hw, h⟩ := h.branchZero
  exact ⟨c, t, w, st1, he hc, hw, h⟩

theorem Described.int : Described scene (.int a text) := by
  intro st st' code t h
  rw [exprCode] at h
  obtain ⟨u, hu, h⟩ := Yields.typeOf h
  obtain ⟨n, hn, h⟩ := h.lift
  obtain ⟨w, hw, h⟩ := h.immediate
  cases h.pure
  exact .int hu hn hw

theorem Described.char : Described scene (.char a text) := by
  intro st st' code t h
  rw [exprCode] at h
  obtain ⟨n, hn, h⟩ := Yields.lift h
  obtain ⟨w, hw, h⟩ := h.immediate
  cases h.pure
  cases (widthOf_int rfl).symm.trans hw
  exact .char hn

theorem Described.string : Described scene (.string a text) := by
  intro st st' code t h
  rw [exprCode] at h
  obtain ⟨l, st1, hl, h⟩ := Yields.bind h
  obtain ⟨u, hu, h⟩ := h.typeOf
  cases h.pure
  exact .string hu hl

theorem Described.ident : Described scene (.ident a name) := by
  intro st st' code t h
  rw [exprCode, ← bind_pure (loadCode name)] at h
  obtain ⟨c, u, hl, h⟩ := Yields.load h
  cases h.pure
  exact .ident hl

theorem Described.unary {op : UnaryOp}
    (ih : Described scene operand) : Described scene (.unary a op operand) := by
  intro st st' code t h
  rw [exprCode] at h
  obtain ⟨⟨c, u⟩, st1, hc, h⟩ := Yields.bind h
  obtain ⟨result, hresult, h⟩ := h.typeOf
  cases op with
  | plus =>
    obtain ⟨convert, hconvert, h⟩ := h.convert
    cases h.pure
    have hcode : ExprGen scene _ (.unary a .plus operand) _ _ _ :=
      .sign (w := .word) rfl (ih hc) hresult hconvert (.inl rfl)
    simpa [signInstrs, instrs] using hcode
  | minus | complement =>
    obtain ⟨convert, hconvert, h⟩ := h.convert
    obtain ⟨w, hw, h⟩ := h.reg
    cases h.pure
    exact .sign rfl (ih hc) hresult hconvert (.inr hw)
  | logicalNot =>
    obtain ⟨w, hw, h⟩ := h.reg
    cases h.pure
    exact .logicalNot (ih hc) hw
  | _ => exact h.refuse.elim

theorem Described.logicalAnd (ihl : Described scene left)
    (ihr : Described scene right) : Described scene (.binary a .logicalAnd left right) := by
  intro st st' code t h
  rw [exprCode] at h
  obtain ⟨c, u, w, st1, hc, hw, h⟩ := (Yields.newLabel h).newLabel.zeroBranch ihl
  obtain ⟨c', u', w', st2, hc', hw', h⟩ := h.zeroBranch ihr
  cases h.pure
  have hcode : ExprGen scene st (.binary a .logicalAnd left right) _ _ _ := .logicalAnd hc hw hc' hw'
  simpa [verdictCode] using hcode

theorem Described.logicalOr (ihl : Described scene left)
    (ihr : Described scene right) : Described scene (.binary a .logicalOr left right) := by
  intro st st' code t h
  rw [exprCode] at h
  obtain ⟨⟨c, u⟩, st1, hc, h⟩ := (Yields.newLabel h).newLabel.bind
  obtain ⟨tl, htl, h⟩ := h.typeOf
  obtain ⟨w, hw, h⟩ := h.branchNonzero
  obtain ⟨⟨c', u'⟩, st2, hc', h⟩ := h.bind
  obtain ⟨tr, htr, h⟩ := h.typeOf
  obtain ⟨w', hw', h⟩ := h.branchNonzero
  cases h.pure
  have hcode : ExprGen scene st (.binary a .logicalOr left right) _ _ _ :=
    .logicalOr (ihl hc) htl hw (ihr hc') htr hw'
  simpa [verdictCode] using hcode

theorem Described.binary
    (hand : op ≠ .logicalAnd) (hor : op ≠ .logicalOr) (ihl : Described scene left)
    (ihr : Described scene right) : Described scene (.binary a op left right) := by
  intro st st' code t h
  rw [exprCode] at h
  swap
  · exact hand
  swap
  · exact hor
  obtain ⟨⟨c, u⟩, st1, hc, h⟩ := Yields.bind h
  obtain ⟨t', st2, ht, h⟩ := h.bind
  obtain ⟨rfl, l, r, -, -, htype⟩ := ht.operandType
  obtain ⟨convert, hconvert, h⟩ := h.convert
  obtain ⟨w, hw, h⟩ := h.spill
  obtain ⟨⟨c', u'⟩, st3, hc', h⟩ := h.bind
  obtain ⟨target, htarget, h⟩ := h.shiftTarget
  obtain ⟨convert', hconvert', h⟩ := h.convert
  obtain ⟨result, hresult, h⟩ := h.typeOf
  cases op with
  | arith op =>
    obtain ⟨hint, hint', w', count, hw', hcount, h⟩ := h.operator
    cases h.pure
    cases hw.symm.trans hw'
    cases hresult.symm.trans (htype.resolve_left (by simp [isEquality]))
    exact .arith (ihl hc) hresult hconvert hw (ihr hc') htarget hconvert' hcount ⟨hint, hint'⟩
  | relation relation =>
    obtain ⟨w1, hw1, h⟩ := h.reg
    obtain ⟨w0, hw0, h⟩ := h.reg
    cases h.pure
    cases hw.symm.trans hw1
    cases hw.symm.trans hw0
    cases htarget
    exact .relation (ihl hc) ht hconvert hw (ihr hc') hconvert'
  | logicalAnd => exact absurd rfl hand
  | logicalOr => exact absurd rfl hor
  | other => exact h.refuse.elim

theorem Described.assign {b : NodeId} {op : AssignOp} {value : Expr NodeId}
    (ih : Described scene value) : Described scene (.assign a op (.ident b name) value) := by
  intro st st' code t h
  rw [exprCode] at h
  obtain ⟨u, hu, h⟩ := (Yields.slot h).global.guard.2.typeOf
  cases op with
  | plain =>
    obtain ⟨⟨c, v⟩, st1, hc, h⟩ := h.bind
    obtain ⟨tv, htv, h⟩ := h.typeOf
    obtain ⟨convert, hconvert, h⟩ := h.convert
    obtain ⟨store, hstore, h⟩ := h.store
    cases h.pure
    exact .assign hu (ih hc) htv hconvert hstore
  | compound op =>
    obtain ⟨load, s, hload, h⟩ := h.guard.2.load
    obtain ⟨w, hw, h⟩ := h.spill
    obtain ⟨⟨c, v⟩, st1, hc, h⟩ := h.bind
    obtain ⟨tv, htv, h⟩ := h.typeOf
    obtain ⟨convert, hconvert, h⟩ := h.convert
    obtain ⟨hint, -, w', count, hw', hcount, h⟩ := h.operator
    cases hw.symm.trans hw'
    cases hw.symm.trans hcount
    obtain ⟨store, hstore, h⟩ := h.store
    cases h.pure
    have hcode : ExprGen _ _ (.assign a (.compound op) (.ident b name) value) _ _ _ :=
      .assignOp hu hint hload hw (ih hc) htv hconvert hstore
    simpa using hcode
  | other => exact h.refuse.elim

theorem Described.update {b : NodeId} {op : UpdateOp} {isPostfix : Bool} :
    Described scene (.update a op (.ident b name) isPostfix) := by
  intro st st' code t h
  rw [exprCode] at h
  obtain ⟨u, hu, h⟩ := Yields.typeOf h
  obtain ⟨hint, h⟩ := h.guard
  rw [Bool.not_eq_true', Bool.not_eq_false] at hint
  obtain ⟨load, s, hload, h⟩ := h.load
  cases isPostfix with
  | false =>
    obtain ⟨w, hw, h⟩ := h.given.reg
    obtain ⟨i, hi, h⟩ := h.step
    obtain ⟨store, hstore, h⟩ := h.store
    cases h.pure
    have hcode : ExprGen _ _ (.update a op (.ident b name) false) _ _ _ :=
      .update hu hint hload hw hi hstore
    simpa using hcode
  | true =>
    obtain ⟨w, hw, h⟩ := h.spill
    obtain ⟨w', hw', h⟩ := h.reg
    cases hw.symm.trans hw'
    obtain ⟨i, hi, h⟩ := h.step
    obtain ⟨store, hstore, h⟩ := h.store
    cases h.pure
    have hcode : ExprGen _ _ (.update a op (.ident b name) true) _ _ _ :=
      .postUpdate hu hint hload hw hi hstore
    simpa using hcode

theorem Described.comma (ihl : Described scene left)
    (ihr : Described scene right) : Described scene (.comma a left right) := by
  intro st st' code t h
  rw [exprCode] at h
  obtain ⟨⟨c, u⟩, st1, hc, h⟩ := Yields.bind h
  obtain ⟨⟨c', u'⟩, st2, hc', h⟩ := h.bind
  cases h.pure
  exact .comma (ihl hc) (ihr hc')

theorem Described.conditional {condition thenExpr elseExpr : Expr NodeId}
    (ihc : Described scene condition) (iht : Described scene thenExpr) (ihe : Described scene elseExpr) :
    Described scene (.conditional a condition thenExpr elseExpr) := by
  intro st st' code t h
  rw [exprCode] at h
  obtain ⟨result, hresult, h⟩ := Yields.typeOf h
  obtain ⟨c, u, w, st1, hc, hw, h⟩ := h.newLabel.newLabel.zeroBranch ihc
  obtain ⟨⟨tc, tu⟩, st2, htc, h⟩ := h.bind
  obtain ⟨tt, htt, h⟩ := h.typeOf
  obtain ⟨tconvert, htconvert, h⟩ := h.convert
  obtain ⟨⟨ec, eu⟩, st3, hec, h⟩ := h.bind
  obtain ⟨et, het, h⟩ := h.typeOf
  obtain ⟨econvert, heconvert, h⟩ := h.convert
  cases h.pure
  have hcode : ExprGen _ _ (.conditional a condition thenExpr elseExpr) _ _ _ :=
    .conditional hresult hc hw (iht htc) htt htconvert (ihe hec) het heconvert
  simpa using hcode

theorem Described.cast {spec : TypeSpec NodeId}
    (ih : Described scene operand) : Described scene (.cast a spec operand) := by
  intro st st' code t h
  rw [exprCode] at h
  obtain ⟨target, htarget, h⟩ := Yields.typeOf h
  obtain ⟨⟨c, u⟩, st1, hc, h⟩ := h.bind
  have hcode {v : CType} {convert : Code} (hconvert : _) :
      ExprGen scene _ (.cast a spec operand) (c ++ convert) _ _ :=
    .cast (u := v) htarget (ih hc) hconvert
  by_cases hvoid : (target == CType.void)
  · simp only [hvoid, if_true] at h
    cases h.pure
    simpa [hvoid] using hcode (v := u) (.inl ⟨hvoid, rfl⟩)
  · simp only [hvoid] at h
    obtain ⟨tv, htv, h⟩ := h.typeOf
    obtain ⟨convert, hconvert, h⟩ := h.convert
    cases h.pure
    simpa [hvoid] using hcode (.inr ⟨htv, hconvert⟩)

/-- A size is a number that is known. -/
theorem Yields.measure (h : Yields scene st (immediateCode n .int >>= fun c => Pure.pure (c, CType.int)) ((code, t), st'))
    (he : isMeasure e) : ExprGen scene st e code t st' := by
  obtain ⟨w, hw, h⟩ := h.immediate
  cases h.pure
  cases (widthOf_int rfl).symm.trans hw
  exact .measure he

mutual

/-- **Whatever code the generator gives for an expression is described by the relation.** -/
theorem exprCode_gen (e : Expr NodeId) : Described scene e := by
  cases e with
  | int => exact .int
  | char => exact .char
  | string => exact .string
  | ident => exact .ident
  | unary a op operand => exact .unary (exprCode_gen operand)
  | binary a op left right =>
    by_cases hand : op = .logicalAnd
    · rw [hand]
      exact .logicalAnd (exprCode_gen left) (exprCode_gen right)
    by_cases hor : op = .logicalOr
    · rw [hor]
      exact .logicalOr (exprCode_gen left) (exprCode_gen right)
    exact .binary hand hor (exprCode_gen left) (exprCode_gen right)
  | assign a op target value =>
    cases target with
    | ident b name => exact .assign (exprCode_gen value)
    | _ =>
      intro st st' code t h
      simp only [exprCode] at h
      exact (Yields.refuse h).elim
  | update a op operand isPostfix =>
    cases operand with
    | ident b name => exact .update
    | _ =>
      intro st st' code t h
      simp only [exprCode] at h
      exact (Yields.refuse h).elim
  | call a function args =>
    intro st st' code t h
    cases function with
    | ident b name =>
      rw [exprCode] at h
      obtain ⟨f, hf, hmax, h⟩ := Yields.callee h
      obtain ⟨pushes, st1, hpushes, h⟩ := h.bind
      obtain ⟨loads, st2, hloads, h⟩ := h.bind
      cases (argumentLoads_eq_ok hloads).1
      cases h.pure
      exact .call hf hmax (argumentCode_gen args hpushes) hloads
    | _ =>
      simp only [exprCode] at h
      exact (Yields.refuse h).elim
  | comma a left right => exact .comma (exprCode_gen left) (exprCode_gen right)
  | conditional a condition thenExpr elseExpr =>
    exact .conditional (exprCode_gen condition) (exprCode_gen thenExpr) (exprCode_gen elseExpr)
  | cast a spec operand => exact .cast (exprCode_gen operand)
  | sizeofType a spec | alignofType a spec =>
    intro st st' code t h
    rw [exprCode] at h
    obtain ⟨n, -, h⟩ := Yields.lift h
    exact h.measure rfl
  | sizeofExpr a operand | alignofExpr a operand =>
    intro st st' code t h
    rw [exprCode] at h
    obtain ⟨u, -, h⟩ := Yields.typeOf h
    obtain ⟨w, -, h⟩ := h.width
    exact h.measure rfl
  | _ =>
    intro st st' code t h
    rw [exprCode] at h
    exact (Yields.refuse h).elim
termination_by structural e

/-- The code that the generator gives for arguments. -/
theorem argumentCode_gen (es : List (Expr NodeId)) (h : argumentCode es ts scene st = .ok (code, st')) : ArgsGen scene st es ts code st' := by
  cases es with
  | nil =>
    rw [argumentCode] at h
    · cases Yields.pure h
      exact .nil (.inl rfl)
    · exact fun _ _ _ _ hes => nomatch hes
  | cons e es =>
    cases ts with
    | nil =>
      rw [argumentCode] at h
      · cases Yields.pure h
        exact .nil (.inr rfl)
      · exact fun _ _ _ _ _ hts => nomatch hts
    | cons t ts =>
      rw [argumentCode] at h
      obtain ⟨⟨c, u⟩, st1, hc, h⟩ := Yields.bind h
      obtain ⟨v, hv, h⟩ := h.typeOf
      obtain ⟨convert, hconvert, h⟩ := h.convert
      obtain ⟨w, hw, h⟩ := h.spill
      obtain ⟨rest, st2, hrest, h⟩ := h.bind
      cases h.pure
      exact .cons (exprCode_gen e hc) hv hconvert hw (argumentCode_gen es hrest)
termination_by structural es

end

end Expressions

/-! ## 5. Statements -/

/-- Places in a piece of code, counted from the start of the code in front of it. -/
def behind (front : Code) (marks : List Nat) : List Nat := marks.map (front.length + ·)

/-- Whether a statement is one without code that declares no object. -/
def isSilent : Stmt NodeId → Bool
  | .declaration _ none _ _ _ _ | .typedef .. | .staticAssert .. | .null => true
  | _ => false

/-- The code of the condition of a `for`, which leads to a label when it fails. -/
inductive TestGen (scene : Scene) (done : Label) : State → Option (Expr NodeId) → Code → State → Prop where
  | absent {st} : TestGen scene done st none [] st
  | present {st st' condition code t w} (h : ExprGen scene st condition code t st') (hw : widthOf t = .ok w) :
      TestGen scene done st (some condition) (code ++ [instr (.branchZero ⟨0, w⟩ done)]) st'

/-- The code of the last clause of a `for`. -/
inductive PostGen (scene : Scene) : State → Option (Expr NodeId) → Code → State → Prop where
  | absent {st} : PostGen scene st none [] st
  | present {st st' post code t} (h : ExprGen scene st post code t st') : PostGen scene st (some post) code st'

mutual

/-- The code of a statement, and the places in it where the statement or one inside it begins or ends. -/
inductive StmtGen (scene : Scene) : Body → State → Stmt NodeId → Code → List Nat → State → Prop where
  | silent {body st s} (h : isSilent s = true) :
      StmtGen scene body st s [] [0] st
  | group {body st st' declarations code marks} (h : StmtsGen scene body st declarations code marks st') :
      StmtGen scene body st (.group declarations) code marks st'
  | object {body st type name alignment storage isThreadLocal slot pending}
      (hp : st.pending = slot :: pending) :
      StmtGen scene body st (.declaration type (some name) none alignment storage isThreadLocal) [] [0]
        (st.declared name slot pending)
  | init {body st st' type name value alignment storage isThreadLocal slot pending code convert t u w}
      (hp : st.pending = slot :: pending) (h : ExprGen scene (st.declared name slot pending) value code t st')
      (hu : scene.typeOf value.note = some u) (hc : Converts u slot.type convert)
      (hw : widthOf slot.type = .ok w) :
      StmtGen scene body st
        (.declaration type (some name) (some (.expr value)) alignment storage isThreadLocal)
        (code ++ convert ++ instrs [.storeSlot ⟨0, w⟩ slot.offset])
        [0, (code ++ convert).length + 1] st'
  | expr {body st st' value code t} (h : ExprGen scene st value code t st') :
      StmtGen scene body st (.expr value) code [0, code.length] st'
  | leave {body st} :
      StmtGen scene body st (.return_ none) [instr (.branch body.exit)] [0, 1] st
  | return_ {body st st' value code convert t u}
      (h : ExprGen scene st value code t st') (hu : scene.typeOf value.note = some u)
      (hc : Converts u body.returnType convert) :
      StmtGen scene body st (.return_ (some value)) (code ++ convert ++ [instr (.branch body.exit)])
        [0, (code ++ convert).length + 1] st'
  | break_ {body st loop} (hl : body.loop = some loop) :
      StmtGen scene body st .break_ [instr (.branch loop.done)] [0, 1] st
  | continue_ {body st loop} (hl : body.loop = some loop) :
      StmtGen scene body st .continue_ [instr (.branch loop.next)] [0, 1] st
  | compound {body st st' items code marks} (h : StmtsGen scene body st.opened items code marks st') :
      StmtGen scene body st (.compound items) code marks st'.closed
  | ifThen {body st st1 st' condition thenBody code thenCode test t w marks}
      (hc : ExprGen scene (st.labelled (st.labels + 2)) condition code t st1) (hw : widthOf t = .ok w)
      (htest : test = code ++ [instr (.branchZero ⟨0, w⟩ ⟨"else", st.labels + 1⟩)])
      (ht : StmtGen scene body st1 thenBody thenCode marks st') :
      StmtGen scene body st (.ifElse condition thenBody none)
        (test ++ thenCode ++ [label ⟨"else", st.labels + 1⟩])
        (0 :: behind test marks ++ [(test ++ thenCode).length + 1]) st'
  | ifElse {body st st1 st2 st3 condition thenBody elseBody code thenCode elseCode test middle t w marks marks'}
      (hc : ExprGen scene (st.labelled (st.labels + 2)) condition code t st1) (hw : widthOf t = .ok w)
      (htest : test = code ++ [instr (.branchZero ⟨0, w⟩ ⟨"else", st.labels + 1⟩)])
      (ht : StmtGen scene body st1 thenBody thenCode marks st2) (hmiddle : middle = test ++ thenCode ++
        [instr (.branch ⟨"endif", st.labels + 2⟩), label ⟨"else", st.labels + 1⟩])
      (he : StmtGen scene body st2 elseBody elseCode marks' st3) :
      StmtGen scene body st (.ifElse condition thenBody (some elseBody))
        (middle ++ elseCode ++ [label ⟨"endif", st.labels + 2⟩])
        (0 :: behind test marks ++ behind middle marks' ++ [(middle ++ elseCode).length + 1]) st3
  | while_ {body st st1 st' condition loopBody code loopCode test t w marks}
      (hc : ExprGen scene (st.labelled (st.labels + 2)) condition code t st1) (hw : widthOf t = .ok w)
      (htest : test = [label ⟨"while_cond", st.labels + 1⟩] ++ code ++
        [instr (.branchZero ⟨0, w⟩ ⟨"while_end", st.labels + 2⟩)])
      (hb : StmtGen scene { body with loop := some ⟨⟨"while_cond", st.labels + 1⟩,
        ⟨"while_end", st.labels + 2⟩⟩ } st1 loopBody loopCode marks st') :
      StmtGen scene body st (.while_ condition loopBody)
        (test ++ loopCode ++
          [instr (.branch ⟨"while_cond", st.labels + 1⟩), label ⟨"while_end", st.labels + 2⟩])
        (0 :: behind test marks ++ [(test ++ loopCode).length + 2]) st'
  | doWhile {body st st1 st' condition loopBody code loopCode t u w marks}
      (hb : StmtGen scene { body with loop := some ⟨⟨"do_cond", st.labels + 2⟩,
        ⟨"do_end", st.labels + 3⟩⟩ } (st.labelled (st.labels + 3)) loopBody loopCode marks st1)
      (hc : ExprGen scene st1 condition code t st') (hu : scene.typeOf condition.note = some u)
      (hw : widthOf u = .ok w) :
      StmtGen scene body st (.doWhile loopBody condition)
        ([label ⟨"do_body", st.labels + 1⟩] ++ loopCode ++ [label ⟨"do_cond", st.labels + 2⟩] ++ code ++
          [instr (.branchNonzero ⟨0, w⟩ ⟨"do_body", st.labels + 1⟩), label ⟨"do_end", st.labels + 3⟩])
        (0 :: behind [label ⟨"do_body", st.labels + 1⟩] marks ++ [(loopCode ++ code).length + 4]) st'
  | for_ {body st st1 st2 st3 st4 init condition post loopBody initCode test loopCode postCode front marks marks'}
      (hi : InitGen scene { body with loop := some ⟨⟨"for_post", st.labels + 2⟩,
        ⟨"for_end", st.labels + 3⟩⟩ } (st.opened.labelled (st.labels + 3)) init initCode marks st1)
      (hc : TestGen scene ⟨"for_end", st.labels + 3⟩ st1 condition test st2)
      (hfront : front = initCode ++ [label ⟨"for_cond", st.labels + 1⟩] ++ test)
      (hb : StmtGen scene { body with loop := some ⟨⟨"for_post", st.labels + 2⟩,
        ⟨"for_end", st.labels + 3⟩⟩ } st2 loopBody loopCode marks' st3)
      (hp : PostGen scene st3 post postCode st4) :
      StmtGen scene body st (.for_ init condition post loopBody)
        (front ++ loopCode ++ [label ⟨"for_post", st.labels + 2⟩] ++ postCode ++
          [instr (.branch ⟨"for_cond", st.labels + 1⟩), label ⟨"for_end", st.labels + 3⟩])
        (0 :: marks ++ behind front marks' ++ [(front ++ loopCode ++ postCode).length + 3]) st4.closed

/-- The code of the first clause of a `for`. -/
inductive InitGen (scene : Scene) :
    Body → State → Option (Stmt NodeId) → Code → List Nat → State → Prop where
  | absent {body st} : InitGen scene body st none [] [] st
  | present {body st st' s code marks}
      (h : StmtGen scene body st s code marks st') : InitGen scene body st (some s) code marks st'

/-- The code of statements, one after the other. -/
inductive StmtsGen (scene : Scene) :
    Body → State → List (Stmt NodeId) → Code → List Nat → State → Prop where
  | nil {body st} : StmtsGen scene body st [] [] [0] st
  | cons {body st st1 st2 s rest code restCode marks marks'} (hs : StmtGen scene body st s code marks st1)
      (hr : StmtsGen scene body st1 rest restCode marks' st2) :
      StmtsGen scene body st (s :: rest) (code ++ restCode) (marks ++ behind code marks') st2

end

section Statements

variable {scene : Scene}

/-- Whatever code the generator gives for a statement is described by the relation. -/
def Recorded (scene : Scene) (body : Body) (s : Stmt NodeId) : Prop :=
  ∀ ⦃st st' : State⦄ ⦃code : Code⦄, stmtCode body s scene st = .ok (code, st') →
    ∃ marks, StmtGen scene body st s code marks st'

namespace Yields

variable {γ : Type} {st : State} {r : γ × State} {f : Code → Gen γ}

/-- The code of the first clause of a `for`. -/
theorem init {init : Option (Stmt NodeId)} {body : Body}
    (h : Yields scene st (match init with
      | none => Pure.pure [] >>= f
      | some s => stmtCode body s >>= f) r)
    (hs : ∀ s ∈ init, Recorded scene body s) :
    ∃ c marks st1, InitGen scene body st init c marks st1 ∧ Yields scene st1 (f c) r := by
  cases init with
  | none => exact ⟨[], [], st, .absent, h⟩
  | some s =>
    obtain ⟨c, st1, hc, h⟩ := h.bind
    obtain ⟨marks, hc⟩ := hs s rfl hc
    exact ⟨c, marks, st1, .present hc, h⟩

/-- The code of the condition of a `for`. -/
theorem test {condition : Option (Expr NodeId)}
    (h : Yields scene st (match condition with
      | none => Pure.pure [] >>= f
      | some e => zeroBranchCode e done >>= f) r) :
    ∃ c st1, TestGen scene done st condition c st1 ∧ Yields scene st1 (f c) r := by
  cases condition with
  | none => exact ⟨[], st, .absent, h⟩
  | some e =>
    obtain ⟨c, t, w, st1, hc, hw, h⟩ := h.zeroBranch (exprCode_gen e)
    exact ⟨_, st1, .present hc hw, h⟩

/-- The code of the last clause of a `for`. -/
theorem post {post : Option (Expr NodeId)}
    (h : Yields scene st (match post with
      | none => Pure.pure [] >>= f
      | some e => exprCode e >>= fun c => Pure.pure c.1 >>= f) r) :
    ∃ c st1, PostGen scene st post c st1 ∧ Yields scene st1 (f c) r := by
  cases post with
  | none => exact ⟨[], st, .absent, h⟩
  | some e =>
    obtain ⟨⟨c, u⟩, st1, hc, h⟩ := h.bind
    exact ⟨c, st1, .present (exprCode_gen e hc), h⟩

/-- A jump out of a loop, or to its next round. -/
theorem jump {body : Body} {target : Loop → Label} {code : Code} {st' : State}
    (h : Yields scene st (match body.loop with
      | none => Codegen.refuse cause
      | some loop => Pure.pure (instrs [.branch (target loop)])) (code, st')) :
    ∃ loop, body.loop = some loop ∧ code = instrs [.branch (target loop)] ∧ st' = st := by
  cases hl : body.loop with
  | none =>
    rw [hl] at h
    exact h.refuse.elim
  | some loop =>
    rw [hl] at h
    cases h.pure
    exact ⟨loop, rfl, rfl, rfl⟩

end Yields

mutual

/-- **Whatever code the generator gives for a statement is described by the relation.** -/
theorem stmtCode_gen (s : Stmt NodeId) {body : Body} : Recorded scene body s := by
  intro st st' code h
  replace h : Yields scene st _ _ := h
  cases s with try rw [stmtCode] at h
  | group declarations =>
    obtain ⟨marks, hd⟩ := stmtsCode_gen declarations h
    exact ⟨marks, .group hd⟩
  | declaration type name init alignment storage isThreadLocal =>
    cases name with
    | none =>
      cases h.pure
      exact ⟨_, .silent rfl⟩
    | some name =>
      obtain ⟨slot, pending, hp, h⟩ := h.declare
      match init with
      | none =>
        cases h.pure
        exact ⟨_, .object hp⟩
      | some (.list items) => exact h.refuse.elim
      | some (.expr value) =>
        obtain ⟨⟨c, u⟩, st1, hc, h⟩ := h.bind
        obtain ⟨v, hv, h⟩ := h.typeOf
        obtain ⟨convert, hconvert, h⟩ := h.convert
        obtain ⟨w, hw, h⟩ := h.storeSlot
        cases h.pure
        exact ⟨_, .init hp (exprCode_gen value hc) hv hconvert hw⟩
  | typedef | staticAssert | null =>
    cases h.pure
    exact ⟨_, .silent rfl⟩
  | expr value =>
    obtain ⟨⟨c, u⟩, st1, hc, h⟩ := h.bind
    cases h.pure
    exact ⟨_, .expr (exprCode_gen value hc)⟩
  | return_ value =>
    cases value with
    | none =>
      cases h.pure
      exact ⟨_, .leave⟩
    | some value =>
      obtain ⟨⟨c, u⟩, st1, hc, h⟩ := h.bind
      obtain ⟨v, hv, h⟩ := h.typeOf
      obtain ⟨convert, hconvert, h⟩ := h.convert
      cases h.pure
      exact ⟨_, .return_ (exprCode_gen value hc) hv hconvert⟩
  | break_ =>
    obtain ⟨loop, hl, rfl, rfl⟩ := h.jump
    exact ⟨_, .break_ hl⟩
  | continue_ =>
    obtain ⟨loop, hl, rfl, rfl⟩ := h.jump
    exact ⟨_, .continue_ hl⟩
  | compound items =>
    obtain ⟨st1, hitems, rfl⟩ := h.inScope
    obtain ⟨marks, hitems⟩ := stmtsCode_gen items hitems
    exact ⟨marks, .compound hitems⟩
  | ifElse condition thenBody elseBody =>
    obtain ⟨c, t, w, st1, hc, hw, h⟩ := h.newLabel.newLabel.zeroBranch (exprCode_gen condition)
    obtain ⟨thenCode, st2, ht, h⟩ := h.bind
    obtain ⟨marks, ht⟩ := stmtCode_gen thenBody ht
    cases elseBody with
    | none =>
      cases h.pure
      exact ⟨_, .ifThen hc hw rfl ht⟩
    | some elseBody =>
      obtain ⟨elseCode, st3, he, h⟩ := h.bind
      obtain ⟨marks', he⟩ := stmtCode_gen elseBody he
      cases h.pure
      exact ⟨_, .ifElse hc hw rfl ht rfl he⟩
  | while_ condition loopBody =>
    obtain ⟨c, t, w, st1, hc, hw, h⟩ := h.newLabel.newLabel.zeroBranch (exprCode_gen condition)
    obtain ⟨loopCode, st2, hb, h⟩ := h.bind
    obtain ⟨marks, hb⟩ := stmtCode_gen loopBody hb
    cases h.pure
    have hcode : StmtGen scene body st (.while_ condition loopBody) _ _ st' := .while_ hc hw rfl hb
    exact ⟨_, by simpa using hcode⟩
  | doWhile loopBody condition =>
    obtain ⟨loopCode, st1, hb, h⟩ := h.newLabel.newLabel.newLabel.bind
    obtain ⟨marks, hb⟩ := stmtCode_gen loopBody hb
    obtain ⟨⟨c, t⟩, st2, hc, h⟩ := h.bind
    obtain ⟨u, hu, h⟩ := h.typeOf
    obtain ⟨w, hw, h⟩ := h.branchNonzero
    cases h.pure
    have hcode : StmtGen scene body st (.doWhile loopBody condition) _ _ _ :=
      .doWhile hb (exprCode_gen condition hc) hu hw
    exact ⟨_, by simpa using hcode⟩
  | for_ init condition post loopBody =>
    obtain ⟨st0, hloop, rfl⟩ := h.inScope
    have hinit : ∀ s ∈ init, Recorded scene { body with
        loop := some ⟨⟨"for_post", st.labels + 2⟩, ⟨"for_end", st.labels + 3⟩⟩ } s := by
      cases init with
      | none => exact fun s hs => nomatch hs
      | some first =>
        have hfirst := @stmtCode_gen first
        exact fun s hs => Option.some.inj hs ▸ hfirst
    obtain ⟨c, marks, st1, hi, h⟩ := hloop.newLabel.newLabel.newLabel.init hinit
    obtain ⟨test, st2, hc, h⟩ := h.test
    obtain ⟨loopCode, st3, hb, h⟩ := h.bind
    obtain ⟨marks', hb⟩ := stmtCode_gen loopBody hb
    obtain ⟨postCode, st4, hp, h⟩ := h.post
    cases h.pure
    exact ⟨_, .for_ hi hc rfl hb hp⟩
  | _ =>
    exact h.refuse.elim
termination_by structural s

/-- The code that the generator gives for statements. -/
theorem stmtsCode_gen (ss : List (Stmt NodeId)) {body : Body} {st st' : State} {code : Code}
    (h : stmtsCode body ss scene st = .ok (code, st')) :
    ∃ marks, StmtsGen scene body st ss code marks st' := by
  cases ss with
  | nil =>
    cases Yields.pure h
    exact ⟨_, .nil⟩
  | cons s rest =>
    obtain ⟨c, st1, hs, h⟩ := Yields.bind h
    obtain ⟨c', st2, hr, h⟩ := h.bind
    cases h.pure
    obtain ⟨marks, hs⟩ := stmtCode_gen s hs
    obtain ⟨marks', hr⟩ := stmtsCode_gen rest hr
    exact ⟨_, .cons hs hr⟩
termination_by structural ss

end

end Statements

/-! ## 6. What phrases keep -/

/-- What an expression keeps: the locals stay, and its labels are new. -/
structure Calm (st : State) (code : Code) (st' : State) : Prop where
  scopes : st'.scopes = st.scopes
  pending : st'.pending = st.pending
  fresh : Fresh nowhere st st' code

/-- The labels that statements of a function lead to: the end of the function, and those of the loop. -/
def Body.leads (body : Body) : Label → Prop :=
  fun l => l = body.exit ∨ ∃ loop, body.loop = some loop ∧ (l = loop.next ∨ l = loop.done)

/-- In a loop, statements lead to the labels of the loop or out of the function. -/
theorem Body.leads_loop {body : Body} {next done l : Label}
    (h : Body.leads { body with loop := some ⟨next, done⟩ } l) : l = body.exit ∨ l = next ∨ l = done := by
  rcases h with h | ⟨loop, hloop, h⟩
  · exact .inl h
  · cases hloop
    exact .inr h

section Kept

variable {outer outer' : Label → Prop} {scene : Scene} {st st1 st2 st' : State} {code more : Code} {name : String} {t : CType}

theorem count_cons_instr (i : Instr) (l : Label) (code : Code) :
    (instr i :: code).count (.label l) = code.count (.label l) :=
  count_cons_of_ne (by simp)

theorem Calm.append (h : Calm st code st1) (h' : Calm st1 more st2) : Calm st (code ++ more) st2 :=
  ⟨h'.scopes.trans h.scopes, h'.pending.trans h.pending, h.fresh.append h'.fresh⟩

theorem Calm.instrs (h : ∀ i ∈ is, Names nowhere st.strings i) : Calm st (instrs is) st := ⟨rfl, rfl, .instrs h⟩

theorem Calm.flat (h : is.all isFlat) : Calm st (Codegen.instrs is) st :=
  .instrs fun i hi => names_of_isFlat (all_eq_true.mp h i hi)

theorem Calm.nil : Calm st [] st := @Calm.flat _ [] rfl

theorem Converts.exists_instrs (h : Converts source target code) :
    ∃ w w', code = instrs (conversion w w') := by
  cases h with
  | void => exact ⟨.word, .word, rfl⟩
  | widths => exact ⟨_, _, rfl⟩

theorem Converts.calm (h : Converts source target code) : Calm st code st := by
  obtain ⟨w, w', rfl⟩ := h.exists_instrs
  cases w <;> cases w' <;> exact .flat rfl

theorem Loads.calm (h : Loads scene st name code t) : Calm st1 code st1 := by
  cases h with
  | slot => exact .flat rfl
  | global => exact Calm.append (.flat rfl) (.flat rfl)

theorem Stores.calm (h : Stores scene st name t code) : Calm st1 code st1 := by
  cases h with
  | slot => exact .flat rfl
  | global => exact Calm.append (.flat rfl) (.flat rfl)

theorem flat_immediate : (immediateInstrs w n).all isFlat := by
  refine all_eq_true.mpr ?_
  unfold immediateInstrs
  split
  · exact nofun
  · exact forall_mem_cons.mpr ⟨rfl, forall_mem_map.mpr fun _ _ => rfl⟩

theorem flat_sign {op : UnaryOp} : (signInstrs w op).all isFlat := by
  cases op <;> rfl

theorem flat_compute {op : ArithOp} {w count : Width} : (computeInstrs op w count).all isFlat := by
  cases op <;> rfl

theorem flat_step {op : UpdateOp} (h : stepInstr? w op = some i) : [i].all isFlat := by
  cases op <;> cases h <;> rfl

theorem flat_argumentLoads (h : argumentLoads params scene st = .ok (code, st')) :
    ∃ is, code = instrs is ∧ is.all isFlat := by
  obtain ⟨-, is, rfl, his⟩ := argumentLoads_eq_ok h
  refine ⟨is, rfl, all_eq_true.mpr fun i hi => ?_⟩
  obtain ⟨r, offset, rfl⟩ := his i hi
  rfl

attribute [local simp] Names Instr.target? address? or_imp forall_and

theorem calm_spill : Calm st (instrs (spillInstrs w)) st := by
  cases w <;> exact .instrs (by simp [spillInstrs])

theorem calm_pop : Calm st (popCode index) st := .instrs (by simp)

/-- A string has the label that it has, or a new one. -/
theorem stringLabel_calm (h : Gen.stringLabel text scene st = .ok (l, st')) : Calm st (addressCode 0 (.label l)) st' := by
  obtain ⟨_, st1, hget, h⟩ := Yields.bind h
  cases hget
  cases hl : st.strings.lookup text with
  | some known =>
    rw [hl] at h
    cases h.pure
    have hmem := mem_map_of_mem (f := (·.2)) (mem_of_lookup hl)
    exact .instrs (by simpa using hmem)
  | none =>
    rw [hl] at h
    obtain ⟨⟨⟩, st2, hset, h⟩ := h.newLabel.bind
    cases hset
    cases h.pure
    show Calm st ([] ++ instrs [.page 0 (.label _), .pageOffset 0 (.label _)]) _
    refine .append ?_ (.instrs (by simp))
    refine ⟨rfl, rfl, Nat.le_succ _, ⟨_, rfl, fun m => ?_⟩, by simp⟩
    by_cases hm : (⟨"str", st.labels + 1⟩ : Label) = m
    · subst hm
      simp [State.labelled]
    · simp [hm]

/-- Labels that are taken before a phrase can stand anywhere in its code. -/
theorem Calm.taken (ps : List String) (h : Calm (st.labelled (st.labels + ps.length)) inner st')
    (hc : ∀ l : Label, code.count (.label l) ≤ inner.count (.label l) + (taken st.labels 1 ps).count (.label l))
    (hn : (∀ i, instr i ∈ code → instr i ∈ inner ∨ Names (label · ∈ code) [] i) ∧
      ∀ l, nowhere l ∨ label l ∈ inner → nowhere l ∨ label l ∈ code) :
    Calm st code st' := ⟨h.scopes, h.pending, .taken ps h.fresh hc hn⟩

theorem calm_unwind {args : List (Expr NodeId)} :
    Calm st (if args.isEmpty then [] else Codegen.instrs [.shrinkStack (16 * args.length)]) st := by
  split
  · exact .nil
  · exact .instrs (by simp)

/-- **An expression keeps the locals, and its labels are new.** -/
theorem ExprGen.calm (h : ExprGen scene st e code t st') :
    Calm st code st' := by
  induction h using @ExprGen.rec scene _ (fun st _ _ code st' _ => Calm st code st') with
  | int | char | measure => exact .flat flat_immediate
  | string _ hl => exact stringLabel_calm hl
  | ident h => exact h.calm
  | sign _ _ _ hc _ ih => exact (ih.append hc.calm).append (.flat flat_sign)
  | logicalNot _ _ ih => exact ih.append (.flat rfl)
  | logicalAnd _ _ _ _ ihl ihr =>
    refine (ihl.append ihr).taken ["and_false", "and_end"] (fun l => ?_) (by simp +contextual [verdictCode])
    simp only [taken, Nat.reduceAdd, count_append, count_instr, count_verdict]
    omega
  | logicalOr _ _ _ _ _ _ ihl ihr =>
    refine (ihl.append ihr).taken ["or_true", "or_end"] (fun l => ?_) (by simp +contextual [verdictCode])
    simp only [taken, Nat.reduceAdd, count_append, count_instr, count_verdict]
    omega
  | arith _ _ hc _ _ _ hc' _ _ ihl ihr =>
    exact (((ihl.append hc.calm).append calm_spill).append ((ihr.append hc'.calm).append calm_pop)).append (.flat flat_compute)
  | relation _ _ hc _ _ hc' ihl ihr =>
    exact (((ihl.append hc.calm).append calm_spill).append ((ihr.append hc'.calm).append calm_pop)).append
      (@Calm.flat _ [_, _] rfl)
  | assign _ _ _ hc hs ih => exact (ih.append hc.calm).append hs.calm
  | assignOp _ _ hl _ _ _ hc hs ih =>
    exact (((hl.calm.append calm_spill).append ((ih.append hc.calm).append calm_pop)).append (.flat flat_compute)).append
      hs.calm
  | update _ _ hl _ hi hs => exact (hl.calm.append (.flat (flat_step hi))).append hs.calm
  | postUpdate _ _ hl _ hi hs =>
    exact (hl.calm.append calm_spill).append ((Calm.append (.flat (flat_step hi)) hs.calm).append calm_pop)
  | call _ _ _ hl ih =>
    obtain ⟨is, rfl, hflat⟩ := flat_argumentLoads hl
    exact ((ih.append (.flat hflat)).append (@Calm.flat _ [_] rfl)).append calm_unwind
  | comma _ _ ihl ihr => exact ihl.append ihr
  | conditional _ _ _ _ _ hcv _ _ hcv' ihc iht ihe =>
    refine ((ihc.append (iht.append hcv.calm)).append (ihe.append hcv'.calm)).taken ["cond_else", "cond_end"]
      (fun l => ?_) (by simp +contextual)
    simp only [taken, Nat.reduceAdd, count_append, count_instr]
    omega
  | cast _ _ hc ih =>
    rcases hc with ⟨-, rfl⟩ | ⟨-, hc⟩
    · exact ih.append .nil
    · exact ih.append hc.calm
  | nil => exact .nil
  | cons _ _ hc _ _ ih ihr => exact ((ih.append hc.calm).append calm_spill).append ihr

theorem Calm.kept (h : Calm st code st') : Kept nowhere st code st' where
  fresh := h.fresh
  outer := congrArg _ h.scopes
  nonempty := fun hne => h.scopes ▸ hne
  slots := by
    unfold State.slots
    rw [h.scopes, h.pending]

theorem kept_declared (hp : st.pending = slot :: pending) :
    Kept nowhere st [] (st.declared name slot pending) where
  fresh := by
    unfold State.declared
    split <;> exact ⟨Nat.le_refl _, ⟨[], (append_nil _).symm, fun _ => Nat.zero_le _⟩, nofun⟩
  outer := by
    unfold State.declared
    split <;> simp [*]
  nonempty := by
    unfold State.declared
    split <;> simp [*]
  slots := (State.declared_slots hp).subperm

theorem Kept.taken (ps : List String) (h : Kept outer' (st.labelled (st.labels + ps.length)) inner st')
    (hc : ∀ l : Label, code.count (.label l) ≤ inner.count (.label l) + (taken st.labels 1 ps).count (.label l))
    (hn : (∀ i, instr i ∈ code → instr i ∈ inner ∨ Names (label · ∈ code) [] i) ∧
      ∀ l, outer' l ∨ label l ∈ inner → outer l ∨ label l ∈ code) :
    Kept outer st code st' := ⟨.taken ps h.fresh hc hn, h.outer, h.nonempty, h.slots⟩

theorem Kept.jump (ho : outer l) : Kept outer st [instr (.branch l)] st :=
  ⟨@Fresh.instrs _ _ [_] (by simpa using ho), rfl, id, .refl _⟩

theorem TestGen.kept {e : Option (Expr NodeId)} (h : TestGen scene done st e code st') :
    Kept (· = done) st code st' := by
  cases h with
  | absent => exact .refl
  | present h => exact h.calm.kept.any.append ⟨@Fresh.instrs _ _ [_] (by simp), rfl, id, .refl _⟩

theorem PostGen.kept {e : Option (Expr NodeId)} (h : PostGen scene st e code st') : Kept nowhere st code st' := by
  cases h with
  | absent => exact .refl
  | present h => exact h.calm.kept

/-- Closing the innermost scope gives up what was declared in it. -/
theorem Kept.closed (h : Kept outer st.opened code st') : Kept outer st code st'.closed where
  fresh := ⟨h.fresh.le, h.fresh.once, h.fresh.names⟩
  outer := congrArg (List.drop 1) h.outer
  nonempty := fun hne heq => hne (h.outer.symm.trans heq)
  slots := (State.closed_slots st').subperm.trans h.slots

/-- **A statement keeps the scopes around the innermost, and its labels are new.** -/
theorem StmtGen.kept {s : Stmt NodeId} {body : Body} (h : StmtGen scene body st s code marks st') :
    Kept body.leads st code st' := by
  induction h using @StmtGen.rec scene _ (fun body st _ code _ st' _ => Kept body.leads st code st')
    (fun body st _ code _ st' _ => Kept body.leads st code st') with
  | silent => exact .refl
  | group _ ih => exact ih
  | object hp => exact (kept_declared hp).any
  | init hp h _ hc => exact ((kept_declared hp).append ((h.calm.append hc.calm).append (@Calm.flat _ [_] rfl)).kept).any
  | expr h => exact h.calm.kept.any
  | leave => exact .jump (.inl rfl)
  | break_ h => exact .jump (.inr ⟨_, h, .inr rfl⟩)
  | continue_ h => exact .jump (.inr ⟨_, h, .inl rfl⟩)
  | return_ h _ hc => exact (h.calm.append hc.calm).kept.any.append (.jump (.inl rfl))
  | compound _ ih => exact ih.closed
  | ifThen hc _ htest _ ih =>
    refine (hc.calm.kept.any.append ih).taken ["else", "endif"] (fun l => ?_) (by simp +contextual [htest])
    simp only [taken, Nat.reduceAdd, htest, count_append, count_cons_instr, count_nil]
    omega
  | ifElse hc _ htest _ hmiddle _ iht ihe =>
    refine ((hc.calm.kept.any.append iht).append ihe).taken ["else", "endif"] (fun l => ?_)
      (by simp +contextual [htest, hmiddle])
    simp only [taken, Nat.reduceAdd, hmiddle, htest, count_append, count_cons_instr]
    omega
  | while_ hc _ htest _ ih =>
    refine (hc.calm.kept.any.append ih).taken ["while_cond", "while_end"] (fun l => ?_)
      (by simp +contextual [htest, Body.leads])
    simp only [taken, Nat.reduceAdd, htest, count_append, count_cons_instr]
    omega
  | doWhile _ hc _ _ ih =>
    refine (ih.append hc.calm.kept.any).taken ["do_body", "do_cond", "do_end"] (fun l => ?_)
      (by simp +contextual [Body.leads])
    simp only [taken, Nat.reduceAdd, count_append, count_cons_instr]
    omega
  | for_ _ hc hfront _ hp ihi ihb =>
    refine Kept.closed ?_
    refine (((ihi.append (hc.kept.mono fun _ h => .inr ⟨_, rfl, .inr h⟩)).append ihb).append hp.kept.any).taken
      ["for_cond", "for_post", "for_end"] (fun l => ?_) (by simp +contextual [hfront, Body.leads])
    simp only [taken, Nat.reduceAdd, hfront, count_append, count_cons_instr, State.opened_labels]
    omega
  | absent => exact .refl
  | present _ ih => exact ih
  | nil => exact .refl
  | cons _ _ ih ihr => exact ih.append ihr

theorem InitGen.kept (h : InitGen scene body st s code marks st') :
    Kept body.leads st code st' := by
  cases h with
  | absent => exact .refl
  | present h => exact h.kept

end Kept

/-! ## 7. Functions -/

/-- Saves the frame pointer and the link register and makes room for a frame. -/
def entryInstrs (frame : Nat) : List Instr :=
  [.enter, .setFrame] ++ if frame = 0 then [] else [.growStack frame]

/-- Gives up the frame and takes the saved registers back. -/
def exitInstrs (frame : Nat) : List Instr := (if frame = 0 then [] else [.shrinkStack frame]) ++ [.leave]

/-- The code that stores arguments into slots, from the register with some number on. -/
inductive ParamsGen : List (String × Slot) → Nat → List Instr → Prop where
  | nil {index} : ParamsGen [] index []
  | cons {p ps index is w} (hw : widthOf p.2.type = .ok w) (h : ParamsGen ps (index + 1) is) :
      ParamsGen (p :: ps) index (.storeSlot ⟨index, w⟩ p.2.offset :: is)

/-- The code of a function: its entry, the stores of its arguments, its body and its exit. -/
structure FunctionGen (scene : Scene) (st : State) (f : FunctionDef NodeId) (body : List (Stmt NodeId))
    (code : Code) (st' : State) where
  layout : Layout
  returnType : CType
  stores : List Instr
  bodyCode : Code
  marks : List Nat
  hlayout : Layout.ofFunction f body = .ok layout
  hstores : ParamsGen layout.params 0 stores
  hbody : StmtGen scene { exit := ⟨"return", st.labels + 1⟩, returnType }
    (State.labelled { st with scopes := [layout.params], pending := layout.locals } (st.labels + 1))
    (.compound body) bodyCode marks st'
  hcode : code = [.global f.name, .align 2, .symbol f.name] ++ instrs (entryInstrs layout.frameSize) ++
    instrs stores ++ bodyCode ++ [label ⟨"return", st.labels + 1⟩] ++
    instrs (exitInstrs layout.frameSize) ++ [instr .ret]

section Functions

variable {scene : Scene} {st st' : State} {f : FunctionDef NodeId} {body : List (Stmt NodeId)} {code : Code}

theorem paramStores_gen (h : (List.mapM (fun ((_, slot), i) => storeSlotCode slot i : (String × Slot) × Nat → Gen Code)
      (ps.zipIdx index)) scene st = .ok (cs, st')) :
    st' = st ∧ ∃ is, ParamsGen ps index is ∧ cs.flatten = instrs is := by
  induction ps generalizing index cs with
  | nil =>
    cases Yields.pure h
    exact ⟨rfl, [], .nil, rfl⟩
  | cons p ps ih =>
    rw [zipIdx_cons, mapM_cons] at h
    obtain ⟨w, hw, h⟩ := Yields.storeSlot h
    obtain ⟨rest, st1, hrest, h⟩ := h.bind
    cases h.pure
    obtain ⟨rfl, is, his, hflat⟩ := ih hrest
    refine ⟨rfl, _ :: is, .cons hw his, ?_⟩
    rw [flatten_cons, hflat]
    rfl

/-- **Whatever code the generator gives for a function is described so.** -/
theorem functionCode_gen (h : functionCode f body scene st = .ok (code, st')) :
    ∃ g : FunctionGen scene st f body code st', resultType f = .ok g.returnType := by
  obtain ⟨layout, hlayout, h⟩ := Yields.lift h
  obtain ⟨⟨⟩, st1, hset, h⟩ := h.bind
  cases hset
  obtain ⟨returnType, hreturn, h⟩ := h.newLabel.lift
  obtain ⟨stores, st2, hstores, h⟩ := h.bind
  obtain ⟨rfl, is, hstores, hflat⟩ := paramStores_gen hstores
  obtain ⟨c, st3, hbody, h⟩ := h.bind
  obtain ⟨marks, hbody⟩ := stmtCode_gen _ hbody
  cases h.pure
  refine ⟨⟨layout, returnType, is, c, marks, hlayout, hstores, hbody, ?_⟩, hreturn⟩
  unfold entryInstrs exitInstrs
  rw [hflat]
  by_cases hzero : layout.frameSize = 0 <;> simp [hzero, instrs]

theorem ParamsGen.flat (h : ParamsGen ps index is) : is.all isFlat := by
  induction h with
  | nil => rfl
  | cons _ _ ih => exact ih

/-- **The labels of a function are new**, and it branches into itself. -/
theorem FunctionGen.fresh (g : FunctionGen scene st f body code st') : Fresh nowhere st st' code := by
  obtain ⟨layout, returnType, stores, c, marks, -, hstores, hbody, rfl⟩ := g
  have hf := hbody.kept.fresh.mono fun l hl => hl.resolve_right fun ⟨_, hloop, _⟩ => nomatch hloop
  have hframe {outer} : ∀ i ∈ entryInstrs layout.frameSize ++ exitInstrs layout.frameSize ++ [.ret], Names outer [] i := by
    unfold entryInstrs exitInstrs
    split <;> simp [Names, Instr.target?, address?]
  refine Fresh.taken ["return"] ⟨hf.le, hf.once, hf.names⟩ (fun l => ?_) ⟨fun i hi => ?_, fun l hl => .inr ?_⟩
  · simp [count_instrs, taken, count_cons]
  · have hcases : instr i ∈ c ∨ i ∈ stores ∨
        i ∈ entryInstrs layout.frameSize ++ exitInstrs layout.frameSize ++ [.ret] := by
      simp [instrs] at hi ⊢
      tauto
    exact hcases.imp_right (·.elim (fun hi => names_of_isFlat (all_eq_true.mp hstores.flat i hi)) (hframe i))
  · rcases hl with rfl | hl <;> simp [*]

/-- The slots of a function lie in its frame. -/
theorem FunctionGen.offset_le (g : FunctionGen scene st f body code st')
    (h : slot ∈ g.layout.params.map (·.2) ++ g.layout.locals) : slot.offset ≤ g.layout.frameSize := by
  obtain ⟨-, ps, ts, -, -, hlayout⟩ := Layout.ofFunction_eq_ok g.hlayout
  rw [hlayout] at h ⊢
  have hslots : slot ∈ Layout.slotsFrom 0 (ps.map (·.2) ++ ts) := by
    rw [Layout.slotsFrom_append, length_map, Nat.zero_add]
    rwa [map_snd_zip (by simp [Layout.length_slotsFrom])] at h
  have hhigh := (Layout.mem_slotsFrom hslots).2.2.2
  rw [length_append, length_map] at hhigh
  show slot.offset ≤ (8 * (ps.length + ts.length) + 15) / 16 * 16
  omega

end Functions

end CCompiler.Codegen
