import CCompiler.Proofs.Codegen.Evaluation
import CCompiler.Proofs.Codegen.Phrases

/-!
# The generator on expressions over `int`

In the code of an expression over `int` all widths are those of a word, and conversions have no code. So it is
code that computes the expression, and the expression is an `int`.

* `Run.Evaluates` -- whatever the generator gives for an expression computes it;
* `ExprGen.computes` -- this holds of all expressions over `int`.
-/
namespace CCompiler.Codegen

open Machine (Label Line Instr Reg Width)

variable {a : NodeId} {typeOf : NodeId → Option CType}

section Pieces

variable {scene : Scene} {st : State} {t u : CType} {code : Code} {name : String} {slot : Slot}

/-- The type of a node that analysis took for an `int`. -/
theorem isInt_of_note (hn : isIntNote typeOf a) (h : typeOf a = some t) : isInt t := by
  unfold isIntNote at hn
  rwa [h] at hn

theorem width_eq_word (hint : isInt t) (h : widthOf t = .ok w) : w = .word :=
  Except.ok.inj (h.symm.trans (widthOf_int hint))

theorem Converts.int (h : Converts t u code) (ht : isInt t) (hu : isInt u) : code = [] := by
  cases h with
  | void => rfl
  | widths hw hw' =>
    rw [width_eq_word ht hw, width_eq_word hu hw']
    rfl

theorem Loads.known (h : Loads scene st name code t) (hs : slotOf st.scopes name = some slot)
    (hint : isInt slot.type) :
    code = instrs [.loadSlot (word 0) slot.offset] ∧ t = slot.type := by
  cases h with
  | slot hs' hw =>
    cases hs.symm.trans hs'
    rw [width_eq_word hint hw]
    exact ⟨rfl, rfl⟩
  | global hnone => cases hs.symm.trans hnone

theorem Stores.known (h : Stores scene st name t code) (hs : slotOf st.scopes name = some slot)
    (hint : isInt slot.type) : code = instrs [.storeSlot (word 0) slot.offset] := by
  cases h with
  | slot hs' hw =>
    cases hs.symm.trans hs'
    rw [width_eq_word hint hw]
    rfl
  | global hnone => cases hs.symm.trans hnone

theorem computeInstrs_word (h : isIntArith op) : computeInstrs op .word .word = [arithInstr op] := by
  cases op with
  | rem => cases h
  | _ => rfl

theorem chunks_word (value : Int) : chunks .word value =
    [((value % 2 ^ 32).toNat % 65536, 0), ((value % 2 ^ 32).toNat / 65536, 16)] := by
  show [_, _] = _
  congr 2
  · show ((value % _).toNat / 1 % 65536, 0) = _
    rw [Nat.div_one]
    rfl
  · have hbits : (value % 2 ^ 32).toNat / 65536 < 65536 := by omega
    show ((value % 2 ^ 32).toNat / 65536 % 65536, 16) = _
    rw [Nat.mod_eq_of_lt hbits]

theorem immediateInstrs_word (value : Int) : immediateInstrs .word value = immediate value := by
  unfold immediateInstrs immediate
  rw [chunks_word]
  generalize (value % 2 ^ 32).toNat = bits
  show _ :: ([(bits / 65536, 16)].filter _).map _ = _ :: if bits / 65536 = 0 then _ else _
  by_cases hz : bits / 65536 = 0
  · rw [hz]
    rfl
  · have hb : (bits / 65536 != 0) := bne_iff_ne.mpr hz
    rw [if_neg hz, List.filter_cons, if_pos hb]
    rfl

end Pieces

/-- Every name of some locals has a slot for an `int`. -/
def Known (locals : List String) (scopes : Scopes) : Prop :=
  ∀ name ∈ locals, ∃ slot, slotOf scopes name = some slot ∧ isInt slot.type = true

section Expressions

variable {scene : Scene} {r : Run} {locals : List String} {scopes : Scopes} {slot : Slot}

theorem isIntExpr_note (h : isIntExpr typeOf locals e) : isIntNote typeOf e.note := by
  fun_cases isIntExpr typeOf locals e <;> simp_all [isIntExpr, Expr.note]

/-- What the generator gives for an expression in some scopes computes it, and the result is an `int`. -/
def Run.Evaluates (r : Run) (scene : Scene) (scopes : Scopes) (e : Expr NodeId) : Prop :=
  ∀ ⦃st st' : State⦄ ⦃code : Code⦄ ⦃t : CType⦄, ExprGen scene st e code t st' → st.scopes = scopes →
    isInt t = true ∧ r.Computes scopes e code

namespace Run.Evaluates

theorem unary (hn : isIntNote scene.typeOf a)
    (ih : r.Evaluates scene scopes operand) : r.Evaluates scene scopes (.unary a op operand) := by
  intro st st' code t h hst
  cases h with
  | sign hop h ht hc hw =>
    obtain ⟨hu, hcode⟩ := ih h hst
    have hint := isInt_of_note hn ht
    cases hc.int hu hint
    refine ⟨hint, ?_⟩
    rw [List.append_nil]
    cases op with
    | plus => exact .unary hcode
    | minus | complement =>
      cases width_eq_word hint (hw.resolve_left nofun)
      exact .unary hcode
    | _ => cases hop
  | logicalNot h hw =>
    obtain ⟨hu, hcode⟩ := ih h hst
    cases width_eq_word hu hw
    exact ⟨rfl, .unary hcode⟩
  | measure h => cases h

theorem binary (hlaid : r.Laid scopes) (hn : isIntNote scene.typeOf a) (hop : isIntBinary op)
    (hl : isIntNote scene.typeOf left.note) (hr : isIntNote scene.typeOf right.note)
    (ihl : r.Evaluates scene scopes left) (ihr : r.Evaluates scene scopes right) :
    r.Evaluates scene scopes (.binary a op left right) := by
  intro st st' code t h hst
  cases h with
  | logicalAnd h hw h' hw' =>
    obtain ⟨hu, hc⟩ := ihl h hst
    obtain ⟨hu', hc'⟩ := ihr h' (h.calm.scopes.trans hst)
    cases width_eq_word hu hw
    cases width_eq_word hu' hw'
    exact ⟨rfl, .logical (z := true) hc hc'⟩
  | logicalOr h ht hw h' ht' hw' =>
    obtain ⟨-, hc⟩ := ihl h hst
    obtain ⟨-, hc'⟩ := ihr h' (h.calm.scopes.trans hst)
    cases width_eq_word (isInt_of_note hl ht) hw
    cases width_eq_word (isInt_of_note hr ht') hw'
    exact ⟨rfl, .logical (z := false) hc hc'⟩
  | @arith _ _ _ _ _ _ _ _ _ _ _ _ _ _ target _ _ h ht hc hw h' htarget hc' hcount =>
    obtain ⟨hu, hcode⟩ := ihl h hst
    obtain ⟨hu', hcode'⟩ := ihr h' (h.calm.scopes.trans hst)
    have hint := isInt_of_note hn ht
    have hint' : isInt target := by
      split_ifs at htarget with hs
      · exact isInt_of_note hr htarget
      · rw [htarget]
        exact hint
    cases hc.int hu hint
    cases hc'.int hu' hint'
    cases width_eq_word hint hw
    cases width_eq_word hint' hcount
    refine ⟨hint, ?_⟩
    rw [computeInstrs_word hop]
    simpa [instrs, popCode, spillInstrs, spill, unspill, binaryInstrs] using
      Computes.binary hop (by simp) (by simp) hlaid hcode hcode'
  | relation h ht hc hw h' hc' =>
    obtain ⟨hu, hcode⟩ := ihl h hst
    obtain ⟨hu', hcode'⟩ := ihr h' (h.calm.scopes.trans hst)
    obtain ⟨-, l, r, hl', hr', hp | hresult⟩ := Yields.operandType ht
    · simp [isPointer_of_isInt (isInt_of_note hl hl'), isPointer_of_isInt (isInt_of_note hr hr')] at hp
    have hint := isInt_of_note hn hresult
    cases hc.int hu hint
    cases hc'.int hu' hint
    cases width_eq_word hint hw
    refine ⟨rfl, ?_⟩
    simpa [instrs, popCode, spillInstrs, spill, unspill, binaryInstrs, word] using
      Computes.binary hop (by simp) (by simp) hlaid hcode hcode'
  | measure h => cases h

theorem assign (hlaid : r.Laid scopes) (hn : isIntNote scene.typeOf b) (hop : isIntAssign op)
    (hs : slotOf scopes name = some slot) (hslot : isInt slot.type)
    (hv : isIntNote scene.typeOf value.note) (ih : r.Evaluates scene scopes value) :
    r.Evaluates scene scopes (.assign a op (.ident b name) value) := by
  rintro st st' code t h rfl
  cases h with
  | assign ht h hvalue hc hstore =>
    have hint := isInt_of_note hn ht
    obtain ⟨-, hcode⟩ := ih h rfl
    cases hc.int (isInt_of_note hv hvalue) hint
    cases hstore.known (h.calm.scopes ▸ hs) hslot
    refine ⟨hint, ?_⟩
    simpa using Computes.assign hlaid hs hcode
  | assignOp ht _ hload hw h hvalue hc hstore =>
    have hint := isInt_of_note hn ht
    obtain ⟨-, hcode⟩ := ih h rfl
    cases hc.int (isInt_of_note hv hvalue) hint
    obtain ⟨rfl, -⟩ := hload.known hs hslot
    cases hstore.known (h.calm.scopes ▸ hs) hslot
    cases width_eq_word hint hw
    refine ⟨hint, ?_⟩
    rw [computeInstrs_word hop]
    simpa [instrs, popCode, spillInstrs, spill, unspill] using Computes.assignOp hlaid hs hop hcode
  | measure h => cases h

theorem update (hlaid : r.Laid scopes) (hn : isIntNote scene.typeOf a) (hs : slotOf scopes name = some slot)
    (hslot : isInt slot.type) : r.Evaluates scene scopes (.update a op (.ident b name) isPostfix) := by
  rintro st st' code t h rfl
  cases h with
  | update ht _ hload hw hi hstore | postUpdate ht _ hload hw hi hstore =>
    have hint := isInt_of_note hn ht
    obtain ⟨rfl, -⟩ := hload.known hs hslot
    cases hstore.known hs hslot
    cases width_eq_word hint hw
    cases op with
    | other => cases hi
    | _ =>
      cases hi
      first
      | exact ⟨hint, .update hlaid hs⟩
      | exact ⟨hint, .postUpdate hlaid hs⟩
  | measure h => cases h

theorem conditional {condition thenExpr elseExpr : Expr NodeId}
    (hn : isIntNote scene.typeOf a) (ht : isIntNote scene.typeOf thenExpr.note)
    (he : isIntNote scene.typeOf elseExpr.note) (ihc : r.Evaluates scene scopes condition)
    (iht : r.Evaluates scene scopes thenExpr) (ihe : r.Evaluates scene scopes elseExpr) :
    r.Evaluates scene scopes (.conditional a condition thenExpr elseExpr) := by
  intro st st' code t h hst
  cases h with
  | conditional hresult hc hw hthen hu hcv helse hu' hcv' =>
    have hint := isInt_of_note hn hresult
    obtain ⟨htest, hcode⟩ := ihc hc hst
    obtain ⟨-, hcode'⟩ := iht hthen (hc.calm.scopes.trans hst)
    obtain ⟨-, hcode''⟩ := ihe helse (hthen.calm.scopes.trans (hc.calm.scopes.trans hst))
    cases width_eq_word htest hw
    cases hcv.int (isInt_of_note ht hu) hint
    cases hcv'.int (isInt_of_note he hu') hint
    refine ⟨hint, ?_⟩
    simpa [word] using Computes.conditional hcode hcode' hcode''
  | measure h => cases h

end Run.Evaluates

/-- **The code of an expression over `int` computes the expression.** -/
theorem ExprGen.computes (he : isIntExpr scene.typeOf locals e)
    (hk : Known locals scopes) (hl : r.Laid scopes) : r.Evaluates scene scopes e := by
  fun_induction isIntExpr scene.typeOf locals e with try simp only [Bool.and_eq_true, List.contains_iff_mem] at he
  | case1 a text =>
    intro st st' code t h hst
    cases h with
    | int ht hn hw =>
      have hint := isInt_of_note he ht
      cases width_eq_word hint hw
      rw [immediateInstrs_word]
      exact ⟨hint, .int hn⟩
    | measure h => cases h
  | case2 a name =>
    rintro st st' code t h rfl
    obtain ⟨slot, hs, hslot⟩ := hk name he.2
    cases h with
    | ident h =>
      obtain ⟨rfl, rfl⟩ := h.known hs hslot
      exact ⟨hslot, .ident hl hs⟩
    | measure h => cases h
  | case3 a op operand ih =>
    exact .unary he.1.1 (ih he.2)
  | case4 a op left right ihl ihr =>
    obtain ⟨⟨⟨hn, hop⟩, hel⟩, her⟩ := he
    exact .binary hl hn hop (isIntExpr_note hel) (isIntExpr_note her) (ihl hel) (ihr her)
  | case5 a op b name value ih =>
    obtain ⟨⟨⟨⟨-, hn⟩, hop⟩, hname⟩, hv⟩ := he
    obtain ⟨slot, hs, hslot⟩ := hk name hname
    exact .assign hl hn hop hs hslot (isIntExpr_note hv) (ih hv)
  | case6 a op b name isPostfix =>
    obtain ⟨slot, hs, hslot⟩ := hk name he.2
    exact .update hl he.1.1.1 hs hslot
  | case7 a left right ihl ihr =>
    intro st st' code t h hst
    cases h with
    | comma h h' =>
      obtain ⟨-, hc⟩ := ihl he.1.2 h hst
      obtain ⟨hu, hc'⟩ := ihr he.2 h' (h.calm.scopes.trans hst)
      exact ⟨hu, .comma hc hc'⟩
    | measure h => cases h
  | case8 a condition thenExpr elseExpr ihc iht ihe =>
    obtain ⟨⟨⟨hn, hc⟩, ht⟩, he⟩ := he
    exact .conditional hn (isIntExpr_note ht) (isIntExpr_note he) (ihc hc) (iht ht) (ihe he)
  | case9 => cases he

end Expressions

end CCompiler.Codegen
