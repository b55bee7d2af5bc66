import CCompiler.Analysis.SourceUnit
import CCompiler.Grammar.Goal
import CCompiler.Proofs.Steps

/-!
# Two evaluators of constant expressions

The bounds of arrays are computed while a source is read, all other constant expressions when it is analysed. The
first evaluator rounds quotients towards zero and evaluates both operands of every operator; the second rounds them
down and stops where the left operand decides.

* `Steady` -- expressions whose value does not hang on the rounding;
* `evaluators_agree` -- on these the values are equal.
-/
namespace CCompiler.Analysis

open Grammar (Names evalSize?)

/-- A tree as it was read, before its nodes were numbered. -/
def erased (e : Expr NodeId) : Expr Unit := Id.run (e.mapNotes fun _ => pure ())

/-- Division gives one answer however it rounds: it leaves no remainder, or the operands have one sign. -/
def Exact (op : ArithOp) (a b : Int) : Prop := op = .div ∨ op = .rem → b ∣ a ∨ 0 ≤ a ∧ 0 ≤ b ∨ a < 0 ∧ b < 0

/-- An expression of literals, casts and operators in which no quotient hangs on how it is rounded. -/
inductive Steady (types : Names) : Expr NodeId → Prop
  | int {n text} : Steady types (.int n text)
  | cast {n spec e} (h : Steady types e) : Steady types (.cast n spec e)
  | unary {n op e} (h : Steady types e) : Steady types (.unary n op e)
  | binary {n op l r} (hl : Steady types l) (hr : Steady types r)
      (hexact : ∀ {arith a b}, op = .arith arith → evalSize? types (erased l) = .ok (some a) →
        evalSize? types (erased r) = .ok (some b) → Exact arith a b) : Steady types (.binary n op l r)
  | conditional {n c l r} (hc : Steady types c) (hl : Steady types l) (hr : Steady types r) :
      Steady types (.conditional n c l r)

variable {types : Names} {e x y : Expr NodeId} {l r c : Expr Unit} {n : Unit} {a b v w : Int} {depth : Nat}
  {scope : ScopePath} {standard : Standard} {s s' : State} {ask : Ask}

theorem value_of_typed (h : Literal.typed? text = .ok (some (w, kind)))
    (hsize : Literal.value? text = .ok (some v)) : w = v := by
  obtain ⟨body, hbody, h⟩ := bind_ok h
  unfold Literal.value? at hsize
  rw [hbody] at hsize
  cases body with
  | none => cases h
  | some value =>
    dsimp only at h
    split at h
    · cases h
    obtain ⟨_, -, hp⟩ := Option.map_eq_some_iff.mp (Except.ok.inj h)
    cases hp
    split at hsize
    · exact Option.some.inj (Except.ok.inj hsize)
    · cases hsize

theorem evalUnary_eq : Grammar.evalUnary op = evalUnary? op := by
  cases op <;> rfl

theorem evalArith_eq (h : Exact op a b) : Grammar.evalArith op a b = evalArith? op a b := by
  have hround : op = .div ∨ op = .rem → a.tdiv b = a.fdiv b ∧ a.tmod b = a.fmod b := by
    intro hop
    rw [Int.tdiv_eq_fdiv, Int.tmod_eq_fmod]
    rcases h hop with hdvd | ⟨ha, hb⟩ | ⟨ha, hb⟩
    · simp [hdvd]
    · simp [ha, hb]
    · have hnat : b.toNat = 0 := Int.toNat_of_nonpos (Int.le_of_lt hb)
      simp [Int.not_le.mpr ha, Int.not_le.mpr hb, Int.sign_eq_neg_one_of_neg hb, hnat]
  cases op with
  | div => rw [Grammar.evalArith, evalArith?, (hround (.inl rfl)).1]
  | rem => rw [Grammar.evalArith, evalArith?, (hround (.inr rfl)).2]
  | _ => rfl

theorem evalSize_unary (h : evalSize? types (.unary n op l) = .ok (some v)) :
    ∃ a, evalSize? types l = .ok (some a) ∧ Grammar.evalUnary op a = some v := by
  obtain ⟨a, ha, hv⟩ := bind_ok h
  cases a with
  | none => cases hv
  | some a => exact ⟨a, ha, Except.ok.inj hv⟩

theorem evalSize_binary (h : evalSize? types (.binary n op l r) = .ok (some v)) :
    ∃ a b, evalSize? types l = .ok (some a) ∧ evalSize? types r = .ok (some b) ∧
      Grammar.evalBinary op a b = .ok (some v) := by
  obtain ⟨a, ha, h⟩ := bind_ok h
  obtain ⟨b, hb, hv⟩ := bind_ok h
  split at hv
  · exact ⟨_, _, ha, hb, hv⟩
  · cases hv

theorem evalSize_conditional (h : evalSize? types (.conditional n c l r) = .ok (some v)) :
    ∃ a, evalSize? types c = .ok (some a) ∧
      (if a ≠ 0 then evalSize? types l else evalSize? types r) = .ok (some v) := by
  obtain ⟨a, ha, hv⟩ := bind_ok h
  cases a with
  | none => cases hv
  | some a => exact ⟨a, ha, hv⟩

theorem exists_evalConstant (h : answersWithin depth (.value e scope) standard s = .ok (some w, s')) :
    ∃ depth, evalConstant (answersWithin depth) scope e standard s = .ok (some w, s') := by
  cases depth with
  | zero => cases h
  | succ depth => exact ⟨depth, h⟩

theorem ok_ofNumber {β : Type} {result : Except NumberFault β} {value : β}
    (h : ofNumber result standard s = .ok (value, s')) : result = .ok value := by
  cases result with
  | error => cases h
  | ok => cases h; rfl

theorem exists_value {f : Option Int → Option Int} (hf : f none = none)
    (h : (return f (← ask (.value x scope)) : Analyze (Option Int)) standard s = .ok (some w, s')) :
    ∃ a, ask (.value x scope) standard s = .ok (some a, s') ∧ f (some a) = some w := by
  obtain ⟨⟨a, s1⟩, ha, hw⟩ := run_bind.mp h
  obtain ⟨hfa, rfl⟩ := Prod.mk.inj (Except.ok.inj hw)
  cases a with
  | none => cases hf.symm.trans hfa
  | some a => exact ⟨a, ha, hfa⟩

/-- The left operand has a value, and if the right one has some value wherever it is evaluated, the first evaluator
    gives the same for these values. -/
theorem evalBinary_of_value {o : BinaryOp} (h : evalBinary? ask scope o x y standard s = .ok (some w, s')) :
    ∃ a s1, ask (.value x scope) standard s = .ok (some a, s1) ∧ ∀ {b},
      (∀ {b' s2}, ask (.value y scope) standard s1 = .ok (some b', s2) → b' = b) →
      (∀ {op}, o = .arith op → Exact op a b) → Grammar.evalBinary o a b = .ok (some w) := by
  obtain ⟨⟨a, s1⟩, ha, h⟩ := run_bind.mp h
  cases a with
  | none => cases h
  | some a =>
    refine ⟨a, s1, ha, fun {b} hb hexact => ?_⟩
    cases o with
    | arith op =>
      obtain ⟨⟨b', s2⟩, hb', h⟩ := run_bind.mp h
      cases b' with
      | none => cases h
      | some b' =>
        cases hb hb'
        rw [Grammar.evalBinary, evalArith_eq (hexact rfl), ok_ofNumber h]
    | relation op =>
      obtain ⟨b', hb', hw⟩ := exists_value rfl h
      cases hb hb'
      cases hw
      cases op <;> rfl
    | logicalAnd | logicalOr =>
      dsimp only at h
      split at h
      -- the left operand decides
      · cases h
        simp_all [Grammar.evalBinary, Grammar.truth]
      · obtain ⟨b', hb', hw⟩ := exists_value rfl h
        simp_all [Grammar.evalBinary, Grammar.truth, truth]
    | other =>
      obtain ⟨_, _, h⟩ := run_bind.mp h
      cases h

/-- **The two evaluators agree wherever both give a value, on expressions of literals, casts and operators in which
    no quotient hangs on how it is rounded.** -/
theorem evaluators_agree (h : Steady types e) (hsize : evalSize? types (erased e) = .ok (some v))
    (hvalue : answersWithin depth (.value e scope) standard s = .ok (some w, s')) : w = v := by
  induction h generalizing v w depth s s' with
    (obtain ⟨depth, hvalue⟩ := exists_evalConstant hvalue)
  | int =>
    obtain ⟨⟨typed, s1⟩, htyped, hw⟩ := run_bind.mp hvalue
    cases typed with
    | none => cases hw
    | some =>
      cases hw
      exact value_of_typed (ok_ofNumber htyped) hsize
  | cast h ih =>
    obtain ⟨⟨t, s1⟩, -, hvalue⟩ := run_bind.mp hvalue
    split at hvalue
    · exact ih hsize hvalue
    · cases hvalue
  | unary h ih =>
    obtain ⟨a, ha, hv⟩ := evalSize_unary hsize
    rw [evalConstant] at hvalue
    split at hvalue
    · obtain ⟨b, hb, hw⟩ := exists_value rfl hvalue
      cases ih ha hb
      rw [evalUnary_eq] at hv
      exact Option.some.inj (hw.symm.trans hv)
    · cases hvalue
  | binary hl hr hexact ihl ihr =>
    obtain ⟨a, b, ha, hb, hv⟩ := evalSize_binary hsize
    obtain ⟨a', s1, ha', hw⟩ := evalBinary_of_value hvalue
    cases ihl ha ha'
    have hsame := (hw (fun hb' => ihr hb hb') fun hop => hexact hop ha hb).symm.trans hv
    exact Option.some.inj (Except.ok.inj hsame)
  | conditional hc hl hr ihc ihl ihr =>
    obtain ⟨a, ha, hv⟩ := evalSize_conditional hsize
    obtain ⟨⟨b, s1⟩, hb, hvalue⟩ := run_bind.mp hvalue
    cases b with
    | none => cases hvalue
    | some b =>
      cases ihc ha hb
      dsimp only at hvalue
      split at hv <;> rename_i ha
      · exact ihl hv (by rwa [if_pos ha] at hvalue)
      · exact ihr hv (by rwa [if_neg ha] at hvalue)

/-- A negative quotient of literals. -/
def quotient (a b : String) : Expr NodeId := .binary 1 (.arith .div) (.unary 2 .minus (.int 3 a)) (.int 4 b)

theorem quotient_agrees : evalSize? [] (erased (quotient "6" "3")) = .ok (some (-2)) ∧
    ∀ {w s'}, answersWithin 4 (.value (quotient "6" "3") fileScope) .c11 {} = .ok (some w, s') → w = -2 := by
  have hsize : evalSize? [] (erased (quotient "6" "3")) = .ok (some (-2)) := rfl
  have hleft : evalSize? [] (erased (.unary 2 .minus (.int 3 "6"))) = .ok (some (-6)) := rfl
  have hright : evalSize? [] (erased (.int 4 "3")) = .ok (some 3) := rfl
  refine ⟨hsize, evaluators_agree (.binary (.unary .int) .int fun _ ha hb _ => ?_) hsize⟩
  cases hleft.symm.trans ha
  cases hright.symm.trans hb
  exact .inl ⟨-2, rfl⟩

/-- Minus seven by two is minus three as the bound of an array and minus four elsewhere. -/
theorem quotient_rounded_apart : evalSize? [] (erased (quotient "7" "2")) = .ok (some (-3)) ∧
    answersWithin 4 (.value (quotient "7" "2") fileScope) .c11 {} = .ok (some (-4), {}) :=
  ⟨rfl, rfl⟩

end CCompiler.Analysis
