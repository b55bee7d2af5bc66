import CCompiler.Proofs.Analysis.Declared

/-!
# Operands and callees

What operators ask of a floating operand beside one that is not arithmetic, and which signature a call of a name
is checked against where the name is also declared in a scope.

* `mixed_operands_accepted_iff` -- the operators that take such operands;
* `call_of_declared_name` -- a function by the name of an object takes the calls of the object.
-/
namespace CCompiler.Analysis

variable {ask : Ask} {scope : ScopePath} {standard : Standard} {s s1 s2 s' : State} {left right : Expr NodeId}
  {l r t tl tr : CType} {depth : Nat} {n m : NodeId}

attribute [local simp] run_bind

/-- One of two operands is floating and the other is not arithmetic. -/
def Mixed (l r : CType) : Prop :=
  l.isFloating = true ∧ r.isArithmetic = false ∨ l.isArithmetic = false ∧ r.isFloating = true

/-- Whether an operator takes mixed operands: sums, differences and the relations of order take any, and where
    operands must be scalar the other is a pointer. -/
def takesMixed (l r : CType) : BinaryOp → Bool
  | .arith .add | .arith .sub => true
  | .relation .eq | .relation .ne | .logicalAnd | .logicalOr => l.isPointer || r.isPointer
  | .relation _ => true
  | .arith _ | .other _ => false

theorem isArithmetic_of_isFloating (h : t.isFloating) : t.isArithmetic := by
  rw [CType.isArithmetic, h, Bool.or_true]

theorem isArithmetic_of_isInteger (h : t.isInteger) : t.isArithmetic := by
  rw [CType.isArithmetic, h, Bool.true_or]

theorem isPointer_of_isFloating (h : t.isFloating) : t.isPointer = false := by
  have hops : t.ops = [] := by simp_all [CType.isFloating]
  rw [CType.isPointer, CType.pointee?, hops]
  rfl

@[simp]
theorem ok_checkOperands :
    checkOperands rule test l r standard s = .ok x ↔ (test l ∧ test r) ∧ x = ((), s) := by
  simp [checkOperands, and_assoc]

namespace Mixed

variable (h : Mixed l r)

include h

theorem common : l.common? r = some (l.commonFloating r) := by
  unfold CType.common?
  rw [if_pos (by rcases h with h | h <;> simp [h])]

theorem not_arithmetic : ¬(l.isArithmetic ∧ r.isArithmetic) := by
  rcases h with h | h <;> simp [h]

theorem not_integer : ¬(l.isInteger ∧ r.isInteger) := fun hint =>
  h.not_arithmetic ⟨isArithmetic_of_isInteger hint.1, isArithmetic_of_isInteger hint.2⟩

theorem scalar_iff : l.isScalar ∧ r.isScalar ↔ (l.isPointer || r.isPointer) := by
  rcases h with ⟨hl, hr⟩ | ⟨hl, hr⟩
  · simp [CType.isScalar, isArithmetic_of_isFloating hl, isPointer_of_isFloating hl, hr]
  · simp [CType.isScalar, isArithmetic_of_isFloating hr, isPointer_of_isFloating hr, hl]

theorem binary_iff : (∃ x, binaryType ask scope op left right l r standard s = .ok x) ↔ takesMixed l r op := by
  cases op with
  | other => exact ⟨fun hok => (nomatch hok.choose_spec), nofun⟩
  | arith op =>
    cases op <;> simp [-bind_pure_comp, binaryType, takesMixed, arithType, RecordTable.sumType?,
      RecordTable.differenceType?, h.common, h.not_arithmetic, h.not_integer]
  | relation op =>
    cases op <;> simp [-bind_pure_comp, binaryType, takesMixed, checkEquality, h.common, ← h.scalar_iff]
  | logicalAnd | logicalOr => simp [-bind_pure_comp, binaryType, takesMixed, ← h.scalar_iff]

theorem branchesType_eq : branchesType ask scope left right l r standard s = .ok (l.commonFloating r, s) := by
  unfold branchesType
  rw [h.common]
  rfl

end Mixed

/-- **Sums, differences, relations of order and conditional expressions take a floating operand beside any other,
    equalities and connectives beside a pointer, and no other operator takes it beside an operand that is not
    arithmetic.** -/
theorem mixed_operands_accepted_iff (op : BinaryOp)
    (hl : answersWithin depth (.expr left scope) standard s = .ok (tl, s1))
    (hr : answersWithin depth (.expr right scope) standard s1 = .ok (tr, s2)) (h : Mixed tl.decay tr.decay) :
    ((∃ x, answersWithin (depth + 1) (.expr (.binary n op left right) scope) standard s = .ok x) ↔
      takesMixed tl.decay tr.decay op = true) ∧
    ∀ {c tc s0}, answersWithin depth (.expr c scope) standard s0 = .ok (tc, s) →
      checkCondition tc standard s = .ok ((), s) → s2.overloadShapes = [] → s2.overloadNodes = [] →
      ∃ x, answersWithin (depth + 1) (.expr (.conditional m c left right) scope) standard s0 = .ok x := by
  constructor
  · show (∃ x, (exprType (answersWithin depth) scope (.binary n op left right) >>= record _) standard s = .ok x) ↔ _
    simpa [exprType, hl, hr] using h.binary_iff
  · intro c tc s0 hc hscalar hshapes hnodes
    have hplain (e : Expr NodeId) : overload? e standard s2 = .ok (none, s2) := by
      show (if s2.overloadShapes.isEmpty && s2.overloadNodes.isEmpty then _ else _ : Analyze _) standard s2 = _
      rw [hshapes, hnodes]
      rfl
    show ∃ x, (exprType (answersWithin depth) scope (.conditional m c left right) >>= record _) standard s0 = .ok x
    by_cases heq : (tl.decay == tr.decay) = true
    · simp [-bind_pure_comp, exprType, conditionalType, inheritBranch, hc, hscalar, hl, hr, hplain, heq]
    · simp [-bind_pure_comp, exprType, conditionalType, inheritBranch, hc, hscalar, hl, hr, hplain, heq,
        h.branchesType_eq]

theorem string_plus_floating_accepted :
    ∃ x, answersWithin 2 (.expr (.binary 3 (.arith .add) (.string 1 "") (.float 2 "1.0")) fileScope) .c11 {} = .ok x :=
  Iff.mpr (And.left (mixed_operands_accepted_iff (m := 0) _ rfl rfl (.inr ⟨rfl, rfl⟩))) rfl

variable {args : List (Expr NodeId)} {pointed signature : Signature} {symbol : Symbol} {f : String} {callee : CType}

/-- The arguments of a call are analysed and fit a signature. -/
def ArgumentsFit (ask : Ask) (scope : ScopePath) (args : List (Expr NodeId)) (signature : Signature)
    (standard : Standard) (s s' : State) : Prop :=
  ∃ s1, analyzeArguments ask scope args standard s = .ok ((), s1) ∧
    checkCall ask scope args signature none standard s1 = .ok ((), s')

theorem analyzeArguments_eq : analyzeArguments ask scope args =
    args.mapM (fun arg => return (← ask (.expr arg scope)).decay) >>= fun _ => pure () := by
  induction args with
  | nil => simp [analyzeArguments]
  | cons arg args ih => simp [analyzeArguments, ih, List.mapM_cons]

/-- Whether arguments fit does not hang on the name in the messages. -/
theorem checkCall_named : checkCall ask scope args signature (some f) standard s = .ok x ↔
    checkCall ask scope args signature none standard s = .ok x := by
  have hargs (pairs : List (Expr NodeId × CType)) (index : Nat) (s : State) :
      checkArguments ask scope (some f) index pairs standard s = .ok x ↔
        checkArguments ask scope none index pairs standard s = .ok x := by
    induction pairs generalizing index s with
    | nil => rfl
    | cons pair pairs ih => simp [checkArguments, ih]
  unfold checkCall
  cases signature.params <;> simp [hargs]

theorem ok_callThrough (h : callee.decay.signature? = some signature) :
    callThrough ask scope callee args standard s = .ok (t, s') ↔
      ArgumentsFit ask scope args signature standard s s' ∧ signature.returnType = t := by
  simp [-bind_pure_comp, callThrough, h, ArgumentsFit, Unique.exists_iff, ← and_assoc]

theorem ok_callNamed (h : s.overloads.lookup f = none) :
    callNamed ask scope f args signature standard s = .ok (t, s') ↔
      ArgumentsFit ask scope args signature standard s s' ∧ signature.returnType = t := by
  have hget : (get : Analyze State) standard s = .ok (s, s) := rfl
  simp [-bind_pure_comp, callNamed, callSignature, hget, h, rankAll, best?, checkCall_named, ArgumentsFit,
    analyzeArguments_eq]
  grind

/-- **A name that is declared as an object has the type of the object, but a call of it is checked against the
    function by that name as long as there is one, and has the type that this function returns.** -/
theorem call_of_declared_name (hlocal : Scope.lookup? (s.scopesOf scope) f = some symbol)
    (hpointed : symbol.type.decay.signature? = some pointed) (hplain : s.overloads.lookup f = none) :
    exprType ask scope (.ident m f) standard s = .ok (symbol.type, s) ∧
    (exprType ask scope (.call n (.ident m f) args) standard s = .ok (t, s') ↔
      ArgumentsFit ask scope args ((s.signatures.lookup f).getD pointed) standard s s' ∧
      ((s.signatures.lookup f).getD pointed).returnType = t) := by
  have hlookup : lookup? scope f standard s = .ok (some symbol, s) := by
    rw [← hlocal]
    rfl
  have hget : (get : Analyze State) standard s = .ok (s, s) := rfl
  constructor
  · exact run_bind.mpr ⟨_, hlookup, rfl⟩
  cases hf : s.signatures.lookup f with
  | none =>
    rw [Option.getD_none, ← ok_callThrough hpointed]
    simp [exprType, callType, hget, hf, hlookup]
  | some g =>
    rw [← ok_callNamed hplain]
    simp [exprType, callType, hget, hf]

/-- A function `f` that returns `int`, and in a block a pointer `f` to one that returns `long`. -/
def shadowed : State :=
  { scopes := #[{}, { symbols := [("f", .object "f" ⟨"long", [.pointer, .function [] false], [], false⟩ none false)] }]
    signatures := [("f", ⟨.int, some [], false⟩)] }

theorem call_of_shadowing_pointer :
    exprType (answersWithin 1) [1, 0] (.call 1 (.ident 2 "f") []) .c11 shadowed = .ok (.int, shadowed) :=
  (call_of_declared_name rfl rfl rfl).2.mpr ⟨⟨_, rfl, rfl⟩, rfl⟩

end CCompiler.Analysis
