import CCompiler.Analysis.SourceUnit
import CCompiler.Proofs.Grammar.Declarators
import Mathlib.Data.List.Forall2

/-!
# Types of declared objects

A declarator of pointers and arrays derives a type from the one that its specifier stands for. Behind a name
the derivations stand as they are written, outermost first. Behind `typeof` they are taken one after another,
so the outermost is taken first and ends up innermost. The qualifiers of a type are those of its specifier,
whatever is derived from it.

* `typeof_declarator_iff` -- behind `typeof` and behind a name declarators give the same types if the
  derivations read the same from both ends, and otherwise not;
* `declared_assignable_iff` -- what decides whether a declared object can be assigned to.
-/
namespace CCompiler.Analysis

/-- The derivation that one of a declarator stands for, if this does not hang on other declarations: a pointer
    or an array of constant length. -/
def fixedOp? : DeclOp NodeId → Option TypeOp
  | .pointer => some .pointer
  | .array (.length n) | .array (.constant n _ _) => some (.array n)
  | _ => none

/-- Derivations of a declarator and those they stand for. -/
abbrev Fixed : List (DeclOp NodeId) → List TypeOp → Prop := List.Forall₂ fun dop op => fixedOp? dop = some op

/-- A type with derivations around it, outermost first. -/
def around (ops : List TypeOp) (t : CType) : CType :=
  ⟨t.name, ops ++ t.ops, t.qualifiers, t.isNamedVoid && ops.isEmpty⟩

/-- A specifier stands for a type. -/
abbrev Resolves (depth : Nat) (standard : Standard) (s : State) (spec : TypeSpec NodeId) (t : CType)
    (s' : State) : Prop := resolveType (answersWithin (depth + 1)) spec standard s = .ok (t, s')

variable {ask : Ask} {standard : Standard} {s s1 s2 : State} {t : CType} {depth : Nat} {e : Expr NodeId}
  {ops : List TypeOp}

section

variable {operand named : TypeSpec NodeId} {dops : List (DeclOp NodeId)} (h : Fixed dops ops)

include h

theorem mapM_typeOp_fixed : dops.mapM (typeOp ask) = pure ops := by
  induction h with
  | nil => rfl
  | @cons dop op dops ops hop _ ih =>
    have hfirst : typeOp ask dop = pure op := by
      unfold fixedOp? at hop
      split at hop <;> cases hop <;> rfl
    rw [List.mapM_cons, hfirst, ih]
    rfl

/-- Each derivation is taken around those before it. -/
theorem deriveTypeof_fixed : deriveTypeof ask t dops = pure (around ops.reverse t) := by
  induction h generalizing t with
  | nil =>
    cases t
    simp [deriveTypeof, around]
  | @cons dop op dops ops hop _ ih =>
    have hstep : deriveTypeof ask t (dop :: dops) = deriveTypeof ask (t.derive op) dops := by
      unfold fixedOp? at hop
      split at hop <;> cases hop <;> rfl
    have hsome : (ops.reverse ++ [op]).isEmpty = false := by cases ops.reverse <;> rfl
    rw [hstep, ih]
    simp [around, CType.derive, CType.withOps, hsome]

theorem Resolves.derive (ht : Resolves depth standard s (named.derive []) t s1)
    (hnamed : ∀ e, named.base ≠ .typeof e) : Resolves depth standard s (named.derive dops) (around ops t) s1 := by
  have hmap : resolveType (answersWithin (depth + 1)) (named.derive dops) =
      around ops <$> resolveType (answersWithin (depth + 1)) (named.derive []) := by
    have hregister : answersWithin (depth + 1) (.register (named.derive dops)) =
      answersWithin (depth + 1) (.register (named.derive [])) := rfl
    unfold resolveType
    rw [hregister]
    simp only [TypeSpec.derive, TypeSpec.renewed, TypeBase.renewed, List.mapM_append, mapM_typeOp_fixed h]
    cases hbase : named.base with
    | typeof e => exact absurd hbase (hnamed e)
    | named name => cases ops <;> simp [around]
    | enum | record => simp [around]
  rw [Resolves, hmap]
  show (resolveType _ _ standard s >>= fun r => pure (around ops r.1, r.2)) = _
  rw [ht]
  rfl

theorem Resolves.typeof (hbase : operand.base = .typeof e) (hops : operand.ops = [])
    (he : answersWithin (depth + 1) (.expr e (s.currentScope.getD fileScope)) standard s = .ok (t, s1)) :
    Resolves depth standard s (operand.derive dops) (around ops.reverse t) s1 := by
  have hderived : (operand.derive dops).base = .typeof e := by
    show operand.base.renewed = _
    rw [hbase]
    rfl
  have hregister : answersWithin (depth + 1) (.register (operand.derive dops)) = pure () := by
    show register _ (operand.derive dops) = _
    unfold register
    rw [hderived]
  have hall : (operand.derive dops).ops = dops := (congrArg (dops ++ ·) hops).trans (List.append_nil dops)
  unfold Resolves resolveType
  simp only [hregister, hderived, hall, deriveTypeof_fixed h, pure_bind, bind_pure_comp]
  show (answersWithin (depth + 1) (.expr e (s.currentScope.getD fileScope)) standard s >>= fun r =>
    pure (around ops.reverse r.1, r.2)) = _
  rw [he]
  rfl

/-- **Behind `typeof` a declarator gives the type that it gives behind a name for the same type if its derivations
    read the same from both ends, and otherwise not.** -/
theorem typeof_declarator_iff (hbase : operand.base = .typeof e) (hops : operand.ops = [])
    (hnamed : ∀ e, named.base ≠ .typeof e)
    (he : answersWithin (depth + 1) (.expr e (s.currentScope.getD fileScope)) standard s = .ok (t, s1))
    (ht : Resolves depth standard s (named.derive []) t s2) :
    Resolves depth standard s (operand.derive dops) (around ops.reverse t) s1 ∧
      Resolves depth standard s (named.derive dops) (around ops t) s2 ∧
      (around ops.reverse t = around ops t ↔ ops.reverse = ops) := by
  refine ⟨.typeof h hbase hops he, .derive h ht hnamed, fun heq => ?_, fun heq => by rw [heq]⟩
  exact List.append_cancel_right (congrArg CType.ops heq)

end

/-- A state in which one object is declared, at file scope. -/
def declaring (v : String) (t : CType) : State :=
  { scopes := #[{ symbols := [(v, .object v t none false)] }] }

/-- A specifier without derivations. -/
def specifier (base : TypeBase NodeId) : TypeSpec NodeId := ⟨0, base, [], [], false, none, none, none⟩

/-- Where `x` is an `int`, `typeof(x) *a[3]` declares a pointer to an array and `int *a[3]` an array of pointers. -/
theorem typeof_array_of_pointers :
    Resolves 0 .gnu11 (declaring "x" .int) ((specifier (.typeof (.ident 1 "x"))).derive [.array (.length 3), .pointer])
      (around [TypeOp.array 3, .pointer].reverse .int) { declaring "x" .int with types := .insert {} 1 .int } ∧
    Resolves 0 .gnu11 (declaring "x" .int) ((specifier (.named "int")).derive [.array (.length 3), .pointer])
      (around [.array 3, .pointer] .int) (declaring "x" .int) ∧
    (around [TypeOp.array 3, .pointer].reverse .int = around [.array 3, .pointer] .int ↔
      [TypeOp.array 3, .pointer].reverse = [.array 3, .pointer]) :=
  typeof_declarator_iff (.cons rfl (.cons rfl .nil)) rfl rfl (by nofun) rfl rfl

theorem sameOps_pointers (k : Nat) : sameOps (List.replicate k .pointer) (List.replicate k .pointer) := by
  induction k with
  | zero => simp [sameOps]
  | succ k ih => simp [List.replicate_succ, sameOps, TypeOp.same, ih]

attribute [local simp] run_bind

@[simp]
theorem ok_require : require c cause standard s = .ok r ↔ c ∧ r = ((), s) := by
  cases c
  · exact ⟨fun h => (nomatch h), fun h => (nomatch h.1)⟩
  · exact ⟨fun h => ⟨rfl, (Except.ok.inj h).symm⟩, fun h => h.2 ▸ rfl⟩

@[simp]
theorem ok_pure {β : Type} {b : β} : (pure b : Analyze β) standard s = .ok (b, s) := rfl

@[simp]
theorem ok_record : record e t standard s = .ok (t, { s with types := s.types.insert e.note t }) := rfl

@[simp]
theorem ok_records : records standard s = .ok (s.records, s) := rfl

/-- A type has the qualifiers of its specifier and the derivations of its declarator. -/
theorem Resolves.shape (h : Fixed spec.ops ops) (hbase : ∀ e, spec.base ≠ .typeof e)
    (ht : Resolves depth standard s spec t s1) : t.ops = ops ∧ t.qualifiers = spec.qualifiers := by
  obtain ⟨_, -, ht⟩ := run_bind.mp ht
  cases hb : spec.base with simp only [hb, mapM_typeOp_fixed h, pure_bind] at ht
  | typeof e => exact absurd hb (hbase e)
  | named | enum =>
    cases ht
    exact ⟨rfl, rfl⟩
  | record =>
    obtain ⟨_, -, ht⟩ := run_bind.mp ht
    cases ht
    exact ⟨rfl, rfl⟩

section

variable {scope : ScopePath} {v : String} {alignment : Option Int} {isExtern isPostfix : Bool}
  {n n1 n2 : NodeId} (hv : Scope.lookup? (s.scopesOf scope) v = some (.object v t alignment isExtern))

include hv

theorem answers_ident : answersWithin (depth + 1) (.expr (.ident n v) scope) standard s =
    .ok (t, { s with types := s.types.insert n t }) := by
  have hlookup : lookup? scope v standard s = .ok (some (.object v t alignment isExtern), s) := by
    rw [← hv]
    rfl
  exact run_bind.mpr ⟨(t, s), run_bind.mpr ⟨_, hlookup, rfl⟩, rfl⟩

theorem checkTarget_ident : checkTarget scope (.ident n v) standard s = .ok ((), s) :=
  ok_require.mpr ⟨by rw [hv]; rfl, rfl⟩

theorem assign_self_iff (hself : t.assignable t.decay) (harray : t.isArray = false) :
    (∃ r, answersWithin (depth + 2) (.expr (.assign n .plain (.ident n1 v) (.ident n2 v)) scope) standard s =
      .ok r) ↔ t.isConst = false := by
  show (∃ r, (assignType (answersWithin (depth + 1)) scope .plain (.ident n1 v) (.ident n2 v) >>= record _) standard s
    = .ok r) ↔ _
  have hv1 : Scope.lookup? (({ s with types := s.types.insert n1 t } : State).scopesOf scope) v =
    some (.object v t alignment isExtern) := hv
  simp [assignType, assignableFrom, checkTarget_ident hv, answers_ident hv, answers_ident hv1, harray, hself]

theorem increment_iff (harray : t.isArray = false) :
    (∃ r, answersWithin (depth + 2) (.expr (.update n .increment (.ident n1 v) isPostfix) scope) standard s =
      .ok r) ↔ t.isConst = false ∧ (t.decay.isInteger || s.records.isCompletePointer t.decay) := by
  show (∃ r, (updateType (answersWithin (depth + 1)) scope .increment (.ident n1 v) >>= record _) standard s =
    .ok r) ↔ _
  simp [updateType, checkTarget_ident hv, answers_ident hv, harray]

/-- **Whether a declared scalar can be assigned to hangs on the qualifiers of its specifier alone**: those behind
    the stars of its declarator are read over, and those of the specifier count however many stars there are. -/
theorem declared_assignable_iff {k : Nat} {spec : TypeSpec NodeId} {setting : Grammar.Setting}
    {names : Grammar.Names} {ts rest : List Token}
    (hstars : Grammar.Stars ts k) (hcalm : Grammar.Calm setting rest)
    (hnot : (setting.next rest).isPunct "*" = false)
    (hbase : ∀ e, spec.base ≠ .typeof e) (hops : spec.ops = List.replicate k .pointer)
    (ht : Resolves depth standard s1 spec t s2) :
    Grammar.Runs setting Grammar.pointerDepth ⟨ts ++ rest, names⟩ k ⟨rest, names⟩ ∧
    ((∃ r, answersWithin (depth + 2) (.expr (.assign n .plain (.ident n1 v) (.ident n2 v)) scope) standard s =
      .ok r) ↔ "const" ∉ spec.qualifiers) ∧
    ((∃ r, answersWithin (depth + 2) (.expr (.update n .increment (.ident n1 v) isPostfix) scope) standard s =
      .ok r) ↔ "const" ∉ spec.qualifiers ∧ (t.isInteger || s.records.isCompletePointer t) = true) := by
  have hfixed : Fixed spec.ops (List.replicate k .pointer) := by
    rw [hops]
    exact List.forall₂_iff_get.mpr ⟨by simp, by simp [fixedOp?]⟩
  obtain ⟨htops, hquals⟩ := ht.shape hfixed hbase
  have hconst : t.isConst = false ↔ "const" ∉ spec.qualifiers := by
    rw [CType.isConst, hquals, Bool.eq_false_iff, ne_eq, List.contains_iff_mem]
  have hdecay : t.decay = t ∧ t.isArray = false := by
    unfold CType.decay CType.isArray CType.length?
    rw [htops]
    cases k <;> exact ⟨rfl, rfl⟩
  have hsame : (t == t) = true := by
    cases t
    cases htops
    show CType.same _ _ = true
    simp [CType.same, sameOps_pointers]
  have hself : t.assignable t.decay = true := by
    rw [hdecay.1, CType.assignable, hsame, Bool.true_or, Bool.true_or]
  refine ⟨Grammar.runs_pointerDepth hstars hcalm hnot, (assign_self_iff hv hself hdecay.2).trans hconst, ?_⟩
  rw [increment_iff hv hdecay.2, hconst, hdecay.1]

end

/-- The type `const int *`. -/
def constPointer : CType := ⟨"int", [.pointer], ["const"], false⟩

/-- A pointer to a constant cannot be assigned to. -/
theorem pointer_to_constant_refused :
    Grammar.Runs ⟨.c11, Grammar.tokenOf (.endOfFile, "")⟩ Grammar.pointerDepth
      ⟨[Grammar.tokenOf (punct "*")] ++ [Grammar.tokenOf (.identifier, "p")], []⟩ 1
      ⟨[Grammar.tokenOf (.identifier, "p")], []⟩ ∧
    ((∃ r, answersWithin 2 (.expr (.assign 1 .plain (.ident 2 "p") (.ident 3 "p")) fileScope) .c11
      (declaring "p" constPointer) = .ok r) ↔ "const" ∉ ["const"]) ∧
    ((∃ r, answersWithin 2 (.expr (.update 1 .increment (.ident 2 "p") false) fileScope) .c11
      (declaring "p" constPointer) = .ok r) ↔ "const" ∉ ["const"] ∧
        (constPointer.isInteger || RecordTable.isCompletePointer [] constPointer) = true) := by
  have htype : Resolves 0 .c11 {} { specifier (.named "int") with ops := [.pointer], qualifiers := ["const"] }
    constPointer {} := rfl
  refine declared_assignable_iff rfl (Grammar.stars_of_words rfl) (.inr ⟨rfl, ?_, ?_⟩) ?_ ?_ rfl htype
  · decide
  · decide
  · decide
  · nofun

end CCompiler.Analysis
