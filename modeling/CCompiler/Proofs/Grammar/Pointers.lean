import CCompiler.Proofs.Grammar.Reading

/-!
# Pointers in front of declarators

The pointers of a declarator can be read in two ways: by the declarator itself, and by the type specifier in
front of it, which takes the pointers of the declarator that follows as part of the type.

* `Calm` -- places where no qualifier, convention or `__declspec` is read over;
* `Stars` -- pointers as they are written, with qualifiers behind each star;
* `runs_declarator` -- a declarator is its pointers and a direct declarator;
* `Absorbs`, `absorbs_typeSpec` -- a type specifier that reads pointers says the same type behind them.
-/
namespace CCompiler.Grammar

open List

variable {setting : Setting} {names : Names} {t : Token} {ts rest : List Token}

/-! ## 1. Places where nothing is read over -/

/-- The identifiers that are read over in front of a declarator. -/
def overreadWords : List String :=
  ["__unaligned", "_Nullable", "_Nonnull", "_Null_unspecified", "__cdecl", "__stdcall", "__fastcall",
    "__thiscall", "__vectorcall"]

/-- At a place stands a punctuator or an identifier, and nothing that is read over. -/
def Calm (setting : Setting) (rest : List Token) : Prop :=
  (setting.next rest).kind = .punctuator ∨
    (setting.next rest).kind = .identifier ∧ (setting.next rest).lexeme ∉ overreadWords ∧
      ((setting.next rest).lexeme = "__declspec" → (rest.getD 1 setting.final).isPunct "(" = false)

theorem calm_of_isPunct (h : t.isPunct text) : Calm setting (t :: rest) :=
  .inl (Token.kind_of_isPunct h)

/-- Whether a `__declspec` starts at a place. -/
def startsDeclspec (setting : Setting) (rest : List Token) : Bool :=
  (setting.next rest).kind == .identifier && (setting.next rest).lexeme == "__declspec" &&
    (rest.getD 1 setting.final).isPunct "("

theorem runs_atDeclspec : Runs setting atDeclspec ⟨rest, names⟩ (startsDeclspec setting rest) ⟨rest, names⟩ :=
  rfl

section Calm

variable (h : Calm setting rest)

include h

theorem Calm.not_keyword : (setting.next rest).kind ≠ .keyword := by
  rcases h with h | ⟨h, -⟩ <;> rw [h] <;> decide

theorem Calm.not_isQualifier : isQualifier (setting.next rest) = false := by
  unfold isQualifier
  rw [beq_eq_false_iff_ne.mpr h.not_keyword, Bool.false_and]

theorem Calm.not_overread (hw : words ⊆ overreadWords) :
    ((setting.next rest).kind == .identifier && words.contains (setting.next rest).lexeme) = false := by
  rcases h with h | ⟨-, h, -⟩
  · rw [h]
    rfl
  · rw [Bool.and_eq_false_iff]
    refine .inr (Bool.eq_false_iff.mpr fun hc => h (hw (contains_iff_mem.mp hc)))

theorem Calm.not_isIgnoredQualifier : isIgnoredQualifier (setting.next rest) = false := by
  have hword : ["__unaligned"] ⊆ overreadWords := by decide
  have hnot := h.not_overread hword
  rwa [contains_cons, contains_nil, Bool.or_false] at hnot

theorem Calm.not_isNullability : isNullability (setting.next rest) = false := h.not_overread (by decide)

theorem Calm.not_startsDeclspec : startsDeclspec setting rest = false := by
  unfold startsDeclspec
  rcases h with h | ⟨h, -, hd⟩
  · rw [h]
    rfl
  · rw [Bool.and_eq_false_iff, Bool.and_eq_false_iff]
    by_cases hl : (setting.next rest).lexeme = "__declspec"
    · exact .inr (hd hl)
    · exact .inl (.inr (beq_eq_false_iff_ne.mpr hl))

/-! ## 2. Qualifiers and conventions -/

variable {allowAtomic found : Bool}

theorem runs_qualifierStep_calm :
    Runs setting (qualifierStep allowAtomic found) ⟨rest, names⟩ (.inr found) ⟨rest, names⟩ := by
  refine runs_current.bind ?_
  rw [h.not_isQualifier, h.not_isIgnoredQualifier, h.not_isNullability,
    Token.isKeyword_of_kind h.not_keyword, Bool.and_false]
  refine runs_atDeclspec.bind ?_
  rw [h.not_startsDeclspec]
  exact .pure _

omit h in
theorem runs_qualifierStep (ht : isQualifier t) :
    Runs setting (qualifierStep allowAtomic found) ⟨t :: rest, names⟩ (.inl true) ⟨rest, names⟩ := by
  refine runs_current.bind ?_
  show Runs setting (if (isQualifier t || isIgnoredQualifier t || isNullability t
    || (allowAtomic && t.isKeyword "_Atomic")) = true then _ else _) _ _ _
  rw [ht]
  exact runs_advance.discard.bind (.pure _)

/-- Qualifiers are read over, up to a place where there are none. -/
theorem runs_skipQualifiers (hq : ∀ q ∈ qs, isQualifier q) :
    ∃ found, Runs setting (skipQualifiers allowAtomic) ⟨qs ++ rest, names⟩ found ⟨rest, names⟩ := by
  have hsteps : ∀ found, ∃ found', Steps setting (qualifierStep allowAtomic) found ⟨qs ++ rest, names⟩
      found' ⟨rest, names⟩ := by
    induction qs with
    | nil => exact fun found => ⟨found, .refl _ _⟩
    | cons q qs ih =>
      intro found
      obtain ⟨found', hmore⟩ := ih (forall_mem_cons.mp hq).2 true
      exact ⟨found', .head (runs_qualifierStep (hq q mem_cons_self)) (Nat.lt_succ_self _) hmore⟩
  obtain ⟨found, hfound⟩ := hsteps false
  exact ⟨found, Runs.repeatStep hfound (runs_qualifierStep_calm h)⟩

theorem runs_skipQualifiers_calm : Runs setting (skipQualifiers allowAtomic) ⟨rest, names⟩ false ⟨rest, names⟩ :=
  Runs.repeatStep (.refl _ _) (runs_qualifierStep_calm h)

theorem Calm.conventions : rest.takeWhile isCallingConvention = [] := by
  cases rest with
  | nil => rfl
  | cons t rest => exact takeWhile_cons_of_neg (Bool.eq_false_iff.mp (h.not_overread (by decide)))

theorem runs_skipCallingConventionsIf :
    Runs setting (skipCallingConventionsIf test) ⟨rest, names⟩ .unit ⟨rest, names⟩ := by
  have hget : Runs setting get ⟨rest, names⟩ ⟨rest, names⟩ ⟨rest, names⟩ := rfl
  refine hget.bind ?_
  simp only [h.conventions, length_nil, ne_eq, not_true_eq_false, decide_false, Bool.false_and]
  rfl

end Calm

/-! ## 3. Stars -/

/-- Pointers as they are written: so many stars, each with the qualifiers behind it. -/
inductive Stars : List Token → Nat → Prop where
  | none : Stars [] 0
  | star {t : Token} {qs ts : List Token} {k : Nat} (ht : t.isPunct "*" = true)
      (hq : ∀ q ∈ qs, isQualifier q = true) (h : Stars ts k) : Stars (t :: (qs ++ ts)) (k + 1)

/-- A declarator without the pointers in front: a name or a declarator in parentheses, and the suffixes
    behind it. -/
def directDeclarator (rule : Rules) (mode : DeclaratorMode) : Parse Declarator := do
  declaratorSuffixes rule mode (← declaratorCore rule mode)

/-- The declarator behind so many pointers. -/
def Declarator.behind (d : Declarator) (k : Nat) : Declarator :=
  { d with ops := d.ops ++ replicate k .pointer }

section Stars

variable {k : Nat} (h : Stars ts k) (hr : Calm setting rest) (hnot : (setting.next rest).isPunct "*" = false)

include h hr

theorem Stars.calm : Calm setting (ts ++ rest) := by
  cases h with
  | none => exact hr
  | star ht => exact calm_of_isPunct ht

include hnot

/-- A loop over stars whose body reads over the qualifiers behind each goes round once for each star. -/
theorem runs_stars {β : Type} {action : Parse β}
    (haction : ∀ qs rest, (∀ q ∈ qs, isQualifier q) → Calm setting rest →
      ∃ b, Runs setting action ⟨qs ++ rest, names⟩ b ⟨rest, names⟩) : ∃ bs, bs.length = k ∧
      Runs setting (whileTrue (acceptPunct "*") action) ⟨ts ++ rest, names⟩ bs ⟨rest, names⟩ := by
  have hsteps : ∀ results, ∃ bs : List β, bs.length = results.length + k ∧
      Steps setting (whileStep (acceptPunct "*") action) results ⟨ts ++ rest, names⟩ bs ⟨rest, names⟩ := by
    induction h with
    | none => exact fun results => ⟨results, rfl, .refl _ _⟩
    | @star t qs ts k ht hq hmore ih =>
      intro results
      obtain ⟨b, hb⟩ := haction qs (ts ++ rest) hq (hmore.calm hr)
      obtain ⟨bs, hlen, hbs⟩ := ih (b :: results)
      refine ⟨bs, by rw [hlen, length_cons]; omega, .head ?_ ?_ hbs⟩
      · rw [cons_append, append_assoc]
        exact runs_whileStep (runs_acceptPunct (Token.word_of_isPunct ht)) hb
      · simp only [cons_append, length_cons, length_append]
        omega
  obtain ⟨bs, hlen, hbs⟩ := hsteps []
  refine ⟨bs.reverse, ?_, Runs.whileTrue hbs (runs_acceptPunct_not hnot)⟩
  rw [length_reverse, hlen, length_nil, Nat.zero_add]

theorem runs_pointerDepth : Runs setting pointerDepth ⟨ts ++ rest, names⟩ k ⟨rest, names⟩ := by
  obtain ⟨bs, rfl, hbs⟩ := runs_stars h hr hnot fun _ _ hq hr => @runs_skipQualifiers _ names _ hr true _ hq
  exact (runs_skipQualifiers_calm (h.calm hr)).discard.bind (hbs.bind (.pure _))

/-- **A declarator is its pointers and a direct declarator.** -/
theorem runs_declarator {rule : Rules} (hd : Runs setting (directDeclarator rule mode) ⟨rest, names⟩ d c) :
    Runs setting (declarator rule mode) ⟨ts ++ rest, names⟩ (d.behind k) c := by
  have hcalm : Calm setting (ts ++ rest) := h.calm hr
  obtain ⟨bs, rfl, hbs⟩ : ∃ bs : List Unit, bs.length = k ∧ Runs setting (whileTrue (acceptPunct "*") do
      discard (skipQualifiers false)
      skipConventionsAfterPointer) ⟨ts ++ rest, names⟩ bs ⟨rest, names⟩ := by
    refine runs_stars h hr hnot fun qs rest hq hr => ⟨.unit, ?_⟩
    obtain ⟨found, hfound⟩ := runs_skipQualifiers hr hq
    exact hfound.discard.bind (runs_skipCallingConventionsIf hr)
  obtain ⟨core, c1, hcore, hsuffixes⟩ := hd.of_bind
  exact (runs_skipQualifiers_calm hcalm).discard.bind ((runs_skipCallingConventionsIf hcalm).bind
    (hbs.bind (hcore.bind (hsuffixes.bind (.pure _)))))

end Stars

/-! ## 4. Specifiers that take pointers -/

theorem renewed_renewed (base : TypeBase Unit) : base.renewed.renewed = base.renewed := by
  cases base <;> rfl

/-- A specifier that says what another one says, behind so many pointers. -/
structure Extends (spec : TypeSpec Unit) (k : Nat) (longer : TypeSpec Unit) : Prop where
  ops : longer.ops = replicate k .pointer ++ spec.ops
  base : longer.base.renewed = spec.base.renewed
  qualifiers : longer.qualifiers = spec.qualifiers
  isAtomic : longer.isAtomic = spec.isAtomic
  atomicTarget : longer.atomicTarget = spec.atomicTarget

theorem extends_pointers (t : TypeSpec Unit) (k : Nat) : Extends t k (t.pointers k) := by
  by_cases hk : k = 0
  · subst hk
    exact ⟨rfl, rfl, rfl, rfl, rfl⟩
  · rw [TypeSpec.pointers, if_neg hk]
    exact ⟨rfl, renewed_renewed _, rfl, rfl, rfl⟩

section Extends

variable {spec longer : TypeSpec Unit}

theorem Extends.qualify (h : Extends spec k longer) (qualifiers : List String) :
    Extends (spec.qualify qualifiers) k (longer.qualify qualifiers) := by
  unfold TypeSpec.qualify
  split
  · exact h
  · refine ⟨h.ops, ?_, ?_, h.isAtomic, h.atomicTarget⟩
    · exact (renewed_renewed _).trans (h.base.trans (renewed_renewed _).symm)
    · rw [h.qualifiers]

/-- Derivations of the longer specifier are derivations of the other one with the pointers between. -/
theorem Extends.derive (h : Extends spec k longer) (ops : List (DeclOp Unit)) :
    longer.derive ops = spec.derive (ops ++ replicate k .pointer) := by
  unfold TypeSpec.derive TypeSpec.renewed
  rw [h.ops, h.base, h.qualifiers, h.isAtomic, h.atomicTarget, append_assoc]

end Extends

/-- An action that reads pointers or not answers the same type in both ways, up to the pointers. -/
def Absorbs (p : Bool → Parse (TypeSpec Unit)) : Prop :=
  ∀ ⦃setting : Setting⦄ ⦃c c1 c2 : Cursor⦄ ⦃spec : TypeSpec Unit⦄ ⦃k : Nat⦄,
    Runs setting (p false) c spec c1 → Runs setting pointerDepth c1 k c2 →
      ∃ longer, Runs setting (p true) c longer c2 ∧ Extends spec k longer

theorem absorbs_failAt (token : Token) (cause : Cause) : Absorbs fun _ => failAt token cause := by
  intro setting c c1 c2 spec k h
  exact (nomatch h)

theorem Absorbs.bind {β : Type} {q : Parse β} {p : Bool → β → Parse (TypeSpec Unit)}
    (h : ∀ b, Absorbs fun a => p a b) : Absorbs fun a => q >>= p a := by
  intro setting c c1 c2 spec k hrun hdepth
  obtain ⟨b, c', hq, hp⟩ := hrun.of_bind
  obtain ⟨longer, hlonger, hext⟩ := h b hp hdepth
  exact ⟨longer, hq.bind hlonger, hext⟩

theorem absorbs_plainType (qualifiers : List String) (base : TypeBase Unit) :
    Absorbs fun a => plainType a qualifiers base := by
  intro setting c c1 c2 spec k h hdepth
  obtain ⟨rfl, rfl⟩ := Prod.mk.inj (Except.ok.inj h)
  exact ⟨_, Runs.bind hdepth (.pure _), (append_nil _).symm, rfl, rfl, rfl, rfl⟩

theorem absorbs_knownType (qualifiers : List String) (type : TypeSpec Unit) :
    Absorbs fun a => knownType a qualifiers type := by
  intro setting c c1 c2 spec k h hdepth
  obtain ⟨rfl, rfl⟩ := Prod.mk.inj (Except.ok.inj h)
  exact ⟨_, Runs.bind hdepth (.pure _), (extends_pointers type k).qualify qualifiers⟩

theorem absorbs_atomicType (rule : Rules) (context : TypeContext) (qualifiers : List String)
    (keyword : Token) : Absorbs fun a => atomicType rule a context qualifiers keyword := by
  refine .bind fun found => ?_
  dsimp only
  split
  on_goal 1 => refine .bind fun _ => .bind fun _ => ?_
  on_goal 2 =>
    refine .bind fun _ => ?_
    split
    on_goal 1 => refine .bind fun _ => .bind fun _ => .bind fun _ => ?_
    on_goal 2 => refine .bind fun _ => .bind fun _ => ?_
  -- whichever way the type is read, it is checked
  all_goals
    split
    · exact absorbs_failAt keyword _
    · exact absorbs_knownType qualifiers _

theorem absorbs_keywordType (rule : Rules) (context : TypeContext) (qualifiers : List String)
    (token : Token) : Absorbs fun a => keywordType rule a context qualifiers token := by
  refine .bind fun _ => ?_
  split
  iterate 3
    refine .bind fun _ => ?_
    split
    · exact .bind fun _ => .bind fun _ => absorbs_knownType qualifiers _
    · exact .bind fun _ => absorbs_knownType qualifiers _
  iterate 8
    first
      | exact absorbs_plainType qualifiers _
      | exact .bind fun _ => absorbs_plainType qualifiers _
  · split
    · refine .bind fun _ => .bind fun _ => ?_
      split
      · exact .bind fun _ => .bind fun _ => absorbs_plainType qualifiers _
      · exact .bind fun _ => absorbs_plainType qualifiers _
    · exact absorbs_failAt token _

/-- **A type specifier that reads the pointers behind it says the type that it says without them, behind
    these pointers.** -/
theorem absorbs_typeSpec (rule : Rules) (context : TypeContext) : Absorbs fun a => typeSpec rule a context := by
  refine .bind fun qualifiers => .bind fun token => ?_
  split
  · exact .bind fun _ => absorbs_atomicType rule context qualifiers token
  · split
    · split
      · exact .bind fun _ => absorbs_knownType qualifiers _
      · refine .bind fun known => ?_
        split
        · exact absorbs_failAt _ _
        · exact .bind fun _ => absorbs_knownType qualifiers _
    · split
      · exact absorbs_keywordType rule context qualifiers token
      · exact absorbs_failAt _ _

end CCompiler.Grammar
