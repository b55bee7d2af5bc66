import CCompiler.Proofs.Grammar.Reading

/-!
# Parsing ends
-/
namespace CCompiler.Grammar

attribute [local grind] Token.isEnd Token.isPunct Token.isKeyword
attribute [local grind →] List.IsSuffix.trans

/-! ## 1. Actions that end -/

section Actions

variable {β γ : Type} {s : Setting} {c c' : Cursor} {text : String}
  {Q : β → Cursor → Prop} {R : γ → Cursor → Prop} {B : Bool → Cursor → Prop}
variable {p : Parse β} {t : Token} {a : β} {action : Parse β}

/-- An action ends at a cursor: it does not run out of depth, and where it succeeds, a condition holds of its
    answer and of the cursor behind it. -/
def Ends (s : Setting) (c : Cursor) (p : Parse β) (Q : β → Cursor → Prop) : Prop :=
  p s c ≠ .error .tooDeep ∧ ∀ a c', p s c = .ok (a, c') → Q a c'

/-- An action ends where it starts. -/
abbrev Stays (s : Setting) (c : Cursor) (p : Parse β) : Prop := ∀ ⦃Q : β → Cursor → Prop⦄, (∀ a, Q a c) → Ends s c p Q

theorem Ends.mono {Q' : β → Cursor → Prop} (h : Ends s c p Q) (hQ : ∀ a c', Q a c' → Q' a c') :
    Ends s c p Q' := ⟨h.1, fun a c' hp => hQ a c' (h.2 a c' hp)⟩

theorem ends_ok (h : Runs s p c a c') : Ends s c p Q ↔ Q a c' := by
  unfold Runs at h
  simp [Ends, h]

theorem ends_error (h : p s c = .error e) (he : e ≠ .tooDeep) : Ends s c p Q := by
  simp [Ends, h, he]

@[grind norm] theorem ends_bind : Ends s c (p >>= f) R ↔ Ends s c p fun a c' => Ends s c' (f a) R := by
  unfold Ends
  have hbind : (p >>= f) s c = (p s c >>= fun r => f r.1 s r.2) := rfl
  rw [hbind]
  rcases p s c with e | ⟨a, c1⟩ <;> simp [bind, Except.bind]

theorem Ends.bind (h : Ends s c p fun a c' => Ends s c' (f a) R) : Ends s c (p >>= f) R := ends_bind.mpr h

@[grind =] theorem ends_pure : Ends s c (pure a) Q ↔ Q a c := ends_ok rfl

theorem Ends.pure (h : Q a c) : Ends s c (pure a) Q := ends_pure.mpr h

@[grind norm] theorem ends_map : Ends s c (f <$> p) R ↔ Ends s c p fun a c' => R (f a) c' := by
  rw [← bind_pure_comp, ends_bind]
  simp only [ends_pure]

@[grind norm] theorem ends_discard {R : Unit → Cursor → Prop} :
    Ends s c (discard p) R ↔ Ends s c p fun _ c' => R () c' := ends_map

theorem Ends.discard {R : Unit → Cursor → Prop} (h : Ends s c p fun _ c' => R () c') :
    Ends s c (discard p) R := ends_discard.mpr h

@[grind norm] theorem ends_ite {b : Prop} [Decidable b] :
    Ends s c (if b then p else q) Q ↔ (b → Ends s c p Q) ∧ (¬b → Ends s c q Q) := by
  split <;> simp_all

theorem ends_either {b : Prop} [Decidable b] (hp : b → Ends s c p Q) (hq : Ends s c q Q) :
    Ends s c (if b then p else q) Q := ends_ite.mpr ⟨hp, fun _ => hq⟩

@[grind ←] theorem ends_failAt : Ends s c (failAt t cause) Q :=
  ends_error rfl (by simp)

@[grind ←] theorem ends_fail : Ends s c (fail cause) Q :=
  ends_error rfl (by simp)

@[grind norm] theorem ends_peek {R : Token → Cursor → Prop} :
    Ends s c (peek n) R ↔ R (c.rest.getD n s.final) c := ends_ok rfl

@[grind norm] theorem ends_current {R : Token → Cursor → Prop} :
    Ends s c current R ↔ R (s.next c.rest) c := ends_ok rfl

@[grind norm] theorem ends_get {R : Cursor → Cursor → Prop} : Ends s c get R ↔ R c c := ends_ok rfl

@[grind norm] theorem ends_read {R : Setting → Cursor → Prop} : Ends s c read R ↔ R s c := ends_ok rfl

@[grind norm] theorem ends_atPunct : Ends s c (atPunct text) B ↔ B ((s.next c.rest).isPunct text) c := ends_ok rfl

@[grind norm] theorem ends_atPuncts :
    Ends s c (atPuncts texts) B ↔ B (texts.any (s.next c.rest).isPunct) c := ends_ok rfl

@[grind norm] theorem ends_atKeyword :
    Ends s c (atKeyword text) B ↔ B ((s.next c.rest).isKeyword text) c := ends_ok rfl

@[grind norm] theorem ends_nextIsPunct :
    Ends s c (nextIsPunct text) B ↔ B ((c.rest.getD 1 s.final).isPunct text) c := ends_ok rfl

@[grind norm] theorem ends_isGnu : Ends s c isGnu B ↔ B (s.standard == .gnu11) c := ends_ok rfl

@[grind norm] theorem ends_names {R : Names → Cursor → Prop} : Ends s c names R ↔ R c.names c := ends_ok rfl

@[grind norm] theorem ends_consumedSince {R : List Token → Cursor → Prop} :
    Ends s c (consumedSince start) R ↔ R (start.take (start.length - c.rest.length)) c := ends_ok rfl

@[grind norm] theorem ends_modify {R : Unit → Cursor → Prop} : Ends s c (modify f) R ↔ R () (f c) := ends_ok rfl

@[grind norm] theorem ends_modifyNames {R : Unit → Cursor → Prop} :
    Ends s c (modifyNames f) R ↔ R () { c with names := f c.names } := ends_ok rfl

@[grind norm] theorem ends_inScope : Ends s c (inScope scope p) Q ↔
      Ends s { c with names := scope :: c.names } p fun a c' => Q a { c' with names := c'.names.tail } := by
  unfold inScope
  simp only [ends_bind, ends_modifyNames, ends_pure]

@[grind <=] theorem ends_speculate (h : Ends s c p fun _ _ => True) : Stays s c (speculate p) := by
  intro R hR
  unfold Ends speculate at *
  rcases hp : p s c with (_ | _ | _ | _ | _) | ⟨a, c1⟩ <;> simp_all

/-! ## 2. Tokens -/

@[simp, grind =] theorem tail_modifyTop (names : Names) (f : NameScope → NameScope) :
    (names.modifyTop f).tail = names.tail := by cases names <;> rfl


/-- A cursor lies behind another, by at least so many tokens, and knows the same names outside of its scope. -/
@[grind] def Past (k : Nat) (c c' : Cursor) : Prop :=
  c'.rest <:+ c.rest ∧ c'.rest.length + k ≤ c.rest.length ∧ c'.names.tail = c.names.tail

/-- A cursor lies behind another, by at least so many tokens, and knows the same names. -/
@[grind] def Over (k : Nat) (c c' : Cursor) : Prop :=
  c'.rest <:+ c.rest ∧ c'.rest.length + k ≤ c.rest.length ∧ c'.names = c.names

/-- An action ends behind at least so many tokens, and may declare names. -/
abbrev MayDeclare (s : Setting) (c : Cursor) (k : Nat) (p : Parse β) : Prop :=
  ∀ ⦃Q : β → Cursor → Prop⦄, (∀ a c', Past k c c' → Q a c') → Ends s c p Q

/-- An action ends behind at least so many tokens, and the names are those that it found. -/
abbrev Passes (s : Setting) (c : Cursor) (k : Nat) (p : Parse β) : Prop :=
  ∀ ⦃Q : β → Cursor → Prop⦄, (∀ a c', Over k c c' → Q a c') → Ends s c p Q

theorem not_isEnd_of_any {texts : List String} (h : texts.any t.isPunct) : t.isEnd = false := by
  grind

@[grind ←] theorem ends_advance (hs : s.final.isEnd) {R : Token → Cursor → Prop}
    (hR : ∀ c', Over 0 c c' → ((s.next c.rest).isEnd = false → Over 1 c c') → R (s.next c.rest) c') :
    Ends s c advance R := by
  have hrun : Runs s advance c (s.next c.rest) { c with rest := c.rest.tail } := rfl
  refine (ends_ok hrun).mpr (hR _ ⟨List.tail_suffix _, by simp, rfl⟩ fun hnext => ?_)
  cases hc : c.rest with
  | nil => simp [hc, Setting.next, hs] at hnext
  | cons t rest => exact ⟨by simp [hc], by simp [hc], rfl⟩

@[grind ←] theorem ends_acceptPunct (hs : s.final.isEnd)
    (htrue : ∀ c', Over 1 c c' → B true c') (hfalse : B false c) : Ends s c (acceptPunct text) B := by
  unfold acceptPunct
  grind

@[grind <=] theorem ends_expectPunct (hs : s.final.isEnd) : Passes s c 1 (expectPunct text) := by
  unfold expectPunct
  grind

@[grind <=] theorem ends_expectKind (hs : s.final.isEnd) (hkind : kind ≠ .endOfFile) : Passes s c 1 (expectKind kind) := by
  unfold expectKind
  grind

@[grind <=] theorem ends_expectIdentifier (hs : s.final.isEnd) : Passes s c 1 expectIdentifier := by
  unfold expectIdentifier
  grind

/-! ## 3. Loops -/

variable {σ : Type} {I : σ → Cursor → Prop}

theorem Over.refl (c : Cursor) : Over 0 c c := ⟨List.suffix_rfl, le_rfl, rfl⟩

theorem Over.mono (h : Over k c c') (hj : j ≤ k) : Over j c c' := by grind

theorem Over.past (h : Over k c c') : Past k c c' := by grind

section Steps

variable {step : σ → Parse (σ ⊕ β)} {x : σ} (hstep : ∀ x c1, Past 0 c c1 → I x c1 → Ends s c1 (step x) fun r c2 =>
  r.elim (fun y => Past 1 c1 c2 ∧ I y c2) (fun b => Q b c2))

include hstep

/-- A loop whose every round goes over a token ends before its bound. -/
theorem ends_iterate (bound : List Token) (hc : Past 0 c c1) (hx : I x c1)
    (hbound : c1.rest.length ≤ bound.length) : Ends s c1 (iterate step bound x) Q := by
  induction bound generalizing x c1 with (
    refine .bind ((hstep x c1 hc hx).mono ?_)
    rintro (y | b) c2 hend
    on_goal 2 => exact .pure hend
    obtain ⟨hover, hy⟩ := hend
    have hlt := hover.2.1)
  | nil =>
    simp only [List.length_nil] at hbound
    omega
  | cons t bound ih =>
    simp only [List.length_cons] at hbound
    exact ih (by grind) hy (by omega)

theorem ends_repeatStep (hx : I x c) : Ends s c (repeatStep x step) Q := by
  exact ends_iterate hstep c.rest (Over.refl c).past hx le_rfl

end Steps

attribute [grind =] Sum.elim_inl Sum.elim_inr

@[grind ←] theorem ends_repeat {init : σ}
    (hstep : ∀ x c1, Over 0 c c1 → Ends s c1 (step x) fun r c2 =>
      r.elim (fun _ => Over 1 c1 c2) (fun b => Q b c2)) :
    Ends s c (repeatStep init step) Q :=
  ends_repeatStep (fun x c1 _ hc => (hstep x c1 hc).mono fun r c2 hr => by cases r <;> grind) (.refl c)

theorem ends_whileTrue {R I : List β → Cursor → Prop} (hinit : I [] c)
    (hbody : ∀ as c1, Past 0 c c1 → I as c1 → Ends s c1 test fun b c2 =>
      if b then Ends s c2 action fun a c3 => Past 1 c1 c3 ∧ I (a :: as) c3 else R as.reverse c2) :
    Ends s c (whileTrue test action) R := by
  refine ends_repeatStep (fun as c1 hc has => ?_) hinit
  refine .bind ((hbody as c1 hc has).mono fun b c2 hb => ?_)
  cases b <;> simpa [ends_map, ends_pure] using hb

/-- A loop with a test before each round answers no more than it has gone over tokens. -/
@[grind ←] theorem ends_while {R : List β → Cursor → Prop} (hbody : ∀ c1, Over 0 c c1 → Ends s c1 test fun b c2 =>
      if b then Ends s c2 action fun _ c3 => Over 1 c1 c3 else Over 0 c1 c2)
    (hR : ∀ as c', Over as.length c c' → R as c') : Ends s c (whileTrue test action) R := by
  refine ends_whileTrue (I := fun as c1 => Over as.length c c1) (.refl c) fun as c1 hc has => ?_
  refine (hbody c1 (by grind)).mono fun b c2 hround => ?_
  cases b with
  | true => exact hround.mono fun a c3 hover => ⟨hover.past, by grind⟩
  | false => exact hR _ _ (by grind)

theorem toNat_isEmpty_le (as : List β) : (!as.isEmpty).toNat ≤ as.length := by
  cases as <;> simp

/-- A loop whose rounds may declare names. -/
theorem ends_whileDeclaring {R : List β → Cursor → Prop} (hbody : ∀ c1, Past 0 c c1 → Ends s c1 test fun b c2 =>
      if b then Ends s c2 action fun _ c3 => Past 1 c1 c3 else Past 0 c1 c2)
    (hR : ∀ as c', Past 0 c c' → R as c') : Ends s c (whileTrue test action) R := by
  refine ends_whileTrue (I := fun _ => Past 0 c) (Over.refl c).past fun as c1 hc _ => ?_
  refine (hbody c1 hc).mono fun b c2 hround => ?_
  cases b with
  | true => exact hround.mono fun a c3 hpast => ⟨hpast, by grind⟩
  | false => exact hR _ _ (by grind)

@[grind ←] theorem ends_separated (hs : s.final.isEnd) {R : List β → Cursor → Prop}
    (hfirst : Ends s c action fun a c1 => Over 0 c c1 ∧ ∀ as c', Over 0 c1 c' → R (a :: as) c')
    (hmore : ∀ c1, Over 0 c c1 → Ends s c1 action fun _ c2 => Over 0 c1 c2) : Ends s c (separated action) R := by
  refine .bind (hfirst.mono fun a c1 ha => ?_)
  refine .bind (ends_while (fun c2 hc2 => ends_acceptPunct hs (fun c3 hc3 => ?_) (by grind)) (by grind))
  exact (hmore c3 (by grind)).mono (by grind)

end Actions

/-! ## 4. Reading over extensions and qualifiers -/

/-- Whether a `__declspec` starts at a cursor. -/
def isDeclspec (s : Setting) (c : Cursor) : Bool :=
  (s.next c.rest).kind == .identifier && (s.next c.rest).lexeme == "__declspec" &&
    (c.rest.getD 1 s.final).isPunct "("

section Skipping

variable {s : Setting} (hs : s.final.isEnd = true) {c : Cursor}
include hs

@[grind <=] theorem ends_skipParentheses {depth : Nat} : Passes s c 0 (skipParentheses start depth) := by
  unfold skipParentheses
  grind

@[grind ←] theorem ends_gnuAttributes (hR : ∀ a c', Over a.any.toNat c c' → R a c') : Ends s c gnuAttributes R := by
  unfold gnuAttributes atGnuAttribute
  refine .bind (ends_while (by grind) fun as c' h => .pure (hR _ _ ?_))
  exact h.mono (toNat_isEmpty_le as)

omit hs in
@[grind norm] theorem ends_atDeclspec {R : Bool → Cursor → Prop} : Ends s c atDeclspec R ↔ R (isDeclspec s c) c := by
  unfold atDeclspec isDeclspec
  grind

/-- Where a `__declspec` starts, it is read over. -/
@[grind ←] theorem ends_skipDeclspecs
    (hR : ∀ a c', Over a.toNat c c' → (isDeclspec s c → Over 1 c c') → R a c') :
    Ends s c skipDeclspecs R := by
  refine .bind (ends_whileTrue (I := fun as c1 => Over as.length c c1 ∧ (as = [] → c1 = c))
    ⟨.refl c, fun _ => rfl⟩ fun as c1 hc has => ?_)
  refine ends_atDeclspec.mpr ?_
  split
  · grind [isDeclspec]
  · refine .pure (hR _ _ (has.1.mono ?_) fun hat => has.1.mono ?_)
    · simpa using toNat_isEmpty_le as.reverse
    · cases as with
      | nil => cases has.2 rfl; contradiction
      | cons a as => simp

@[grind ←] theorem ends_attributes (hR : ∀ a c', Over a.any.toNat c c' → R a c') : Ends s c attributes R := by
  refine ends_repeatStep (I := fun a c1 => Over a.any.toNat c c1) ?_ (.refl c)
  grind [AttributeSummary.join]

@[grind ←] theorem ends_skipAttributes (hR : ∀ a c', Over a.toNat c c' → R a c') : Ends s c skipAttributes R := by
  unfold skipAttributes
  grind

@[grind <=] theorem ends_skipTypeNameAttributes : Passes s c 0 (skipTypeNameAttributes allowGnu) := by
  unfold skipTypeNameAttributes
  grind

@[grind <=] theorem ends_skipMarkers : Passes s c 0 skipMarkers := by
  unfold skipMarkers
  grind

@[grind ←] theorem ends_skipAsmLabel (hR : ∀ a c', Over a.toNat c c' → R a c') : Ends s c skipAsmLabel R := by
  unfold skipAsmLabel
  grind

@[grind <=] theorem ends_skipDeclaratorExtensions : Passes s c 0 skipDeclaratorExtensions := by
  unfold skipDeclaratorExtensions
  grind

@[grind <=] theorem ends_skipCallingConventions : Passes s c 0 skipCallingConventions := by
  unfold skipCallingConventions
  grind [isCallingConvention]

omit hs in
@[grind <=] theorem ends_skipCallingConventionsIf : Passes s c 0 (skipCallingConventionsIf test) := by
  unfold skipCallingConventionsIf
  grind [List.drop_suffix]

attribute [local grind] isQualifier isIgnoredQualifier isNullability

@[grind <=] theorem ends_typeQualifiers : Passes s c 0 typeQualifiers := by
  unfold typeQualifiers
  grind

@[grind <=] theorem ends_skipQualifiers : Passes s c 0 (skipQualifiers allowAtomic) := by
  unfold skipQualifiers qualifierStep
  grind

@[grind <=] theorem ends_pointerDepth : Passes s c 0 pointerDepth := by
  unfold pointerDepth
  grind

end Skipping

/-! ## 5. Phrases without rules -/

section Words

variable {s : Setting} {c : Cursor} {t : Token} {size : Expr Unit} {qualifiers : List String} {allow : Bool}
  {context : TypeContext} {mode : DeclaratorMode} {specs : DeclSpecs} {base : TypeSpec Unit}

@[grind ←] theorem ends_throw (he : e ≠ .tooDeep) : Ends s c (throw e) R := ends_error rfl he

@[grind <=] theorem ends_splitString : Stays s c (splitString t) := by
  unfold splitString
  grind

@[grind <=] theorem ends_mergePrefix : Stays s c (mergePrefix left right t) := by
  unfold mergePrefix
  grind

@[grind <=] theorem ends_sizeOf? : Stays s c (sizeOf? size) := by
  unfold sizeOf?
  grind

@[grind <=] theorem ends_arraySize : Stays s c (arraySize size t) := by
  intro R hR
  refine .bind (ends_sizeOf? fun a => ?_)
  split <;> grind

@[grind ←] theorem ends_rejectForeign {context : String} (hR : R () c) :
    Ends s c (specs.rejectForeign context) R := by
  unfold DeclSpecs.rejectForeign
  grind

@[grind ←] theorem ends_rejectAlignment {context : String} (hR : R () c) :
    Ends s c (specs.rejectAlignment context) R := by
  unfold DeclSpecs.rejectAlignment
  grind

@[grind <=] theorem ends_add {words : IntegerWords} : Stays s c (words.add t) := by
  unfold IntegerWords.add
  grind

@[grind ←] theorem ends_expectedIdentifier {β : Type} {R : β → Cursor → Prop} : Ends s c expectedIdentifier R := by
  unfold expectedIdentifier
  grind

@[grind <=] theorem ends_baseIsQualified : Stays s c (baseIsQualified allowIgnored) := by
  unfold baseIsQualified
  grind

@[grind <=] theorem ends_checkAssociation : Stays s c (checkAssociation state t base span) := by
  unfold checkAssociation
  grind

@[grind <=] theorem ends_atIdentifierList : Stays s c atIdentifierList := by
  unfold atIdentifierList
  grind

@[grind <=] theorem ends_atParenthesizedTypeName : Stays s c atParenthesizedTypeName := by
  intro R hR
  unfold atParenthesizedTypeName
  rw [ends_bind, ends_atPunct, ends_ite]
  refine ⟨by grind, fun _ => ?_⟩
  rw [ends_bind, ends_get]
  dsimp only
  split
  · grind
  · split <;> grind

@[grind <=] theorem ends_atDeclaration : Stays s c atDeclaration := by
  intro R hR
  unfold atDeclaration
  rw [ends_bind, ends_get]
  dsimp only
  split
  · grind
  · split <;> grind

@[grind <=] theorem ends_sizedBound : Stays s c (sizedBound mode qualifiers isStatic size t) := by
  intro R hR
  unfold sizedBound
  dsimp only
  split
  · grind
  · refine .bind (ends_sizeOf? fun value => ?_)
    cases value <;> grind

@[grind <=] theorem ends_declareEnumerators : MayDeclare s c 0 (declareEnumerators base) := by
  intro R hR
  refine ends_modifyNames.mpr (hR _ _ ⟨List.suffix_rfl, le_rfl, ?_⟩)
  exact List.foldlRecOn (motive := (List.tail · = c.names.tail)) _ _ rfl fun known h _ _ => (tail_modifyTop known _).trans h

variable (hs : s.final.isEnd = true)
include hs

@[grind <=] theorem ends_stringLiteral : Passes s c 1 stringLiteral := by
  unfold stringLiteral
  grind

@[grind <=] theorem ends_integerType {first : Token} : Passes s c 0 (integerType first) := by
  unfold integerType
  grind

@[grind <=] theorem ends_tag? : Passes s c 0 tag? := by
  unfold tag?
  grind

@[grind <=] theorem ends_pointersBehind : Passes s c 0 (pointersBehind allow) := by
  unfold pointersBehind
  grind

@[grind <=] theorem ends_plainType {base : TypeBase Unit} : Passes s c 0 (plainType allow qualifiers base) := by
  unfold plainType
  grind

@[grind <=] theorem ends_knownType : Passes s c 0 (knownType allow qualifiers base) := by
  unfold knownType
  grind

@[grind <=] theorem ends_complexName : Passes s c 0 (complexName context t) := by
  unfold complexName
  grind

@[grind <=] theorem ends_skipComplex : Passes s c 0 (skipComplex context allow) := by
  unfold skipComplex
  grind

@[grind <=] theorem ends_boundSpecifiers : Passes s c 0 boundSpecifiers := by
  unfold boundSpecifiers
  grind [isQualifier]

@[grind <=] theorem ends_tagDeclaration : MayDeclare s c 0 (tagDeclaration specs base) := by
  unfold tagDeclaration
  grind

@[grind ←] theorem ends_braced {β : Type} {item : Parse β} {R : List β → Cursor → Prop}
    (hitem : ∀ c1, Over 1 c c1 → Ends s c1 item fun _ c2 => Over 1 c1 c2)
    (hR : ∀ a c', Over 1 c c' → R a c') : Ends s c (braced empty item) R := by
  refine .bind (ends_expectPunct hs fun _ c1 h1 => ?_)
  rw [ends_bind, ends_atPunct]
  split
  · grind
  refine .bind ((hitem c1 h1).mono fun a c2 h2 => ?_)
  refine .bind (ends_while (fun c3 h3 => ?_) (by grind))
  refine .bind (ends_acceptPunct hs (fun c4 h4 => ?_) (by grind))
  refine .bind (ends_atPunct.mpr (.pure ?_))
  split
  · exact (hitem c4 (by grind)).mono (by grind)
  · grind

end Words

end CCompiler.Grammar
