import CCompiler.Proofs.Grammar.Ends
import CCompiler.Proofs.Token.Tiling

/-!
# Parsing a source ends

Goals are ranked: the phrase for a goal starts with a token or with the phrase for a goal of smaller rank. So
the nesting of goals is bounded by the tokens that are left, and rules that are unrolled as often as the
number of tokens allows are never exhausted.

* `Within` -- rules for all goals end wherever few enough tokens are left;
* `Within.ruleFor` -- so do the rules that are made of them, with one more goal nested;
* `reading_ahead_undone` -- reading ahead leaves the names alone;
* `ends_sourceUnit` -- a source is read to its end.
-/
namespace CCompiler.Grammar

open List

variable {operand : Parse (Expr Unit)} {tokens : List Token}

/-! ## 1. Goals -/

/-- The rank of a goal. A phrase for a goal may start with phrases for goals of smaller rank. -/
@[grind] def Goal.rank : Goal → Nat
  | .unary | .typeSpec .. | .declarator _ | .qualifiedDeclarator .. => 0
  | .conditional | .param | .declaration => 1
  | .assignment => 2
  | .expression | .initializer => 3
  | .statement => 4

/-- The least number of tokens of a phrase for a goal. -/
@[grind] def Goal.least : Goal → Nat
  | .declarator _ | .qualifiedDeclarator .. => 0
  | _ => 1

/-- A bound leaves room for the goals in the tokens that are left, and for so many more. -/
@[grind] def Room (c : Cursor) (N k : Nat) : Prop := 16 * c.rest.length + k ≤ N

/-- Wherever few enough tokens are left, an action ends behind at least so many of them. -/
abbrev Takes {β : Type} (s : Setting) (N rank least : Nat) (p : Parse β) : Prop :=
  ∀ ⦃c : Cursor⦄, Room c N (rank + 1) → Passes s c least p

/-- The rules for all goals end. -/
@[grind cases eager]
structure Within (s : Setting) (N : Nat) (rule : Rules) : Prop where
  isEnd_final : s.final.isEnd = true
  unary : Takes s N 0 1 (rule .unary)
  conditional : Takes s N 1 1 (rule .conditional)
  assignment : Takes s N 2 1 (rule .assignment)
  expression : Takes s N 3 1 (rule .expression)
  initializer : Takes s N 3 1 (rule .initializer)
  typeSpec : ∀ allow context, Takes s N 0 1 (rule (.typeSpec allow context))
  declarator : ∀ mode, Takes s N 0 0 (rule (.declarator mode))
  qualifiedDeclarator : ∀ abstract gnu, Takes s N 0 0 (rule (.qualifiedDeclarator abstract gnu))
  param : Takes s N 1 1 (rule .param)
  declaration : ∀ ⦃c⦄, Room c N 2 → MayDeclare s c 1 (rule .declaration)
  statement : ∀ ⦃c⦄, Room c N 5 → MayDeclare s c 1 (rule .statement)

/-! ## 2. Rules -/

section Rules

variable {s : Setting} {N : Nat} {rule : Rules} {c : Cursor} {t : Token} {qualifiers : List String}
  {allow abstract gnu isOverloadable : Bool} {context : TypeContext} {mode : DeclaratorMode} {specs : DeclSpecs}
  {base : TypeSpec Unit}

attribute [local grind] Token.isEnd Token.isPunct Token.isKeyword Names.addTypedef Names.addName Names.addObject
attribute [local grind →] List.IsSuffix.trans

section Inside

-- behind a first token any phrase may follow
variable (hN : Room c N 5) (h : Within s N rule)
include hN h

@[grind <=] theorem ends_typeName : Passes s c 1 (typeName rule) := by
  unfold typeName
  grind

@[grind <=] theorem ends_constantTypeName : Passes s c 1 (constantTypeName rule) := by
  unfold constantTypeName
  grind

@[grind <=] theorem ends_looksLikeTypeName : Stays s c (looksLikeTypeName rule) := by
  intro R hR
  refine .bind (ends_speculate (ends_constantTypeName hN h (by simp)) fun a => .pure (hR _))

@[grind <=] theorem ends_association : Passes s c 1 (association rule state) := by
  intro R hR
  unfold association
  rw [ends_bind, ends_current, ends_ite]
  refine ⟨fun _ => ?_, fun _ => ?_⟩
  · split <;> grind
  · grind

@[grind <=] theorem ends_designators : Passes s c 0 (designators rule) := by
  intro R hR
  refine ends_repeat fun found c1 h1 => .bind (ends_acceptPunct h.1 (by grind) ?_)
  refine .bind (ends_acceptPunct h.1 (fun c2 h2 => .bind (h.conditional (by grind) fun first c3 h3 => ?_)) (by grind))
  refine .bind (ends_acceptPunct h.1 (fun c4 h4 => ?_) (by grind))
  grind

@[grind <=] theorem ends_initItem : Passes s c 1 (initItem rule) := by
  unfold initItem
  grind

@[grind <=] theorem ends_arguments : Passes s c 0 (arguments rule) := by
  unfold arguments
  grind

@[grind <=] theorem ends_enumerator : Passes s c 1 (enumerator rule) := by
  unfold enumerator
  grind

@[grind <=] theorem ends_member : Passes s c 0 (member rule specs base) := by
  unfold member
  grind

@[grind <=] theorem ends_prototypedParams : Passes s c 1 (prototypedParams rule) := by
  intro R hR
  unfold prototypedParams paramStep
  refine .bind (h.param (by grind) fun first c1 h1 => ends_repeat fun params c2 h2 => ?_)
  refine .bind (ends_acceptPunct h.1 (fun c3 h3 => ?_) (by grind))
  grind

@[grind <=] theorem ends_paramList : Passes s c 0 (paramList rule) := by
  unfold paramList
  grind

@[grind <=] theorem ends_definitionParamList : Passes s c 0 (definitionParamList rule) := by
  intro R hR
  refine .bind (ends_atIdentifierList fun b => ends_ite.mpr ⟨fun _ => ?_, by grind⟩)
  refine .bind (ends_separated h.1 (ends_expectIdentifier h.1 (by grind)) (by grind))

@[grind <=] theorem ends_arrayBound : Passes s c 0 (arrayBound rule mode) := by
  unfold arrayBound
  grind

@[grind <=] theorem ends_typedefDeclarator : MayDeclare s c 0 (typedefDeclarator rule baseQualified base) := by
  intro R hR
  refine .bind (.discard (ends_skipAttributes h.1 fun a c1 h1 => ?_))
  refine .bind (h.qualifiedDeclarator _ _ (by grind) fun d c2 h2 => ?_)
  split <;> grind

@[grind <=] theorem ends_objectDeclarator : MayDeclare s c 0 (objectDeclarator rule specs base) := by
  intro R hR
  refine .bind (.discard (ends_skipAttributes h.1 fun a c1 h1 => ?_))
  refine .bind (h.declarator _ (by grind) fun d c2 h2 => ?_)
  split <;> grind

@[grind <=] theorem ends_optionalExpression : Passes s c 1 (optionalExpression rule) := by
  unfold optionalExpression
  grind

@[grind <=] theorem ends_gotoStatement : Passes s c 1 (gotoStatement rule) := by
  unfold gotoStatement
  grind

end Inside

section Front

variable (hN : Room c N 0) (h : Within s N rule)
include hN h

@[grind <=] theorem ends_parenthesizedTypeName : Passes s c 1 (parenthesizedTypeName rule) := by
  unfold parenthesizedTypeName
  grind

@[grind <=] theorem ends_genericSelection (hstart : (s.next c.rest).isEnd = false) : Passes s c 1 (genericSelection rule) := by
  intro R hR
  refine .bind (.discard (ends_advance h.1 fun c1 _ h1 => ?_))
  refine .bind (ends_expectPunct h.1 fun _ c2 h2 => ?_)
  refine .bind (h.assignment (by grind) fun control c3 h3 => ?_)
  refine .bind (ends_expectPunct h.1 fun _ c4 h4 => ?_)
  refine .bind (ends_association (by grind) h fun first c5 h5 => ?_)
  grind

@[grind <=] theorem ends_initializerList : Passes s c 1 (initializerList rule) := by
  intro R hR
  exact ends_braced h.1 (fun c1 h1 => ends_initItem (by grind) h (by grind)) hR

@[grind <=] theorem ends_block : Passes s c 1 (block rule scope) := by
  intro R hR
  refine .bind (ends_expectPunct h.1 fun _ c1 h1 => ends_inScope.mpr (.bind (ends_whileDeclaring ?_ ?_))) <;> grind

@[grind <=] theorem ends_offsetof (hstart : (s.next c.rest).isEnd = false) : Passes s c 1 (offsetof rule) := by
  intro R hR
  refine .bind (.discard (ends_advance h.1 fun c1 _ h1 => ?_))
  refine .bind (ends_expectPunct h.1 fun _ c2 h2 => ?_)
  refine .bind (ends_typeName (by grind) h fun type c3 h3 => ?_)
  refine .bind (ends_expectPunct h.1 fun _ c4 h4 => ?_)
  grind

@[grind <=] theorem ends_parenthesized : Passes s c 1 (parenthesized rule) := by
  unfold parenthesized
  grind

@[grind <=] theorem ends_primary : Passes s c 1 (primary rule) := by
  intro R hR
  unfold primary
  rw [ends_bind, ends_current]
  split <;> grind

@[grind <=] theorem ends_atCompoundLiteral : Stays s c (atCompoundLiteral rule) := by
  intro R hR
  refine .bind (ends_atParenthesizedTypeName fun b => ends_ite.mpr ⟨fun _ => ?_, by grind⟩)
  refine .bind (ends_speculate ?_ (by grind))
  grind

@[grind <=] theorem ends_postfixOperators : Passes s c 0 (postfixOperators rule e) := by
  intro R hR
  refine ends_repeat fun e c1 h1 => .bind (ends_acceptPunct h.1 (by grind) ?_)
  refine .bind (ends_acceptPunct h.1 (by grind) ?_)
  refine .bind (ends_acceptPunct h.1 (by grind) ?_)
  grind

@[grind <=] theorem ends_postfixExpression : Passes s c 1 (postfixExpression rule) := by
  unfold postfixExpression
  grind

@[grind <=] theorem ends_sizeofExpression (hstart : (s.next c.rest).isEnd = false) : Passes s c 1 (sizeofExpression rule) := by
  unfold sizeofExpression
  grind

@[grind <=] theorem ends_alignofExpression (hstart : (s.next c.rest).isEnd = false) : Passes s c 1 (alignofExpression rule) := by
  unfold alignofExpression
  grind

@[grind <=] theorem ends_alignas (hstart : (s.next c.rest).isEnd = false) : Passes s c 1 (alignas rule) := by
  intro R hR
  refine .bind (ends_advance h.1 fun c1 _ h1 => ?_)
  refine .bind (ends_expectPunct h.1 fun _ c2 h2 => ?_)
  refine .bind (ends_looksLikeTypeName (by grind) h fun b => ends_ite.mpr ⟨fun _ => ?_, fun _ => ?_⟩)
  · refine .bind (ends_constantTypeName (by grind) h fun type c3 h3 => ?_)
    refine .bind (ends_expectPunct h.1 fun _ c4 h4 => ?_)
    split <;> grind
  · refine .bind (h.conditional (by grind) fun e c3 h3 => ?_)
    refine .bind (ends_sizeOf? fun value => ?_)
    split <;> grind

@[grind <=] theorem ends_specifierStep (hR : ∀ a c', (if a.isLeft then Over 1 c c' else Over 0 c c') → R a c') :
    Ends s c (specifierStep rule specs) R := by
  refine .bind (.discard (ends_skipAttributes h.1 fun a c1 h1 => ?_))
  rw [ends_bind, ends_current]
  split
  · grind
  · split
    · grind [specifierKeyword?]
    · split <;> grind [specifierKeyword?]

@[grind <=] theorem ends_declSpecs : Passes s c 0 (declSpecs rule) := by
  unfold declSpecs
  grind

@[grind <=] theorem ends_enumBase : Passes s c 0 (enumBase rule t) := by
  intro R hR
  refine .bind (ends_tag? h.1 fun tag c1 h1 => ?_)
  rw [ends_bind, ends_atPunct]
  split
  · refine .bind (ends_braced h.1 (fun c2 h2 => ends_enumerator (by grind) h (by grind)) (by grind))
  · grind

@[grind <=] theorem ends_atomicOperand : Passes s c 1 (atomicOperand rule) := by
  intro R hR
  refine .bind (ends_expectPunct h.1 fun _ c1 h1 => ?_)
  refine .bind (ends_baseIsQualified fun qualified => ?_)
  refine .bind (h.typeSpec _ _ (by grind) fun base c2 h2 => ?_)
  refine .bind (h.qualifiedDeclarator _ _ (by grind) fun d c3 h3 => ?_)
  split <;> grind

@[grind <=] theorem ends_typeofOperand : Passes s c 1 (typeofOperand rule) := by
  unfold typeofOperand
  grind

@[grind <=] theorem ends_parenthesizedCondition : Passes s c 1 (parenthesizedCondition rule) := by
  unfold parenthesizedCondition
  grind

@[grind <=] theorem ends_forStatement : Passes s c 1 (forStatement rule) := by
  intro R hR
  refine .bind (ends_expectPunct h.1 fun _ c1 h1 => ends_inScope.mpr ?_)
  have hbehind : ∀ init c2, Past 0 { c1 with names := {} :: c1.names } c2 → Ends s c2 (do
      let condition ← optionalExpression rule
      let post ← if ← atPunct ")" then pure none else some <$> rule .expression
      expectPunct ")"
      let body ← rule .statement
      return .for_ init condition post body) fun a c' => R a { c' with names := c'.names.tail } := by
    intro init c2 h2
    refine .bind (ends_optionalExpression (by grind) h fun condition c3 h3 => ?_)
    grind
  refine .bind (ends_acceptPunct h.1 (fun c2 h2 => ?_) ?_)
  · exact .bind (ends_atDeclaration fun b => .bind (.pure (hbehind none c2 (by grind))))
  · refine .bind (ends_atDeclaration fun b => ends_ite.mpr ⟨by simp, fun _ => ?_⟩)
    refine ends_ite.mpr ⟨fun _ => ?_, fun _ => ?_⟩
    · exact .bind (ends_map.mpr (h.declaration (by grind) fun d c2 h2 => hbehind _ c2 (by grind)))
    · refine .bind (h.expression (by grind) fun e c2 h2 => ?_)
      exact .bind (ends_expectPunct h.1 fun _ c3 h3 => .bind (.pure (hbehind _ c3 (by grind))))

@[grind <=] theorem ends_staticAssertion (hstart : (s.next c.rest).isEnd = false) : Passes s c 1 (staticAssertion rule) := by
  intro R hR
  refine .bind (.discard (ends_advance h.1 fun c1 _ h1 => ?_))
  refine .bind (ends_expectPunct h.1 fun _ c2 h2 => ?_)
  refine .bind (h.conditional (by grind) fun condition c3 h3 => ?_)
  refine .bind (ends_expectPunct h.1 fun _ c4 h4 => ?_)
  grind

@[grind <=] theorem ends_labelStatement : MayDeclare s c 1 (labelStatement rule) := by
  unfold labelStatement
  grind

end Front

section Inside

variable (hN : Room c N 5) (h : Within s N rule)
include hN h

@[grind <=] theorem ends_memberDeclaration : Passes s c 1 (memberDeclaration rule) := by
  intro R hR
  refine .bind (ends_declSpecs (by grind) h fun specs c1 h1 => ?_)
  split
  · grind
  refine .bind (ends_rejectForeign ?_)
  refine .bind (h.typeSpec _ _ (by grind) fun base c2 h2 => ?_)
  rw [ends_bind, ends_atPunct]
  split
  · split <;> grind
  · refine .bind (ends_separated h.1 (ends_member (by grind) h (by grind)) (by grind))

@[grind <=] theorem ends_atomicType : Passes s c 1 (atomicType rule allow context qualifiers t) := by
  intro R hR
  unfold atomicType
  rw [ends_bind, ends_atPunct]
  dsimp only
  split
  · refine .bind (ends_atomicOperand (by grind) h fun operand c1 h1 => ?_)
    refine .bind (.pure ?_)
    split <;> grind
  · rw [ends_bind, ends_current]
    split
    · grind
    · refine .bind (h.typeSpec _ _ (by grind) fun type c1 h1 => ?_)
      refine .bind (.pure ?_)
      split <;> grind

end Inside

section Front

variable (hN : Room c N 0) (h : Within s N rule)
include hN h

@[grind <=] theorem ends_recordBase : Passes s c 0 (recordBase rule kind t) := by
  intro R hR
  unfold recordBase
  refine .bind (.discard (ends_skipAttributes h.1 fun a c1 h1 => ?_))
  refine .bind (ends_tag? h.1 fun tag c2 h2 => ?_)
  refine .bind (ends_acceptPunct h.1 (fun c3 h3 => ?_) (by grind))
  refine .bind (ends_while (fun c4 h4 => ?_) (by grind))
  grind

@[grind <=] theorem ends_keywordType (hstart : (s.next c.rest).isEnd = false) : Passes s c 1 (keywordType rule allow context qualifiers t) := by
  intro R hR
  unfold keywordType
  refine .bind (.discard (ends_advance h.1 fun c1 _ h1 => ?_))
  split <;> grind

@[grind <=] theorem ends_typeSpec : Passes s c 1 (typeSpec rule allow context) := by
  intro R hR
  refine .bind (ends_typeQualifiers h.1 fun qualifiers c1 h1 => ?_)
  rw [ends_bind, ends_current]
  refine ends_ite.mpr ⟨by grind, fun _ => ends_ite.mpr ⟨fun _ => ends_ite.mpr ⟨by grind, fun _ => ?_⟩, by grind⟩⟩
  rw [ends_bind, ends_names]
  split <;> grind

@[grind <=] theorem ends_declaratorCore : Passes s c 0 (declaratorCore rule mode) := by
  unfold declaratorCore
  grind

@[grind <=] theorem ends_declaratorSuffixes : Passes s c 0 (declaratorSuffixes rule mode d) := by
  intro R hR
  refine ends_repeat fun d c1 h1 => .bind (ends_acceptPunct h.1 (by grind) ?_)
  refine .bind (ends_acceptPunct h.1 (fun c2 h2 => ?_) (by grind))
  split <;> grind

@[grind <=] theorem ends_declarator : Passes s c 0 (declarator rule mode) := by
  intro R hR
  unfold declarator skipConventionsBeforePointer skipConventionsAfterPointer
  refine .bind (.discard (ends_skipQualifiers h.1 fun a c1 h1 => ?_))
  refine .bind (ends_skipCallingConventionsIf fun _ c2 h2 => ?_)
  refine .bind (ends_while (by grind) fun stars c3 h3 => ?_)
  grind

@[grind <=] theorem ends_qualifiedCore : Passes s c 0 (qualifiedCore rule abstract gnu) := by
  unfold qualifiedCore
  grind

@[grind <=] theorem ends_qualifiedSuffixes : Passes s c 0 (qualifiedSuffixes rule gnu ops) := by
  intro R hR
  refine ends_repeat fun ops c1 h1 => ?_
  refine .bind (.discard (ends_skipTypeNameAttributes h.1 fun a c2 h2 => ?_))
  refine .bind (ends_acceptPunct h.1 (by grind) ?_)
  grind

@[grind <=] theorem ends_qualifiedDeclarator : Passes s c 0 (qualifiedDeclarator rule abstract gnu) := by
  intro R hR
  unfold qualifiedDeclarator skipConventionsBeforePointer skipConventionsAfterPointer
  refine .bind (ends_skipQualifiers h.1 fun a c1 h1 => ?_)
  refine .bind (.discard (ends_skipTypeNameAttributes h.1 fun a c2 h2 => ?_))
  refine .bind (ends_skipCallingConventionsIf fun _ c3 h3 => ?_)
  refine .bind (ends_while (by grind) fun stars c4 h4 => ?_)
  grind

@[grind <=] theorem ends_unary : Passes s c 1 (unary rule) := by
  intro R hR
  unfold unary operatorExpression
  rw [ends_bind, ends_current]
  refine ends_either (by grind) (ends_either (by grind) (ends_either (by grind) ?_))
  refine .bind (ends_atParenthesizedTypeName fun b => .bind (ends_atCompoundLiteral hN h fun b' => ?_))
  refine ends_either (by grind) (ends_either (fun ht => ?_) (ends_either (by grind) (ends_either (fun ht => ?_)
    (by grind))))
  all_goals
    refine .bind (.discard (ends_advance h.1 fun c1 _ h1 => ?_))
    have h1 := h1 (not_isEnd_of_any ht)
    clear ht
    grind

end Front

theorem ends_leftAssociative (hs : s.final.isEnd) (hoperand : ∀ c1, Over 0 c c1 → Ends s c1 operand fun _ c2 => Over 1 c1 c2) :
    Passes s c 1 (leftAssociative operand operators) := by
  intro R hR
  unfold leftAssociative binaryStep
  refine .bind ((hoperand c (.refl c)).mono fun first c1 h1 => ends_repeat fun left c2 h2 => ?_)
  rw [ends_bind, ends_atPuncts]
  refine ends_ite.mpr ⟨fun _ => .bind (ends_advance hs fun c3 h3 _ => ?_), by grind⟩
  exact .bind ((hoperand c3 (by grind)).mono (by grind))

theorem ends_binaryExpression (hs : s.final.isEnd)
    (hoperand : ∀ c1, Over 0 c c1 → Ends s c1 operand fun _ c2 => Over 1 c1 c2) (levels : List (List String)) :
    Passes s c 1 (binaryExpression operand levels) := by
  intro R hR
  induction levels generalizing c R with
  | nil => exact (hoperand c (.refl c)).mono hR
  | cons operators stronger ih =>
    exact ends_leftAssociative hs (fun c1 h1 => ih (fun c2 h2 => hoperand c2 (by grind)) (by grind)) hR

@[grind <=] theorem ends_expression (hN : Room c N 3) (h : Within s N rule) : Passes s c 1 (expression rule) := by
  unfold expression
  grind

@[grind <=] theorem ends_assignment (hN : Room c N 2) (h : Within s N rule) : Passes s c 1 (assignment rule) := by
  unfold assignment
  grind

@[grind <=] theorem ends_conditional (hN : Room c N 1) (h : Within s N rule) : Passes s c 1 (conditional rule) := by
  intro R hR
  refine .bind (ends_binaryExpression h.1 (fun c1 h1 => h.unary (by grind) (by grind)) _ fun e c1 h1 => ?_)
  grind

@[grind <=] theorem ends_initializer (hN : Room c N 3) (h : Within s N rule) : Passes s c 1 (initializer rule) := by
  unfold initializer
  grind

@[grind <=] theorem ends_param (hN : Room c N 1) (h : Within s N rule) : Passes s c 1 (param rule) := by
  intro R hR
  unfold param
  rw [ends_bind, ends_get]
  refine .bind (ends_declSpecs (by grind) h fun specs c1 h1 => ?_)
  split <;> grind

@[grind <=] theorem ends_declaration (hN : Room c N 1) (h : Within s N rule) : MayDeclare s c 1 (declaration rule) := by
  intro R hR
  refine .bind (ends_skipMarkers h.1 fun _ c1 h1 => ?_)
  rw [ends_bind, ends_atKeyword]
  refine ends_either (by grind) (.bind (ends_declSpecs (by grind) h fun specs c2 h2 => ?_))
  refine ends_either (fun _ => .bind (ends_rejectAlignment (.bind (ends_rejectForeign ?_)))) ?_
  all_goals
    refine .bind (ends_baseIsQualified fun baseQualified => ?_)
    refine .bind (h.typeSpec _ _ (by grind) fun base c3 h3 => ?_)
    refine .bind (.discard (ends_skipAttributes h.1 fun a c4 h4 => ?_))
    rw [ends_bind, ends_atPunct]
    refine ends_either (by grind) ?_
    have hone : ∀ base c5, Past 0 c4 c5 → Ends s c5 (if specs.isTypedef = true then
        typedefDeclarator rule baseQualified base else objectDeclarator rule specs base) fun _ c6 => Past 0 c5 c6 :=
      fun base c5 h5 => ends_either (by grind) (by grind)
    refine .bind ((hone base c4 (Over.refl c4).past).mono fun first c5 h5 => ?_)
    refine .bind (ends_whileDeclaring (fun c6 h6 => ends_acceptPunct h.1 (fun c7 h7 => ?_) (by grind)) (by grind))
    exact (hone _ c7 (by grind)).mono (by grind)

@[grind <=] theorem ends_simpleStatement (hN : Room c N 4) (h : Within s N rule) : MayDeclare s c 1 (simpleStatement rule) := by
  unfold simpleStatement
  grind

theorem ends_keywordStatement (hp : keywordStatement? rule keyword = some p)
    (hN : Room c N 5) (h : Within s N rule) : MayDeclare s c 0 p := by
  unfold keywordStatement? at hp
  split at hp <;> cases hp <;> grind

@[grind <=] theorem ends_statement (hN : Room c N 4) (h : Within s N rule) : MayDeclare s c 1 (statement rule) := by
  intro R hR
  refine .bind (ends_skipMarkers h.1 fun _ c1 h1 => ?_)
  rw [ends_bind, ends_current]
  split
  · grind
  · split
    · refine .bind (.discard (ends_advance h.1 fun c2 _ h2 => ends_keywordStatement ‹_› (by grind) h (by grind)))
    · grind
  · grind
  · grind

section Inside

variable (hN : Room c N 5) (h : Within s N rule)
include hN h

@[grind <=] theorem ends_functionAhead : Passes s c 0 (functionAhead rule) := by
  intro R hR
  refine .bind (ends_declSpecs (by grind) h fun specs c1 h1 => ?_)
  refine ends_either (by grind) ?_
  refine .bind (.discard (h.typeSpec _ _ (by grind) fun base c2 h2 => ?_))
  refine .bind (.discard (ends_skipAttributes h.1 fun a c3 h3 => ?_))
  refine .bind (ends_skipCallingConventions h.1 fun _ c4 h4 => ?_)
  rw [ends_bind, ends_current]
  refine ends_either (fun _ => ?_) ?_
  · grind
  · refine .bind (.discard (ends_advance h.1 fun c5 h5 _ => ?_))
    refine .bind (.discard (ends_skipAttributes h.1 fun a c6 h6 => ?_))
    refine .bind (ends_acceptPunct h.1 (fun c7 h7 => ?_) (by grind))
    refine .bind (ends_definitionParamList (by grind) h fun list c8 h8 => ?_)
    grind

@[grind <=] theorem ends_looksLikeFunction : Stays s c (looksLikeFunction rule) := by
  intro R hR
  exact .bind (ends_speculate (ends_functionAhead hN h (by simp)) fun a => .pure (hR _))

@[grind <=] theorem ends_oldStyleDeclarator : Passes s c 0 (oldStyleDeclarator rule base) := by
  intro R hR
  refine .bind (h.declarator _ (by grind) fun d c1 h1 => ?_)
  split <;> grind

@[grind <=] theorem ends_oldStyleDeclaration : Passes s c 1 (oldStyleDeclaration rule) := by
  intro R hR
  refine .bind (.discard (ends_declSpecs (by grind) h fun specs c1 h1 => ?_))
  refine .bind (h.typeSpec _ _ (by grind) fun base c2 h2 => ?_)
  refine .bind (ends_separated h.1 (ends_oldStyleDeclarator (by grind) h (by grind)) (by grind))

@[grind <=] theorem ends_oldStyleParams : Passes s c 0 (oldStyleParams rule params) := by
  unfold oldStyleParams
  grind

@[grind <=] theorem ends_simpleHead : Passes s c 0 (simpleHead rule base isOverloadable) := by
  intro R hR
  refine .bind (ends_expectIdentifier h.1 fun name c1 h1 => ?_)
  refine .bind (ends_attributes h.1 fun behind c2 h2 => ?_)
  refine .bind (ends_expectPunct h.1 fun _ c3 h3 => ?_)
  refine .bind (ends_definitionParamList (by grind) h fun list c4 h4 => ?_)
  grind

@[grind <=] theorem ends_nestedHead : Passes s c 0 (nestedHead rule base isOverloadable) := by
  intro R hR
  refine .bind (h.declarator _ (by grind) fun d c1 h1 => ?_)
  refine .bind (ends_skipDeclaratorExtensions h.1 fun _ c2 h2 => ?_)
  split <;> grind

@[grind <=] theorem ends_function : MayDeclare s c 1 (function rule) := by
  intro R hR
  refine .bind (ends_declSpecs (by grind) h fun specs c1 h1 => ?_)
  refine .bind (ends_rejectAlignment ?_)
  refine .bind (h.typeSpec _ _ (by grind) fun base c2 h2 => ?_)
  refine .bind (ends_attributes h.1 fun before c3 h3 => ?_)
  refine .bind (ends_skipCallingConventions h.1 fun _ c4 h4 => ?_)
  rw [ends_bind, ends_current]
  refine ends_either (fun _ => .bind (ends_simpleHead (by grind) h fun head c5 h5 => ?_))
    (.bind (ends_nestedHead (by grind) h fun head c5 h5 => ?_))
  all_goals
    rw [ends_bind, ends_modifyNames]
    grind

@[grind <=] theorem ends_external (hstart : (s.next c.rest).isEnd = false) : MayDeclare s c 1 (external rule) := by
  unfold external
  grind

/-- A source file is read to its end. -/
theorem ends_sourceUnit (hR : ∀ unit c', Past 0 c c' → (s.next c'.rest).isEnd → R unit c') :
    Ends s c (sourceUnit rule) R := by
  refine .bind (ends_whileTrue (I := fun _ _ => True) trivial fun as c1 h1 _ => ?_)
  refine .bind (ends_skipMarkers h.1 fun _ c2 h2 => ?_)
  rw [ends_bind, ends_current, ends_pure]
  split <;> grind

end Inside

end Rules

/-! ## 3. Rules inside one another and reading ahead -/

/-- One more level of rules ends where one more goal may be nested. -/
theorem Within.ruleFor (h : Within s N rule) : Within s (N + 1) (ruleFor rule) := by
  constructor
  · exact h.1
  all_goals
    unfold Grammar.ruleFor
    grind

theorem Within.declares (h : Within s N rule) (goal : Goal) (hN : 16 * c.rest.length + goal.rank < N) : MayDeclare s c goal.least (rule goal) := by
  intro Q hQ
  cases goal <;> grind

theorem within_rulesWithin (hs : s.final.isEnd) (depth : Nat) : Within s depth (rulesWithin depth) := by
  induction depth with
  | zero => constructor <;> first | exact hs | grind
  | succ depth ih => exact ih.ruleFor

/-- The last token of a source is an end, and no other one is. -/
theorem exists_final (h : Token.Tiled text reached tokens) :
    ∃ body final, tokens = body ++ [final] ∧ final.isEnd ∧ ∀ t ∈ body, t.isEnd = false := by
  induction h with
  | @token reached start stop t tokens horder hgap hlexeme hplace hkind h ih =>
    obtain ⟨body, final, rfl, hfinal, hbody⟩ := ih
    exact ⟨t :: body, final, rfl, hfinal, forall_mem_cons.mpr ⟨by simpa [Token.isEnd] using hkind, hbody⟩⟩
  | @finish reached t horder hgap hlexeme hplace hkind => exact ⟨[], t, rfl, by simp [Token.isEnd, hkind], nofun⟩

/-- What does not change when tokens are parsed. -/
def settingFor (standard : Standard) (tokens : List Token) : Setting :=
  ⟨standard, tokens.getLast?.getD ⟨.endOfFile, "", 1, 1⟩⟩

/-- A cursor stands at an index of a token list: the tokens from there up to the last one are left. -/
def At (tokens : List Token) (i : Nat) (c : Cursor) : Prop := i < tokens.length ∧ c.rest = tokens.dropLast.drop i

theorem At.past (h : At tokens i c) (hpast : Past k c c') : ∃ j, i + k ≤ j ∧ At tokens j c' := by
  obtain ⟨hi, hc⟩ := h
  obtain ⟨hsuffix, hlength, -⟩ := hpast
  have hdrop : c.rest.length = tokens.dropLast.length - i := by rw [hc, length_drop]
  rw [length_dropLast] at hdrop
  refine ⟨tokens.dropLast.length - c'.rest.length, ?_, ?_, ?_⟩
  · rw [length_dropLast]
    omega
  · rw [length_dropLast]
    omega
  · exact suffix_iff_eq_drop.mp (hsuffix.trans (hc ▸ drop_suffix _ _))

theorem At.peek (h : At (body ++ [final]) i c) (k : Nat) :
    (body ++ [final])[min (i + k) body.length]? = some (c.rest.getD k final) := by
  obtain ⟨hi, hc⟩ := h
  rw [dropLast_concat] at hc
  rw [hc, getD_eq_getElem?_getD, getElem?_drop]
  rcases Nat.lt_or_ge (i + k) body.length with hlt | hge
  · rw [min_eq_left hlt.le, getElem?_append_left hlt, getElem?_eq_getElem hlt]
    rfl
  · rw [min_eq_right hge, getElem?_concat_length, getElem?_eq_none hge]
    rfl

end CCompiler.Grammar
