import CCompiler.Proofs.Grammar.Pointers

/-!
# Specifiers in front of declarators

What stands in front of the declarators of a declaration is read in two parts, the declaration specifiers and
the type specifier. The type specifier takes the stars of the first declarator with it.

* `Specifies` -- tokens are read as specifiers, whatever declarator follows;
* `Specifies.runs` -- specifiers read with the stars of the declarator that follows;
* `specifies_keyword` -- the keywords of types as specifiers.
-/
namespace CCompiler.Grammar

open List

variable {setting : Setting} {N : Names → Prop}
variable {context : TypeContext} {words : IntegerWords} {spec : TypeSpec Unit}

/-! ## 1. Reading specifiers -/

/-- A declarator starts at a place. -/
def Opens (setting : Setting) (rest : List Token) : Prop :=
  Calm setting rest ∧ ((setting.next rest).kind = .identifier ∨ (setting.next rest).isPunct "*" = true ∨
    (setting.next rest).isPunct "(" = true)

/-- Tokens are read as declaration specifiers and the specifier of a type, where a declarator follows and
    the names in scope are among some. -/
def Specifies (setting : Setting) (N : Names → Prop) (ts : List Token) (specs : DeclSpecs)
    (base : TypeSpec Unit) : Prop :=
  ∃ us vs, ts = us ++ vs ∧ ∀ {names rest d}, N names → Opens setting rest → 16 * ts.length ≤ d →
    Runs setting (declSpecs (rulesWithin d)) ⟨ts ++ rest, names⟩ specs ⟨vs ++ rest, names⟩ ∧
    Runs setting (rulesWithin d (.typeSpec false .declaration)) ⟨vs ++ rest, names⟩ base ⟨rest, names⟩

theorem Opens.of_stars (h : Stars stars k) (hr : Opens setting rest) : Opens setting (stars ++ rest) := by
  cases h with
  | none => exact hr
  | star ht => exact ⟨calm_of_isPunct ht, .inr (.inl ht)⟩

/-- Specifiers are read with the stars of the declarator that follows. -/
theorem Specifies.runs {names : Names} (h : Specifies setting N ts specs base) (hN : N names) (hstars : Stars stars k)
    (hopens : Opens setting rest) (hnot : (setting.next rest).isPunct "*" = false)
    (hd : 16 * ts.length ≤ d + 1) :
    ∃ vs longer, Extends base k longer ∧
      Runs setting (declSpecs (rulesWithin (d + 1))) ⟨ts ++ (stars ++ rest), names⟩ specs
        ⟨vs ++ (stars ++ rest), names⟩ ∧
      Runs setting (rulesWithin (d + 1) (.typeSpec true .declaration)) ⟨vs ++ (stars ++ rest), names⟩ longer
        ⟨rest, names⟩ := by
  obtain ⟨us, vs, rfl, hread⟩ := h
  obtain ⟨hspecs, htype⟩ := hread hN (hopens.of_stars hstars) hd
  obtain ⟨longer, hlonger, hext⟩ :=
    absorbs_typeSpec _ _ htype (runs_pointerDepth hstars hopens.1 hnot)
  exact ⟨vs, longer, hext, hspecs, hlonger⟩

/-- Specifiers that a parameter may have. -/
structure DeclSpecs.FitParameter (specs : DeclSpecs) : Prop where
  storage : ∀ p ∈ specs.storage, p.1 = .register
  foreign : specs.foreign? = none
  alignment : specs.alignment = none

section Checks

variable {specs : DeclSpecs} {c c' : Cursor}

theorem DeclSpecs.FitParameter.runs_storage {β : Type} {next : Unit → Parse β} {b : β}
    (h : specs.FitParameter) (hnext : Runs setting (next ()) c b c') :
    Runs setting (match specs.storage with
      | some (storage, token) =>
        if storage ≠ .register then failAt token (.parameterStorage storage) >>= next else next ()
      | none => next ()) c b c' := by
  split
  · rename_i storage token hs
    rw [if_neg (not_not_intro (h.storage (storage, token) hs))]
    exact hnext
  · exact hnext

theorem runs_rejectForeign (h : specs.foreign? = none) (context : String) :
    Runs setting (specs.rejectForeign context) c .unit c := by
  unfold DeclSpecs.rejectForeign
  rw [h]
  rfl

theorem runs_rejectAlignment (h : specs.alignment = none) (context : String) :
    Runs setting (specs.rejectAlignment context) c .unit c := by
  unfold DeclSpecs.rejectAlignment
  rw [h]
  rfl

end Checks

/-! ## 2. Places without attributes -/

section Attributes

variable {names : Names} {rest : List Token}

/-- Whether a GNU attribute starts at a place. -/
def startsGnuAttribute (setting : Setting) (rest : List Token) : Bool :=
  (setting.next rest).kind == .identifier && (setting.next rest).lexeme == "__attribute__" &&
    (rest.getD 1 setting.final).isPunct "(" && (rest.getD 2 setting.final).isPunct "("

/-- No attribute starts at a place. -/
structure NoAttribute (setting : Setting) (rest : List Token) : Prop where
  gnu : startsGnuAttribute setting rest = false
  declspec : startsDeclspec setting rest = false

theorem noAttribute_of_kind (h : (setting.next rest).kind ≠ .identifier) : NoAttribute setting rest := by
  have hkind : ((setting.next rest).kind == .identifier) = false := beq_eq_false_iff_ne.mpr h
  constructor
  · rw [startsGnuAttribute, hkind, Bool.false_and, Bool.false_and, Bool.false_and]
  · rw [startsDeclspec, hkind, Bool.false_and, Bool.false_and]

theorem NoAttribute.runs_attributes (h : NoAttribute setting rest) :
    Runs setting attributes ⟨rest, names⟩ {} ⟨rest, names⟩ := by
  have hgnu : Runs setting atGnuAttribute ⟨rest, names⟩ false ⟨rest, names⟩ := by
    rw [← h.gnu]
    rfl
  have hdeclspec : Runs setting atDeclspec ⟨rest, names⟩ false ⟨rest, names⟩ := by
    rw [← h.declspec]
    exact runs_atDeclspec
  have hgnus : Runs setting gnuAttributes ⟨rest, names⟩ {} ⟨rest, names⟩ :=
    (Runs.whileTrue (.refl _ _) hgnu).bind (.pure _)
  have hdeclspecs : Runs setting skipDeclspecs ⟨rest, names⟩ false ⟨rest, names⟩ :=
    (Runs.whileTrue (.refl _ _) hdeclspec).bind (.pure _)
  exact Runs.repeatStep (.refl _ _) (hgnus.bind (hdeclspecs.bind (.pure _)))

theorem NoAttribute.runs_skipAttributes (h : NoAttribute setting rest) :
    Runs setting skipAttributes ⟨rest, names⟩ false ⟨rest, names⟩ :=
  h.runs_attributes.bind (.pure _)

end Attributes

/-! ## 3. Keywords and type names as specifiers -/

section Words

variable {names : Names} {t : Token} {rest : List Token} {rule : Rules}

/-- A token that is no declaration specifier. -/
theorem runs_declSpecs_none (hattr : NoAttribute setting (t :: rest))
    (hstep : ∀ keyword ∈ specifierKeyword? t, StorageClass.ofKeyword? keyword = none ∧
      keyword ∉ ["_Thread_local", "inline", "_Noreturn", "_Alignas"]) :
    Runs setting (declSpecs rule) ⟨t :: rest, names⟩ {} ⟨t :: rest, names⟩ := by
  refine Runs.repeatStep (.refl _ _) (hattr.runs_skipAttributes.discard.bind (runs_current.bind ?_))
  simp only [show setting.next (t :: rest) = t from rfl]
  cases hkeyword : specifierKeyword? t with
  | none => exact .pure _
  | some keyword =>
    obtain ⟨hstorage, hother⟩ := hstep keyword hkeyword
    dsimp only
    rw [hstorage]
    dsimp only
    split <;> first
      | exact absurd (by decide) hother
      | exact .pure _

theorem runs_declSpecs_keyword (hkind : t.kind = .keyword) (h : StorageClass.ofKeyword? t.lexeme = none ∧
      t.lexeme ∉ ["_Thread_local", "inline", "_Noreturn", "_Alignas"]) :
    Runs setting (declSpecs rule) ⟨t :: rest, names⟩ {} ⟨t :: rest, names⟩ := by
  refine runs_declSpecs_none (noAttribute_of_kind ?_) fun keyword hkeyword => ?_
  · show t.kind ≠ .identifier
    rw [hkind]
    decide
  · simp only [specifierKeyword?, hkind, Option.mem_def, Option.some.injEq] at hkeyword
    exact hkeyword ▸ h

/-- A token that is no qualifier. -/
theorem runs_typeQualifiers_none (hq : isQualifier t = false) (hname : t.kind ≠ .identifier) :
    Runs setting typeQualifiers ⟨t :: rest, names⟩ [] ⟨t :: rest, names⟩ := by
  have hi : isIgnoredQualifier t = false := by
    rw [isIgnoredQualifier, beq_eq_false_iff_ne.mpr hname, Bool.false_and]
  refine Runs.bind (Runs.repeatStep (b := []) (.refl _ _) (runs_current.bind ?_)) (Runs.pure [])
  show Runs setting (if (isQualifier t || isIgnoredQualifier t) = true then _ else _) _ _ _
  rw [hq, hi]
  refine runs_atDeclspec.bind ?_
  have hattr : NoAttribute setting (t :: rest) := noAttribute_of_kind hname
  rw [hattr.declspec]
  exact .pure _

/-- The keywords that name a type alone, with the type. -/
def keywordTypes : List (String × String) :=
  [("int", "int"), ("char", "char"), ("short", "short"), ("long", "long"), ("signed", "int"),
    ("unsigned", "unsigned int"), ("float", "float"), ("double", "double"), ("_Bool", "_Bool"),
    ("void", "void")]

section Alone

variable (h : (setting.next rest).kind ≠ .keyword)
include h

theorem runs_skipComplex : Runs setting (skipComplex context allow) ⟨rest, names⟩ .unit ⟨rest, names⟩ := by
  refine runs_current.bind ?_
  rw [Token.isKeyword_of_kind h]
  exact .pure _

theorem runs_integerType (hadd : IntegerWords.add {} t = pure words) :
    Runs setting (integerType t) ⟨rest, names⟩ words.typeName ⟨rest, names⟩ := by
  unfold integerType
  rw [hadd]
  refine (Runs.pure words).bind (Runs.bind (Runs.repeatStep (.refl _ _) (runs_current.bind ?_)) (.pure _))
  rw [decide_eq_false h]
  exact .pure _

theorem runs_integerKeyword (ht : t.lexeme ∈ integerKeywords) (hadd : IntegerWords.add {} t = pure words) :
    Runs setting (keywordType rule false context [] t) ⟨t :: rest, names⟩ (TypeSpec.ofName words.typeName)
      ⟨rest, names⟩ := by
  refine runs_advance.discard.bind ?_
  split
  iterate 11
    rename_i htext
    exact absurd ht (by rw [htext]; decide)
  rw [if_pos (contains_iff_mem.mpr ht)]
  refine (runs_integerType h hadd).bind ((runs_atKeyword (Token.isKeyword_of_kind h _)).bind ?_)
  rw [Bool.and_false]
  exact (runs_skipComplex h).bind ((Runs.pure 0).bind (.pure _))

/-- The type of a keyword that names one alone. -/
theorem runs_keywordType (hk : (t.lexeme, type) ∈ keywordTypes) :
    Runs setting (keywordType rule false context [] t) ⟨t :: rest, names⟩ (TypeSpec.ofName type) ⟨rest, names⟩ := by
  have hinteger : ∀ {words : IntegerWords}, t.lexeme ∈ integerKeywords → IntegerWords.add {} t = pure words →
      words.typeName = type → Runs setting (keywordType rule false context [] t) ⟨t :: rest, names⟩
        (TypeSpec.ofName type) ⟨rest, names⟩ := by
    rintro words ht hadd rfl
    exact runs_integerKeyword h ht hadd
  simp only [keywordTypes, mem_cons, Prod.mk.injEq, not_mem_nil, or_false] at hk
  rcases hk with ⟨htext, rfl⟩ | ⟨htext, rfl⟩ | ⟨htext, rfl⟩ | ⟨htext, rfl⟩ | ⟨htext, rfl⟩ | ⟨htext, rfl⟩ |
    ⟨htext, rfl⟩ | ⟨htext, rfl⟩ | ⟨htext, rfl⟩ | ⟨htext, rfl⟩
  iterate 6 exact hinteger (by rw [htext]; decide) (by simp only [IntegerWords.add, htext]; rfl) rfl
  all_goals
    refine runs_advance.discard.bind ?_
    simp only [htext]
  iterate 2 exact (runs_skipComplex h).bind ((Runs.pure 0).bind (.pure _))
  iterate 2 exact (Runs.pure 0).bind (.pure _)

end Alone

/-- **A keyword that names a type alone specifies it.** -/
theorem specifies_keyword (hk : (keyword, type) ∈ keywordTypes)
    (ht : t.word = (.keyword, keyword)) : Specifies setting N [t] {} (TypeSpec.ofName type) := by
  obtain ⟨hkind, rfl⟩ := Prod.mk.inj ht
  have htable : ∀ p ∈ keywordTypes, (StorageClass.ofKeyword? p.1 = none ∧
      p.1 ∉ ["_Thread_local", "inline", "_Noreturn", "_Alignas"]) ∧
      qualifierKeywords.contains p.1 = false ∧ p.1 ≠ "_Atomic" := by decide
  obtain ⟨hspecs, hqualifier, hatomic⟩ := htable _ hk
  refine ⟨[], [t], rfl, fun {names rest d} _ hopens hd => ⟨runs_declSpecs_keyword hkind hspecs, ?_⟩⟩
  obtain ⟨e, rfl⟩ : ∃ e, d = e + 1 := ⟨d - 1, by rw [length_singleton] at hd; omega⟩
  have hname : t.kind ≠ .identifier := by rw [hkind]; decide
  have hq : isQualifier t = false := by rw [isQualifier, hqualifier, Bool.and_false]
  refine (runs_typeQualifiers_none hq hname).bind (runs_current.bind ?_)
  show Runs setting (if t.isKeyword "_Atomic" = true then _ else if t.kind = .identifier then _ else
    if t.kind = .keyword then _ else _) _ _ _
  rw [Token.isKeyword, beq_eq_false_iff_ne.mpr hatomic, Bool.and_false, if_neg hname, if_pos hkind]
  exact runs_keywordType hopens.1.not_keyword hk

/-! ## 4. How specifiers start -/

/-- The keywords that start a type. -/
def typeKeywords : List String :=
  ["typeof", "typeof_unqual", "__typeof__", "_Complex", "float", "double", "_Bool", "void", "enum", "struct",
    "union"] ++ integerKeywords

/-- No type starts with a punctuator or with a keyword that starts none. -/
theorem not_runs_typeSpec (hkind : t.kind = .punctuator ∨ t.kind = .keyword)
    (ht : t.kind = .keyword → t.lexeme ∉ "_Atomic" :: (qualifierKeywords ++ typeKeywords)) :
    ¬ Runs setting (typeSpec rule a context) ⟨t :: rest, names⟩ spec c := by
  intro h
  have hname : t.kind ≠ .identifier := by rcases hkind with hk | hk <;> rw [hk] <;> decide
  have hword : ∀ text ∈ "_Atomic" :: (qualifierKeywords ++ typeKeywords), t.isKeyword text = false := by
    intro text htext
    rw [Token.isKeyword, Bool.and_eq_false_iff, beq_eq_false_iff_ne, beq_eq_false_iff_ne]
    by_cases hk : t.kind = .keyword
    · exact .inr fun he => ht hk (he ▸ htext)
    · exact .inl hk
  have hq : isQualifier t = false := by
    rw [isQualifier, Bool.and_eq_false_iff, beq_eq_false_iff_ne]
    by_cases hk : t.kind = .keyword
    · refine .inr (Bool.eq_false_iff.mpr fun hc => ht hk ?_)
      exact mem_cons_of_mem _ (mem_append_left _ (contains_iff_mem.mp hc))
    · exact .inl hk
  replace h := runs_current.unbind ((runs_typeQualifiers_none hq hname).unbind h)
  change Runs setting (if t.isKeyword "_Atomic" = true then _ else if t.kind = .identifier then _ else
    if t.kind = .keyword then keywordType rule a context [] t else failAt t (.noType context t)) _ _ _ at h
  rw [hword _ mem_cons_self, if_neg Bool.false_ne_true, if_neg hname] at h
  split at h
  · rename_i hk
    have hne : ∀ text ∈ typeKeywords, t.lexeme ≠ text := fun text htext he =>
      ht hk (he ▸ mem_cons_of_mem _ (mem_append_right _ htext))
    replace h := runs_advance.discard.unbind h
    split at h
    iterate 11
      rename_i htext
      exact hne _ (by decide) htext
    rw [if_neg fun hc => hne _ (mem_append_right _ (contains_iff_mem.mp hc)) rfl] at h
    cases h
  · cases h

/-- The keywords that start something else than a declaration with specifiers. -/
def foreignKeywords : List String := "__extension__" :: "_Static_assert" :: statementKeywords

/-- Specifiers start with a token, and with none that starts something else. -/
theorem Specifies.head (h : Specifies setting N ts specs spec) (hN : N names) :
    ∃ t us, ts = t :: us ∧ ∀ keyword ∈ foreignKeywords, t.isKeyword keyword = false := by
  obtain ⟨us, vs, rfl, hread⟩ := h
  have hstar : Opens setting [⟨.punctuator, "*", 1, 1⟩] := ⟨.inl rfl, .inr (.inl rfl)⟩
  obtain ⟨hspecs, htype⟩ := hread hN hstar (Nat.le_succ _)
  have htable : ∀ keyword ∈ foreignKeywords, keyword ∉ "_Atomic" :: (qualifierKeywords ++ typeKeywords) ∧
      StorageClass.ofKeyword? keyword = none ∧
      keyword ∉ ["_Thread_local", "inline", "_Noreturn", "_Alignas"] := by decide
  cases hts : us ++ vs with
  | nil =>
    obtain ⟨-, rfl⟩ := append_eq_nil_iff.mp hts
    exact absurd htype (not_runs_typeSpec (.inl rfl) fun hkind => (nomatch hkind))
  | cons t ts =>
    refine ⟨t, ts, rfl, fun keyword hkeyword => Bool.eq_false_iff.mpr fun ht => ?_⟩
    obtain ⟨hkind, htext⟩ := Bool.and_eq_true_iff.mp ht
    rw [beq_iff_eq] at hkind
    obtain rfl := beq_iff_eq.mp htext
    obtain ⟨hnoType, hnoSpecs⟩ := htable _ hkeyword
    rw [hts] at hspecs
    have hsame := congrArg Cursor.rest (hspecs.unique (runs_declSpecs_keyword hkind hnoSpecs)).2
    rw [show vs ++ _ = _ from hsame] at htype
    exact not_runs_typeSpec (.inr hkind) (fun _ => hnoType) htype

end Words

end CCompiler.Grammar
