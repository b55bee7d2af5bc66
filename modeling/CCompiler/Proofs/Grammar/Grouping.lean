import CCompiler.Proofs.Grammar.Declarators

/-!
# Declarators that share their specifiers

The declarators of one declaration share its specifiers. The type specifier is read with the stars of the
first declarator, and each kind of declaration deals with these stars in its own way: record members and
old-style parameters hand them on to the later declarators, declarations of objects take every pointer at the
end of the specifier away again, and typedefs never read them with the specifier.

* `Item`, `Item.Reads` -- a declarator as it is written and what it is read as;
* `Place`, `Place.read` -- the kinds of declarations and what they declare;
* `Place.shared` -- what is left of the specifier for the later declarators;
* `declared_alone_iff` -- a later declarator declares what it declares alone exactly when nothing of the
  specifier is lost or added on the way.
-/
namespace CCompiler.Grammar

open List

variable {k : Nat} {mode : DeclaratorMode} {atFile : Bool} {β : Type} {comma semicolon : Token}

/-! ## 1. Declarators as they are written -/

/-- A declarator as it is written, the name it declares and the derivations of its direct declarator. -/
structure Item where
  stars : List Token
  direct : List Token
  depth : Nat
  name : String
  ops : List (DeclOp Unit)

namespace Item

/-- The tokens of a declarator. -/
def tokens (w : Item) : List Token := w.stars ++ w.direct

/-- The derivations of a declarator. -/
def derivations (w : Item) : List (DeclOp Unit) := w.ops ++ replicate w.depth .pointer

/-- A declarator starts with its stars, and no attribute stands in front of it. -/
structure Starts (setting : Setting) (w : Item) : Prop where
  stars : Stars w.stars w.depth
  opens : ∀ rest, Closes (setting.next rest) → Opens setting (w.direct ++ rest)
  notStar : ∀ rest, Closes (setting.next rest) → (setting.next (w.direct ++ rest)).isPunct "*" = false
  noAttribute : ∀ rest, Closes (setting.next rest) → NoAttribute setting (w.direct ++ rest)

/-- Behind its stars, a declarator is read as its name and its own derivations. -/
def Reads (setting : Setting) (N : Names → Prop) (d : Nat) (mode : DeclaratorMode) (w : Item) : Prop :=
  ∀ e names rest, d ≤ e → N names → Closes (setting.next rest) →
    Runs setting (directDeclarator (rulesWithin e) mode) ⟨w.direct ++ rest, names⟩ ⟨some w.name, w.ops, none⟩
      ⟨rest, names⟩

/-- A declarator of a typedef is read as its name and its derivations. -/
def ReadsType (setting : Setting) (N : Names → Prop) (d : Nat) (isAtomic : Bool) (w : Item) : Prop :=
  ∀ e names rest, d ≤ e → N names → Closes (setting.next rest) → ∃ leading top,
    Runs setting (rulesWithin (e + 1) (.qualifiedDeclarator false isAtomic)) ⟨w.tokens ++ rest, names⟩
      ⟨some w.name, w.derivations, leading, top⟩ ⟨rest, names⟩

end Item

variable {setting : Setting} {N : Names → Prop} {w : Item} {rest : List Token} {names : Names}

theorem Item.Starts.opens_tokens (h : w.Starts setting) (hrest : Closes (setting.next rest)) :
    Opens setting (w.tokens ++ rest) := by
  rw [Item.tokens, append_assoc]
  exact (h.opens rest hrest).of_stars h.stars

theorem NoAttribute.of_stars (h : Stars stars k)
    (hr : NoAttribute setting rest) : NoAttribute setting (stars ++ rest) := by
  cases h with
  | none => exact hr
  | @star t _ _ _ ht =>
    refine noAttribute_of_kind ?_
    show t.kind ≠ .identifier
    rw [Token.kind_of_isPunct ht]
    decide

theorem Item.Starts.noAttribute_tokens (h : w.Starts setting) (hrest : Closes (setting.next rest)) :
    NoAttribute setting (w.tokens ++ rest) := by
  rw [Item.tokens, append_assoc]
  exact (h.noAttribute rest hrest).of_stars h.stars

/-- What starts a declarator is no semicolon. -/
theorem Opens.not_semicolon (h : Opens setting rest) : (setting.next rest).isPunct ";" = false := by
  rcases h.2 with h | h | h
  · exact Token.isPunct_of_kind (by rw [h]; decide) _
  · exact Token.isPunct_ne h (by decide)
  · exact Token.isPunct_ne h (by decide)

section Reads

variable {d e : Nat} (h : w.Reads setting N d mode) (hw : w.Starts setting) (he : d ≤ e) (hN : N names)
  (hrest : Closes (setting.next rest))

include h hw he hN hrest

/-- A whole declarator is read as its name and its derivations. -/
theorem Item.Reads.runs : Runs setting (rulesWithin (e + 1) (.declarator mode)) ⟨w.tokens ++ rest, names⟩
      ⟨some w.name, w.derivations, none⟩ ⟨rest, names⟩ := by
  rw [Item.tokens, append_assoc]
  exact runs_declarator hw.stars (hw.opens rest hrest).1 (hw.notStar rest hrest) (h e names rest he hN hrest)

/-- Without its stars, a declarator is read as its name and the derivations of its direct declarator. -/
theorem Item.Reads.runs_direct : Runs setting (rulesWithin (e + 1) (.declarator mode)) ⟨w.direct ++ rest, names⟩
      ⟨some w.name, w.ops, none⟩ ⟨rest, names⟩ := by
  have hrun := runs_declarator .none (hw.opens rest hrest).1 (hw.notStar rest hrest) (h e names rest he hN hrest)
  rwa [Declarator.behind, replicate_zero, append_nil] at hrun

end Reads

/-! ## 2. What is left of the specifier -/

/-- The kinds of declarations with declarators. Objects and typedefs are declared in blocks and at file
    scope. -/
inductive Place where
  | member
  | oldStyle
  | object (atFile : Bool)
  | typedef (atFile : Bool)

/-- The derivations of the specifier that later declarators get, when the first declarator has so many
    stars. -/
def Place.shared (base : TypeSpec Unit) (k : Nat) : Place → List (DeclOp Unit)
  | .member | .oldStyle => replicate k .pointer ++ base.ops
  | .object _ => rdropWhile DeclOp.isPointer (replicate k .pointer ++ base.ops)
  | .typedef _ => base.ops

/-- Later declarators get the specifier unchanged. -/
def Place.Keeps (base : TypeSpec Unit) (k : Nat) : Place → Prop
  | .member | .oldStyle => k = 0
  | .object _ => base.ops = [] ∨ k = 0 ∧ ∀ op ∈ base.ops.getLast?, op.isPointer = false
  | .typedef _ => True

/-- The type with derivations over others instead of the specifier's own. -/
def typeOver (base : TypeSpec Unit) (inner ops : List (DeclOp Unit)) : TypeSpec Unit :=
  { base.renewed with ops := ops ++ inner }

theorem typeOver_eq_derive_iff {inner ops : List (DeclOp Unit)} :
    typeOver base inner ops = base.derive ops ↔ inner = base.ops := by
  constructor
  · intro h
    exact append_cancel_left (congrArg TypeSpec.ops h)
  · rintro rfl
    rfl

theorem rdropWhile_pointers (k : Nat) :
    (replicate k (DeclOp.pointer : DeclOp Unit)).rdropWhile DeclOp.isPointer = [] := by
  rw [rdropWhile_eq_nil_iff]
  intro op hop
  rw [eq_of_mem_replicate hop]
  rfl

/-- **Exactly when later declarators get the specifier unchanged.** -/
theorem Place.shared_eq_iff (place : Place) (base : TypeSpec Unit) (k : Nat) :
    place.shared base k = base.ops ↔ place.Keeps base k := by
  have hnone : replicate k .pointer ++ base.ops = base.ops ↔ k = 0 := by
    rw [append_left_eq_self, replicate_eq_nil_iff]
  cases place with
  | member | oldStyle => exact hnone
  | typedef => exact ⟨fun _ => trivial, fun _ => rfl⟩
  | object =>
    show rdropWhile _ _ = _ ↔ _ ∨ _
    by_cases hops : base.ops = []
    · rw [hops, append_nil, rdropWhile_pointers]
      exact ⟨fun _ => .inl rfl, fun _ => rfl⟩
    · have hlast : base.ops.getLast? = some (base.ops.getLast hops) := getLast?_eq_some_getLast hops
      by_cases hp : (base.ops.getLast hops).isPointer
      · constructor
        · intro h
          have hnot := rdropWhile_last_not DeclOp.isPointer (replicate k .pointer ++ base.ops) (by rw [h]; exact hops)
          simp only [h] at hnot
          exact absurd hp hnot
        · rintro (h | ⟨-, h⟩)
          · exact absurd h hops
          · exact absurd hp (Bool.eq_false_iff.mp (h _ hlast))
      · have hself : rdropWhile DeclOp.isPointer (replicate k .pointer ++ base.ops) =
            replicate k .pointer ++ base.ops := by
          rw [rdropWhile_eq_self_iff]
          intro hne
          rwa [getLast_append_of_right_ne_nil _ _ hops]
        rw [hself, hnone, or_iff_right hops]
        refine (and_iff_left ?_).symm
        intro op hop
        obtain rfl := Option.some.inj (hlast.symm.trans hop)
        exact Bool.eq_false_iff.mpr hp

/-- Pointers that were read with the specifier are taken away, and those of the specifier with them. -/
theorem Extends.withoutPointers {base longer : TypeSpec Unit} (h : Extends base k longer)
    (atFile : Bool) (ops : List (DeclOp Unit)) :
    longer.withoutPointers.derive ops = typeOver base ((Place.object atFile).shared base k) ops := by
  have hshared : (Place.object atFile).shared base k = rdropWhile DeclOp.isPointer longer.ops := by
    rw [h.ops]
    rfl
  rw [hshared]
  unfold TypeSpec.withoutPointers
  dsimp only
  split
  · rename_i hlen
    have hself : rdropWhile DeclOp.isPointer longer.ops = longer.ops :=
      (List.rdropWhile_prefix _ longer.ops).eq_of_length hlen
    rw [hself, h.derive, h.ops]
    unfold typeOver TypeSpec.derive
    rw [append_assoc]
  · unfold typeOver TypeSpec.derive TypeSpec.renewed
    rw [renewed_renewed, h.base, h.qualifiers, h.isAtomic, h.atomicTarget]
    rfl

/-! ## 3. One declarator -/

/-- What a kind of declaration asks of the type of a declarator. -/
def Place.Accepts (specs : DeclSpecs) (type : TypeSpec Unit) : Place → Prop
  | .member => (type.isFunction = true → specs.alignment = none) ∧ type.isVoidObject = false
  | .oldStyle | .typedef _ => True
  | .object _ => type.isVoidObject = false

/-- The names in scope stay among those considered when a kind of declaration declares a name. -/
def Place.Admits (N : Names → Prop) (name : String) : Place → Prop
  | .member | .oldStyle => True
  | .object _ => ∀ names type, N names → N (names.addObject name type)
  | .typedef _ => ∀ names type isQualified, N names → N (names.addTypedef name type isQualified)

/-- An action reads tokens in front of a comma or a semicolon and declares a name with a type. -/
def Declares {β : Type} (setting : Setting) (N : Names → Prop)
    (declared : β → Option (String × TypeSpec Unit)) (action : Parse β) (ts : List Token) (name : String)
    (type : TypeSpec Unit) : Prop :=
  ∀ names rest, N names → Closes (setting.next rest) → ∃ b names', declared b = some (name, type) ∧
    N names' ∧ Runs setting action ⟨ts ++ rest, names⟩ b ⟨rest, names'⟩

/-- The name and the type that a member has. -/
def declaredMember (m : MemberDecl Unit) : Option (String × TypeSpec Unit) := m.name.map (·, m.type)

/-- The name and the type that a statement declares. -/
def declaredBy : Stmt Unit → Option (String × TypeSpec Unit)
  | .declaration type name .. => name.map (·, type)
  | .typedef type name => some (name, type)
  | _ => none

section One

variable {rule : Rules} {specs : DeclSpecs} {base type : TypeSpec Unit} {ts : List Token} {name : String}
  {ops : List (DeclOp Unit)}

theorem declares_member (hd : ∀ names rest, N names → Closes (setting.next rest) →
      Runs setting (rule (.declarator { allowUnsized := true })) ⟨ts ++ rest, names⟩ ⟨some name, ops, none⟩
        ⟨rest, names⟩)
    (htype : base.derive ops = type) (ha : Place.member.Accepts specs type) :
    Declares setting N declaredMember (member rule specs base) ts name type := by
  intro names rest hN hrest
  subst htype
  refine ⟨⟨base.derive ops, some name, specs.alignment?, none⟩, names, rfl, hN, ?_⟩
  refine (hd names rest hN hrest).bind ?_
  refine (runs_acceptPunct_not (hrest.isPunct_eq_false (by decide))).bind ((Runs.pure none).bind ?_)
  simp only [Option.isNone_some, Bool.false_and, Bool.false_eq_true, if_false]
  by_cases hf : (base.derive ops).isFunction
  · rw [if_pos hf]
    refine (runs_rejectAlignment (ha.1 hf) _).bind ?_
    rw [ha.2]
    exact .pure _
  · rw [if_neg hf, ha.2]
    exact .pure _

theorem declares_oldStyle (hd : ∀ names rest, N names → Closes (setting.next rest) →
      Runs setting (rule (.declarator { allowAbstract := false })) ⟨ts ++ rest, names⟩ ⟨some name, ops, none⟩
        ⟨rest, names⟩)
    (htype : base.derive ops = type) :
    Declares setting N some (oldStyleDeclarator rule base) ts name type := by
  intro names rest hN hrest
  subst htype
  exact ⟨_, names, rfl, hN, (hd names rest hN hrest).bind (.pure _)⟩

theorem runs_skipDeclaratorExtensions (hrest : Closes (setting.next rest)) :
    Runs setting skipDeclaratorExtensions ⟨rest, names⟩ .unit ⟨rest, names⟩ := by
  have hkind : (setting.next rest).kind ≠ .identifier := by
    obtain ⟨text, -, h⟩ := hrest
    rw [show (setting.next rest).kind = .punctuator from congrArg Prod.fst h]
    decide
  have hasm : Runs setting skipAsmLabel ⟨rest, names⟩ false ⟨rest, names⟩ := by
    refine runs_current.bind ?_
    rw [beq_eq_false_iff_ne.mpr hkind]
    exact .pure _
  exact Runs.repeatStep (.refl _ _) ((noAttribute_of_kind hkind).runs_skipAttributes.bind (hasm.bind (.pure _)))

theorem declares_object (hattr : ∀ rest, Closes (setting.next rest) → NoAttribute setting (ts ++ rest))
    (hd : ∀ names rest, N names → Closes (setting.next rest) →
      Runs setting (rule (.declarator { allowAbstract := false, allowVariable := true })) ⟨ts ++ rest, names⟩
        ⟨some name, ops, none⟩ ⟨rest, names⟩)
    (htype : base.derive ops = type) (ha : (Place.object atFile).Accepts specs type)
    (hN' : (Place.object atFile).Admits N name) :
    Declares setting N declaredBy (objectDeclarator rule specs base) ts name type := by
  intro names rest hN hrest
  subst htype
  refine ⟨.declaration (base.derive ops) (some name) none specs.alignment? specs.storageClass?
    specs.isThreadLocal, names.addObject name (base.derive ops), rfl, hN' _ _ hN, ?_⟩
  refine (hattr rest hrest).runs_skipAttributes.discard.bind ((hd names rest hN hrest).bind ?_)
  dsimp only
  rw [show (base.derive ops).isVoidObject = false from ha]
  have hdeclare : Runs setting (modifyNames (·.addObject name (base.derive ops))) ⟨rest, names⟩ .unit
      ⟨rest, names.addObject name (base.derive ops)⟩ := rfl
  refine hdeclare.bind ((runs_skipDeclaratorExtensions hrest).bind ?_)
  refine (runs_acceptPunct_not (hrest.isPunct_eq_false (by decide))).bind ?_
  exact (Runs.pure none).bind (.pure _)

theorem declares_typedef (hattr : ∀ rest, Closes (setting.next rest) → NoAttribute setting (ts ++ rest))
    (hd : ∀ names rest, N names → Closes (setting.next rest) → ∃ leading top,
      Runs setting (rule (.qualifiedDeclarator false base.isAtomic)) ⟨ts ++ rest, names⟩
        ⟨some name, ops, leading, top⟩ ⟨rest, names⟩)
    (hN' : (Place.typedef atFile).Admits N name) :
    Declares setting N declaredBy (typedefDeclarator rule isQualified base) ts name (base.derive ops) := by
  intro names rest hN hrest
  obtain ⟨leading, top, hread⟩ := hd names rest hN hrest
  refine ⟨.typedef (base.derive ops) name, _, rfl,
    hN' names (base.derive ops) (isTopQualified isQualified ⟨some name, ops, leading, top⟩) hN, ?_⟩
  refine (hattr rest hrest).runs_skipAttributes.discard.bind (hread.bind ?_)
  exact (runs_atPunct (b := false) (hrest.isPunct_eq_false (by decide))).bind rfl

end One

/-! ## 4. Lists of declarators -/

/-- The tokens of further declarators, each behind a comma. -/
def furtherTokens (comma : Token) (items : List Item) : List Token :=
  items.flatMap fun w => comma :: w.tokens

variable {items : List Item} {declared : β → Option (String × TypeSpec Unit)} {c : Cursor} {stmt : Stmt Unit}

theorem closes_furtherTokens (hcomma : comma.word = punct ",") (hsemicolon : semicolon.word = punct ";") :
    Closes (setting.next (furtherTokens comma items ++ semicolon :: rest)) := by
  cases items with
  | nil => exact ⟨";", by decide, hsemicolon⟩
  | cons w items => exact ⟨",", by decide, hcomma⟩

/-- Further declarators are read one by one; each may declare its name before the next one is read. -/
theorem runs_further {type : Item → TypeSpec Unit} (hcomma : comma.word = punct ",")
    (hsemicolon : semicolon.word = punct ";")
    (haction : ∀ w ∈ items, Declares setting N declared action w.tokens w.name (type w)) (hN : N names)
    (rest : List Token) :
    ∃ (bs : List β) (names' : Names), bs.filterMap declared = items.map (fun w => (w.name, type w)) ∧
      N names' ∧ Runs setting (whileTrue (acceptPunct ",") action)
        ⟨furtherTokens comma items ++ semicolon :: rest, names⟩ bs ⟨semicolon :: rest, names'⟩ := by
  have hsteps : ∀ results, ∃ (bs : List β) (names' : Names),
      bs.filterMap declared = items.map (fun w => (w.name, type w)) ∧ N names' ∧ Steps setting (whileStep (acceptPunct ",") action) results
        ⟨furtherTokens comma items ++ semicolon :: rest, names⟩ (bs.reverse ++ results)
        ⟨semicolon :: rest, names'⟩ := by
    induction items generalizing names with
    | nil => exact fun results => ⟨[], names, rfl, hN, .refl _ _⟩
    | cons w items ih =>
      intro results
      have hrest : Closes (setting.next (furtherTokens comma items ++ semicolon :: rest)) :=
        closes_furtherTokens hcomma hsemicolon
      obtain ⟨b, names1, hb, hN1, hrun⟩ := haction w mem_cons_self names _ hN hrest
      obtain ⟨bs, names2, hbs, hN2, hmore⟩ :=
        ih (forall_mem_cons.mp haction).2 hN1 (b :: results)
      refine ⟨b :: bs, names2, ?_, hN2, .head (runs_whileStep ?_ hrun) ?_ ?_⟩
      · rw [filterMap_cons_some hb, hbs, map_cons]
      · rw [furtherTokens, flatMap_cons, cons_append, cons_append, append_assoc]
        exact runs_acceptPunct hcomma
      · simp only [furtherTokens, flatMap_cons, length_append, length_cons]
        omega
      · rw [reverse_cons, append_assoc]
        exact hmore
  obtain ⟨bs, names', hbs, hN', hmore⟩ := hsteps []
  have hstop : semicolon.isPunct "," = false := (Token.isPunct_punct hsemicolon _).trans rfl
  have hrun := Runs.whileTrue hmore (runs_acceptPunct_other hstop)
  rw [append_nil, reverse_reverse] at hrun
  exact ⟨bs, names', hbs, hN', hrun⟩

/-! ## 5. What declarations declare -/

/-- The names and types that a declaration declares. -/
def declaredNames : Stmt Unit → List (String × TypeSpec Unit)
  | .group stmts => stmts.filterMap declaredBy
  | stmt => (declaredBy stmt).toList

/-- The names and types that are declared at file scope. -/
def declaredAtFile : External Unit → List (String × TypeSpec Unit)
  | .declaration decl => declaredNames decl
  | .function f => [(f.name, f.returnType.derive [ParamList.op ⟨f.params, f.hasPrototype, f.isVariadic⟩])]

namespace Place

/-- The names and types that are declared, as each kind of declaration is read. -/
def read (rule : Rules) : Place → Parse (List (String × TypeSpec Unit))
  | .member => List.filterMap declaredMember <$> memberDeclaration rule
  | .oldStyle => oldStyleDeclaration rule
  | .object false | .typedef false => declaredNames <$> rule .declaration
  | .object true | .typedef true => declaredAtFile <$> external rule

/-- What a kind of declaration asks of the declaration specifiers. -/
def Fits (specs : DeclSpecs) : Place → Prop
  | .member => specs.storage = none ∧ specs.foreign? = none
  | .oldStyle => True
  | .object _ => specs.isTypedef = false
  | .typedef _ => specs.isTypedef = true ∧ specs.alignment = none ∧ specs.foreign? = none

/-- A declarator is read as a kind of declaration reads it. -/
def Reads (setting : Setting) (N : Names → Prop) (d : Nat) (base : TypeSpec Unit) (w : Item) : Place → Prop
  | .member => w.Reads setting N d { allowUnsized := true }
  | .oldStyle => w.Reads setting N d { allowAbstract := false }
  | .object _ => w.Reads setting N d { allowAbstract := false, allowVariable := true }
  | .typedef _ => w.ReadsType setting N d base.isAtomic

/-- A kind of declaration takes a declarator, behind specifiers. -/
structure Takes (setting : Setting) (N : Names → Prop) (d : Nat) (specs : DeclSpecs) (base : TypeSpec Unit)
    (place : Place) (w : Item) : Prop where
  starts : w.Starts setting
  reads : place.Reads setting N d base w
  admits : place.Admits N w.name
  accepts : place.Accepts specs (base.derive w.derivations)

end Place

/-- A declaration as it is written: the tokens of its specifiers with what they say, and its declarators. -/
structure Written where
  specifiers : List Token
  specs : DeclSpecs
  base : TypeSpec Unit
  first : Item
  more : List Item
  comma : Token
  semicolon : Token

namespace Written

/-- The tokens behind the first declarator. -/
def behind (D : Written) (rest : List Token) : List Token :=
  furtherTokens D.comma D.more ++ D.semicolon :: rest

/-- The tokens of a declaration. -/
def tokens (D : Written) (rest : List Token) : List Token :=
  D.specifiers ++ (D.first.tokens ++ D.behind rest)

/-- The declaration of one declarator alone, with the same specifiers. -/
def alone (D : Written) (w : Item) : Written := { D with first := w, more := [] }

end Written

/-- The names and types that are declared. -/
def Place.declares (place : Place) (D : Written) : List (String × TypeSpec Unit) :=
  (D.first.name, D.base.derive D.first.derivations) ::
    D.more.map fun w => (w.name, typeOver D.base (place.shared D.base D.first.depth) w.derivations)

/-- What is written is a declaration of some kind. -/
structure Place.Forms (setting : Setting) (N : Names → Prop) (d : Nat) (D : Written) (place : Place) :
    Prop where
  specifies : Specifies setting N D.specifiers D.specs D.base
  fits : place.Fits D.specs
  takes : ∀ w ∈ D.first :: D.more, place.Takes setting N d D.specs D.base w
  accepts : ∀ w ∈ D.more, place.Accepts D.specs (typeOver D.base (place.shared D.base D.first.depth) w.derivations)
  isComma : D.comma.word = punct ","
  isSemicolon : D.semicolon.word = punct ";"

section Groups

variable {D : Written} {longer : TypeSpec Unit} {d e : Nat} {place : Place}

theorem Extends.typeOver {base : TypeSpec Unit} (h : Extends base k longer) (ops : List (DeclOp Unit)) :
    longer.derive ops = typeOver base (replicate k .pointer ++ base.ops) ops := by
  rw [h.derive]
  unfold Grammar.typeOver TypeSpec.derive
  rw [append_assoc]

theorem runs_separated (h : Runs setting action c b c1)
    (hmore : Runs setting (whileTrue (acceptPunct ",") action) c1 bs c2) :
    Runs setting (separated action) c (b :: bs) c2 :=
  h.bind (hmore.bind (.pure (b :: bs)))

theorem runs_baseIsQualified (setting : Setting) (ts us : List Token) (names : Names) : ∃ isQualified,
    Runs setting (baseIsQualified true) ⟨ts ++ us, names⟩ isQualified ⟨ts ++ us, names⟩ := ⟨_, rfl⟩

theorem runs_declareEnumerators (setting : Setting) (type : TypeSpec Unit) (ts : List Token) (names : Names) :
    ∃ names', Runs setting (declareEnumerators type) ⟨ts, names⟩ .unit ⟨ts, names'⟩ := ⟨_, rfl⟩

/-- What is declared by one declarator or by a group. -/
theorem declaredNames_group (h : (declaredBy stmt).isSome) :
    declaredNames (if stmts.isEmpty then stmt else .group (stmt :: stmts)) =
      (stmt :: stmts).filterMap declaredBy := by
  obtain ⟨declared, hdeclared⟩ := Option.isSome_iff_exists.mp h
  cases stmts with
  | nil =>
    rw [isEmpty_nil, if_pos rfl, filterMap_cons_some hdeclared, declaredNames.eq_def]
    split
    · exact (nomatch hdeclared)
    · rw [hdeclared]
      rfl
  | cons _ _ => rfl

section Forms

variable (h : place.Forms setting N d D)

include h

theorem Place.Forms.runs_semicolon :
    Runs setting (expectPunct ";") ⟨D.semicolon :: rest, names⟩ () ⟨rest, names⟩ :=
  runs_expectPunct h.isSemicolon

variable (rest)

theorem Place.Forms.closes : Closes (setting.next (D.behind rest)) :=
  closes_furtherTokens h.isComma h.isSemicolon

variable (hN : N names)

include hN

/-- The specifiers of a declaration, with the stars of its first declarator. -/
theorem Place.Forms.runs_specifiers (hlen : 16 * D.specifiers.length ≤ e + 1) :
    ∃ vs longer, Extends D.base D.first.depth longer ∧
      Runs setting (declSpecs (rulesWithin (e + 1))) ⟨D.tokens rest, names⟩ D.specs
        ⟨vs ++ (D.first.tokens ++ D.behind rest), names⟩ ∧
      Runs setting (rulesWithin (e + 1) (.typeSpec true .declaration))
        ⟨vs ++ (D.first.tokens ++ D.behind rest), names⟩ longer ⟨D.first.direct ++ D.behind rest, names⟩ := by
  have hfirst := (h.takes D.first mem_cons_self).starts
  have hclose := h.closes rest
  rw [Written.tokens, Item.tokens, append_assoc]
  exact h.specifies.runs hN hfirst.stars (hfirst.opens _ hclose) (hfirst.notStar _ hclose) hlen

/-- The declarators of a declaration are read one by one: the first with what the specifiers say, the later
    ones with what is left of it. -/
theorem Place.Forms.runs_items (hone : Declares setting N declared one ts D.first.name (D.base.derive D.first.derivations))
    (hlater : ∀ w ∈ D.more, Declares setting N declared later w.tokens w.name
      (typeOver D.base (place.shared D.base D.first.depth) w.derivations)) :
    ∃ b bs names1 names2, (declared b).isSome ∧ (b :: bs).filterMap declared = place.declares D ∧
      Runs setting one ⟨ts ++ D.behind rest, names⟩ b ⟨D.behind rest, names1⟩ ∧
      Runs setting (whileTrue (acceptPunct ",") later) ⟨D.behind rest, names1⟩ bs
        ⟨D.semicolon :: rest, names2⟩ := by
  obtain ⟨b, names1, hb, hN1, hfirst⟩ := hone names (D.behind rest) hN (h.closes rest)
  obtain ⟨bs, names2, hbs, -, hmore⟩ := runs_further h.isComma h.isSemicolon hlater hN1 rest
  refine ⟨b, bs, names1, names2, ?_, ?_, hfirst, hmore⟩
  · rw [hb]
    rfl
  · rw [filterMap_cons_some hb, hbs]
    rfl

/-- Declarators of one mode, the first of them without the stars that are read with the specifier. -/
theorem Place.Forms.runs_direct_items {action : TypeSpec Unit → Parse β} (hd : d ≤ e)
    (hext : Extends D.base D.first.depth longer) (hreads : ∀ w ∈ D.first :: D.more, w.Reads setting N d mode)
    (hleft : ∀ ops, left.derive ops = Grammar.typeOver D.base (place.shared D.base D.first.depth) ops)
    (haction : ∀ {w ts ops base type}, w ∈ D.first :: D.more →
      (∀ rest, Closes (setting.next rest) → NoAttribute setting (ts ++ rest)) →
      (∀ names rest, N names → Closes (setting.next rest) →
        Runs setting (rulesWithin (e + 1) (.declarator mode)) ⟨ts ++ rest, names⟩ ⟨some w.name, ops, none⟩
          ⟨rest, names⟩) →
      base.derive ops = type → place.Accepts D.specs type →
      Declares setting N declared (action base) ts w.name type) :
    ∃ b bs names1 names2, (declared b).isSome ∧ (b :: bs).filterMap declared = place.declares D ∧
      Runs setting (action longer) ⟨D.first.direct ++ D.behind rest, names⟩ b ⟨D.behind rest, names1⟩ ∧
      Runs setting (whileTrue (acceptPunct ",") (action left)) ⟨D.behind rest, names1⟩ bs
        ⟨D.semicolon :: rest, names2⟩ := by
  have hmem : D.first ∈ D.first :: D.more := mem_cons_self
  have hfirst := h.takes D.first hmem
  refine h.runs_items rest hN ?_ fun w hw => ?_
  · exact haction hmem hfirst.starts.noAttribute
      (fun _ _ => (hreads _ hmem).runs_direct hfirst.starts hd) (hext.derive D.first.ops) hfirst.accepts
  · have hmem := mem_cons_of_mem D.first hw
    have hstarts := (h.takes w hmem).starts
    exact haction hmem (fun _ => hstarts.noAttribute_tokens) (fun _ _ => (hreads w hmem).runs hstarts hd)
      (hleft w.derivations) (h.accepts w hw)

/-- No marker and no assertion stands in front of a declaration with specifiers. -/
theorem Place.Forms.runs_head : Runs setting skipMarkers ⟨D.tokens rest, names⟩ .unit ⟨D.tokens rest, names⟩ ∧
      (setting.next (D.tokens rest)).isKeyword "_Static_assert" = false := by
  obtain ⟨t, us, hts, hkeywords⟩ := h.specifies.head hN
  rw [Written.tokens, hts]
  exact ⟨.discard (.whileTrue (.refl _ _) (runs_atKeyword (hkeywords _ (by decide)))), hkeywords _ (by decide)⟩

/-- A declaration at file scope that is not taken for one of a function is read like one in a block. -/
theorem Place.Forms.runs_external
    (hfile : Runs setting (looksLikeFunction (rulesWithin (e + 2))) ⟨D.tokens rest, names⟩ false
      ⟨D.tokens rest, names⟩)
    (hstmt : Runs setting (rulesWithin (e + 2) .declaration) ⟨D.tokens rest, names⟩ stmt c) :
    Runs setting (external (rulesWithin (e + 2))) ⟨D.tokens rest, names⟩ (.declaration stmt) c := by
  obtain ⟨t, us, hts, hkeywords⟩ := h.specifies.head hN
  have hnext : setting.next (D.tokens rest) = t := by
    rw [Written.tokens, hts]
    rfl
  have hstatement : (decide (t.kind = .keyword) && statementKeywords.contains t.lexeme) = false := by
    rw [Bool.eq_false_iff]
    intro hboth
    obtain ⟨hkind, hlexeme⟩ := Bool.and_eq_true_iff.mp hboth
    have hmem : t.lexeme ∈ foreignKeywords :=
      mem_cons_of_mem _ (mem_cons_of_mem _ (contains_iff_mem.mp hlexeme))
    have hself : t.isKeyword t.lexeme := by
      rw [Token.isKeyword, of_decide_eq_true hkind, beq_self_eq_true, beq_self_eq_true]
      rfl
    exact absurd (hself.symm.trans (hkeywords _ hmem)) (by decide)
  refine runs_current.bind ?_
  rw [hnext, hkeywords "_Static_assert" (by decide)]
  refine hfile.bind ?_
  rw [hstatement]
  exact hstmt.bind (.pure _)

end Forms

section Runs

variable (rest) (hN : N names) (hd : d ≤ e) (hlen : 16 * D.specifiers.length ≤ e + 1)

include hN hd hlen

theorem runs_member_group (h : Place.member.Forms setting N d D) :
    ∃ names', Runs setting (Place.member.read (rulesWithin (e + 1))) ⟨D.tokens rest, names⟩
      (Place.member.declares D) ⟨rest, names'⟩ := by
  obtain ⟨vs, longer, hext, hspecs, htype⟩ := h.runs_specifiers rest hN hlen
  obtain ⟨m, members, names1, names2, -, hall, hm, hmembers⟩ := h.runs_direct_items rest hN hd hext
    (fun w hw => (h.takes w hw).reads) hext.typeOver fun _ _ => declares_member
  have hsemicolon := ((h.takes D.first mem_cons_self).starts.opens _ (h.closes rest)).not_semicolon
  refine ⟨names2, ?_⟩
  rw [← hall]
  refine Runs.map _ (hspecs.bind ?_)
  rw [h.fits.1]
  refine (runs_rejectForeign h.fits.2 _).bind (htype.bind ((runs_atPunct hsemicolon).bind ?_))
  exact (runs_separated hm hmembers).bind (h.runs_semicolon.bind (.pure _))

theorem runs_oldStyle_group (h : Place.oldStyle.Forms setting N d D) :
    ∃ names', Runs setting (Place.oldStyle.read (rulesWithin (e + 1))) ⟨D.tokens rest, names⟩
      (Place.oldStyle.declares D) ⟨rest, names'⟩ := by
  obtain ⟨vs, longer, hext, hspecs, htype⟩ := h.runs_specifiers rest hN hlen
  obtain ⟨m, members, names1, names2, -, hall, hm, hmembers⟩ := h.runs_direct_items rest hN hd hext
    (fun w hw => (h.takes w hw).reads) hext.typeOver fun _ _ hd htype _ => declares_oldStyle hd htype
  rw [filterMap_some] at hall
  refine ⟨names2, ?_⟩
  rw [← hall]
  refine hspecs.discard.bind (htype.bind ?_)
  exact (runs_separated hm hmembers).bind (h.runs_semicolon.bind (.pure _))

/-- Declarations of objects. -/
theorem runs_object_declaration (h : (Place.object atFile).Forms setting N d D) :
    ∃ stmt names', declaredNames stmt = (Place.object atFile).declares D ∧
      Runs setting (rulesWithin (e + 2) .declaration) ⟨D.tokens rest, names⟩ stmt ⟨rest, names'⟩ := by
  obtain ⟨vs, longer, hext, hspecs, htype⟩ := h.runs_specifiers rest hN hlen
  have hstarts := (h.takes D.first mem_cons_self).starts
  obtain ⟨stmt, stmts, names1, names2, hsome, hall, hstmt, hstmts⟩ := h.runs_direct_items rest hN hd hext
    (fun w hw => (h.takes w hw).reads) (hext.withoutPointers atFile)
    fun hw hattr hd htype ha => declares_object hattr hd htype ha (h.takes _ hw).admits
  obtain ⟨hmarkers, hassert⟩ := h.runs_head rest hN
  obtain ⟨isQualified, hqualified⟩ := runs_baseIsQualified setting vs _ names
  obtain ⟨names3, henum⟩ := runs_declareEnumerators setting longer rest names2
  have hsemicolon := (hstarts.opens _ (h.closes rest)).not_semicolon
  have hattr := hstarts.noAttribute _ (h.closes rest)
  refine ⟨_, names3, (declaredNames_group hsome).trans hall, ?_⟩
  refine hmarkers.bind ((runs_atKeyword hassert).bind (hspecs.bind ?_))
  rw [show D.specs.isTypedef = false from h.fits]
  refine hqualified.bind (htype.bind (hattr.runs_skipAttributes.discard.bind ((runs_atPunct hsemicolon).bind ?_)))
  exact hstmt.bind (hstmts.bind (h.runs_semicolon.bind (henum.bind (.pure _))))

/-- Declarations of types. -/
theorem runs_typedef_declaration (h : (Place.typedef atFile).Forms setting N d D) :
    ∃ stmt names', declaredNames stmt = (Place.typedef atFile).declares D ∧
      Runs setting (rulesWithin (e + 2) .declaration) ⟨D.tokens rest, names⟩ stmt ⟨rest, names'⟩ := by
  have hstarts : ∀ w ∈ D.first :: D.more, w.Starts setting := fun w hw => (h.takes w hw).starts
  have hopens : Opens setting (D.first.tokens ++ D.behind rest) :=
    (hstarts _ mem_cons_self).opens_tokens (h.closes rest)
  have hattr : NoAttribute setting (D.first.tokens ++ D.behind rest) :=
    (hstarts _ mem_cons_self).noAttribute_tokens (h.closes rest)
  obtain ⟨vs, hspecs, htype⟩ : ∃ vs, Runs setting (declSpecs (rulesWithin (e + 1))) ⟨D.tokens rest, names⟩ D.specs
        ⟨vs ++ (D.first.tokens ++ D.behind rest), names⟩ ∧
      Runs setting (rulesWithin (e + 1) (.typeSpec false .declaration))
        ⟨vs ++ (D.first.tokens ++ D.behind rest), names⟩ D.base ⟨D.first.tokens ++ D.behind rest, names⟩ := by
    obtain ⟨us, vs, hts, hread⟩ := h.specifies
    exact ⟨vs, hread hN hopens hlen⟩
  obtain ⟨isQualified, hqualified⟩ := runs_baseIsQualified setting vs _ names
  have hall : ∀ w ∈ D.first :: D.more, Declares setting N declaredBy
      (typedefDeclarator (rulesWithin (e + 1)) isQualified D.base) w.tokens w.name
      (D.base.derive w.derivations) := by
    intro w hw
    have hreads : w.ReadsType setting N d D.base.isAtomic := (h.takes w hw).reads
    exact declares_typedef (fun _ => (hstarts w hw).noAttribute_tokens)
      (fun names rest hN hrest => hreads e names rest hd hN hrest) (h.takes w hw).admits
  obtain ⟨stmt, stmts, names1, names2, hsome, hdeclared, hstmt, hstmts⟩ :=
    h.runs_items rest hN (hall _ mem_cons_self) (forall_mem_cons.mp hall).2
  obtain ⟨hmarkers, hassert⟩ := h.runs_head rest hN
  obtain ⟨names3, henum⟩ := runs_declareEnumerators setting D.base rest names2
  obtain ⟨htypedef, halignment, hforeign⟩ := h.fits
  refine ⟨_, names3, (declaredNames_group hsome).trans hdeclared, ?_⟩
  refine hmarkers.bind ((runs_atKeyword hassert).bind (hspecs.bind ?_))
  rw [htypedef]
  refine (runs_rejectAlignment halignment _).bind ((runs_rejectForeign hforeign _).bind ?_)
  refine hqualified.bind (htype.bind (hattr.runs_skipAttributes.discard.bind ?_))
  refine (runs_atPunct hopens.not_semicolon).bind ?_
  exact hstmt.bind (hstmts.bind (h.runs_semicolon.bind (henum.bind (.pure _))))

/-! ## 6. Declarators in a group and alone -/

/-- Whether a declaration stands at file scope. -/
def Place.isAtFile : Place → Bool
  | .member | .oldStyle => false
  | .object atFile | .typedef atFile => atFile

/-- **A declaration declares its names, the first with the type it has alone, the later ones over what is left
    of the specifier.** -/
theorem Place.Forms.runs (h : place.Forms setting N d D)
    (hfile : place.isAtFile → Runs setting (looksLikeFunction (rulesWithin (e + 2)))
      ⟨D.tokens rest, names⟩ false ⟨D.tokens rest, names⟩) :
    ∃ names', Runs setting (place.read (rulesWithin (e + 2))) ⟨D.tokens rest, names⟩ (place.declares D)
      ⟨rest, names'⟩ := by
  cases place with
  | member => exact runs_member_group rest hN (by omega) (by omega) h
  | oldStyle => exact runs_oldStyle_group rest hN (by omega) (by omega) h
  | object atFile =>
    obtain ⟨stmt, names', hdeclared, hrun⟩ := runs_object_declaration rest hN hd hlen h
    refine ⟨names', ?_⟩
    rw [← hdeclared]
    cases atFile with
    | false => exact hrun.map _
    | true => exact (h.runs_external rest hN (hfile rfl) hrun).map declaredAtFile
  | typedef atFile =>
    obtain ⟨stmt, names', hdeclared, hrun⟩ := runs_typedef_declaration rest hN hd hlen h
    refine ⟨names', ?_⟩
    rw [← hdeclared]
    cases atFile with
    | false => exact hrun.map _
    | true => exact (h.runs_external rest hN (hfile rfl) hrun).map declaredAtFile

end Runs

/-- A declarator of a declaration declares alone what it would declare as the first one. -/
theorem Place.Forms.alone (h : place.Forms setting N d D) (hw : w ∈ D.first :: D.more) :
    place.Forms setting N d (D.alone w) where
  specifies := h.specifies
  fits := h.fits
  takes v hv := by
    obtain rfl := mem_singleton.mp hv
    exact h.takes _ hw
  accepts _ hv := (nomatch hv)
  isComma := h.isComma
  isSemicolon := h.isSemicolon

/-- The first declarator gets its own type, and a later one exactly when the specifier is kept. -/
theorem Place.getElem?_declares (hw : (D.first :: D.more)[i]? = some w) :
    ∃ type, (place.declares D)[i]? = some (w.name, type) ∧
      (type = D.base.derive w.derivations ↔ i = 0 ∨ place.Keeps D.base D.first.depth) := by
  cases i with
  | zero =>
    obtain rfl := Option.some.inj hw
    exact ⟨_, rfl, fun _ => .inl rfl, fun _ => rfl⟩
  | succ i =>
    rw [getElem?_cons_succ] at hw
    refine ⟨typeOver D.base (place.shared D.base D.first.depth) w.derivations, ?_, ?_⟩
    · rw [Place.declares, getElem?_cons_succ, getElem?_map, hw]
      rfl
    · rw [typeOver_eq_derive_iff, place.shared_eq_iff]
      exact ⟨.inr, fun hor => hor.resolve_left (Nat.succ_ne_zero i)⟩

/-- **A declarator gets the same type in a declaration of several as alone exactly when it is the first one
    or the later ones get the specifier unchanged.** Declarations at file scope must not be taken for
    declarations of functions. -/
theorem declared_alone_iff (h : place.Forms setting N d D) (hN : N names) (hd : d ≤ e)
    (hlen : 16 * D.specifiers.length ≤ e + 1) (rest : List Token)
    (hfile : place.isAtFile = true → ∀ E ∈ D :: (D.first :: D.more).map D.alone,
      Runs setting (looksLikeFunction (rulesWithin (e + 2))) ⟨E.tokens rest, names⟩ false ⟨E.tokens rest, names⟩) :
    ∃ declared names', Runs setting (place.read (rulesWithin (e + 2))) ⟨D.tokens rest, names⟩ declared
        ⟨rest, names'⟩ ∧
      declared.length = D.more.length + 1 ∧
      ∀ (i : Nat) (w : Item), (D.first :: D.more)[i]? = some w → ∃ type alone names₁,
        declared[i]? = some (w.name, type) ∧
        Runs setting (place.read (rulesWithin (e + 2))) ⟨(D.alone w).tokens rest, names⟩ [(w.name, alone)]
          ⟨rest, names₁⟩ ∧
        (type = alone ↔ i = 0 ∨ place.Keeps D.base D.first.depth) := by
  obtain ⟨names', hrun⟩ := h.runs rest hN hd hlen fun hscope => hfile hscope D List.mem_cons_self
  refine ⟨place.declares D, names', hrun, ?_, fun i w hw => ?_⟩
  · rw [Place.declares, List.length_cons, List.length_map]
  · have hmem : w ∈ D.first :: D.more := List.mem_of_getElem? hw
    obtain ⟨type, htype, hiff⟩ := place.getElem?_declares hw
    obtain ⟨names₁, halone⟩ := (h.alone hmem).runs (D := D.alone w) rest hN hd hlen fun hscope =>
      hfile hscope _ (List.mem_cons_of_mem _ (List.mem_map_of_mem hmem))
    exact ⟨type, _, names₁, htype, halone, hiff⟩

end Groups

/-! ## 7. Names behind stars -/

/-- A name with so many stars in front of it. -/
def Item.named (k : Nat) (name : String) : Item where
  stars := replicate k (tokenOf (punct "*"))
  direct := [tokenOf (.identifier, name)]
  depth := k
  name := name
  ops := []

theorem Item.starts_named (k : Nat) {name : String} (hname : name ∉ overreadWords)
    (hattr : name ≠ "__attribute__") : (Item.named k name).Starts setting := by
  have hopening : OpeningWords name (([tokenOf (.identifier, name)]).map Token.word) :=
    .inr ⟨rfl, hname, fun _ h => (nomatch h)⟩
  refine ⟨stars_of_words ?_, fun rest hrest => (hopening.opens hrest).1,
    fun rest hrest => (hopening.opens hrest).2, fun rest hrest => ⟨?_, ?_⟩⟩
  · rw [Item.named, map_replicate]
    rfl
  · show (_ && name == "__attribute__" && _ && _) = false
    rw [beq_eq_false_iff_ne.mpr hattr]
    rfl
  · exact (hopening.opens hrest).1.1.not_startsDeclspec

theorem Item.reads_named (k : Nat) {name : String} (hmode : mode.capture = false) :
    (Item.named k name).Reads setting N 16 mode := by
  intro e names rest he hN hrest
  have hdirect : Direct setting N [(.identifier, name)] name [] := direct_name
  exact hdirect.runs hmode hN (by rw [length_singleton]; omega) rfl hrest

/-- The declaration `int *a, b;`. -/
def pointerThenInt : Written where
  specifiers := [tokenOf (.keyword, "int")]
  specs := {}
  base := TypeSpec.ofName "int"
  first := .named 1 "a"
  more := [.named 0 "b"]
  comma := tokenOf (punct ",")
  semicolon := tokenOf (punct ";")

/-- In a block, `int *a, b;` declares `b` as `int b;` does. -/
theorem object_declared_alone : ∃ declared names' alone names₁,
      Runs ⟨.c11, tokenOf (.endOfFile, "")⟩ ((Place.object false).read (rulesWithin 18))
        ⟨pointerThenInt.tokens [], Names.initial⟩ declared ⟨[], names'⟩ ∧
      Runs ⟨.c11, tokenOf (.endOfFile, "")⟩ ((Place.object false).read (rulesWithin 18))
        ⟨(pointerThenInt.alone (.named 0 "b")).tokens [], Names.initial⟩ [("b", alone)] ⟨[], names₁⟩ ∧
      declared[1]? = some ("b", alone) := by
  have htakes : ∀ w ∈ [Item.named 1 "a", .named 0 "b"], (Place.object false).Takes
      ⟨.c11, tokenOf (.endOfFile, "")⟩ (fun _ => True) 16 {} (TypeSpec.ofName "int") w := by
    refine List.forall_mem_cons.mpr ⟨?_, List.forall_mem_singleton.mpr ?_⟩
    · exact ⟨Item.starts_named 1 (by decide) (by decide), Item.reads_named 1 rfl, fun _ _ _ => trivial, rfl⟩
    · exact ⟨Item.starts_named 0 (by decide) (by decide), Item.reads_named 0 rfl, fun _ _ _ => trivial, rfl⟩
  have hforms : (Place.object false).Forms ⟨.c11, tokenOf (.endOfFile, "")⟩ (fun _ => True) 16
      pointerThenInt :=
    ⟨specifies_keyword (by decide) rfl, rfl, htakes, List.forall_mem_singleton.mpr rfl, rfl, rfl⟩
  have hnames : (fun _ : Names => True) Names.initial := trivial
  obtain ⟨declared, names', hrun, -, hall⟩ := declared_alone_iff hforms hnames (Nat.le_refl 16) (by decide) []
    fun h => (nomatch h)
  obtain ⟨type, alone, names₁, htype, halone, hiff⟩ := hall 1 (.named 0 "b") rfl
  obtain rfl : type = alone := hiff.mpr (.inr (.inl rfl))
  exact ⟨declared, names', type, names₁, hrun, halone, htype⟩

/-! ## 8. Where it fails -/

/-- The type `int` and the type of pointers to `int`. -/
def intType (k : Nat) : TypeSpec Unit := { TypeSpec.ofName "int" with ops := replicate k .pointer }

/-- The names in scope behind `typedef int *P;`. -/
def pointerNames : Names := Names.initial.addTypedef "P" (intType 1) false

/-- **A later declarator can get another type than alone**: `int *a, b;` declares two pointers among the
    members of a record and the parameters of an old-style function, and with `typedef int *P;` the
    declaration `P a, b;` makes `b` an `int`, in a block and at file scope. -/
theorem later_declarators_differ : (∀ place ∈ [Place.member, .oldStyle], ∃ names',
      Runs ⟨.c11, tokenOf (.endOfFile, "")⟩ (place.read (rulesWithin 18))
        ⟨[(.keyword, "int"), punct "*", (.identifier, "a"), punct ",", (.identifier, "b"),
          punct ";"].map tokenOf, Names.initial⟩ [("a", intType 1), ("b", intType 1)] ⟨[], names'⟩ ∧
      Runs ⟨.c11, tokenOf (.endOfFile, "")⟩ (place.read (rulesWithin 18))
        ⟨[(.keyword, "int"), (.identifier, "b"), punct ";"].map tokenOf, Names.initial⟩ [("b", intType 0)]
        ⟨[], names'⟩) ∧
    ∀ place ∈ [Place.object false, .object true], ∃ names₁ names₂,
      Runs ⟨.c11, tokenOf (.endOfFile, "")⟩ (place.read (rulesWithin 18))
        ⟨[(.identifier, "P"), (.identifier, "a"), punct ",", (.identifier, "b"), punct ";"].map tokenOf,
          pointerNames⟩ [("a", intType 1), ("b", intType 0)] ⟨[], names₁⟩ ∧
      Runs ⟨.c11, tokenOf (.endOfFile, "")⟩ (place.read (rulesWithin 18))
        ⟨[(.identifier, "P"), (.identifier, "b"), punct ";"].map tokenOf, pointerNames⟩ [("b", intType 1)]
        ⟨[], names₂⟩ := by
  refine ⟨List.forall_mem_cons.mpr ⟨⟨_, rfl, rfl⟩, List.forall_mem_singleton.mpr ⟨_, rfl, rfl⟩⟩, ?_⟩
  exact List.forall_mem_cons.mpr ⟨⟨_, _, rfl, rfl⟩, List.forall_mem_singleton.mpr ⟨_, _, rfl, rfl⟩⟩

end CCompiler.Grammar
