import CCompiler.Proofs.Grammar.Printing

/-!
# The parser reads expressions as they are written

For every level there is a parser, and each is made of the next stronger one. The words of an expression at a
place of some level are read by the parser of that level, which stops behind them.

* `levelParser` -- the parser of a level;
* `ReadsWithin`, `ChainWithin` -- what the parser of a level makes of words, as a whole and as the left part
  of a longer chain;
* `Readable` -- an expression is read as it is written;
* `Expressible.readable` -- all of them are.
-/
namespace CCompiler.Grammar

open List
open Expr (words wordsAt_of_lt wordsAt_of_le)

variable {setting : Setting} {names : Names}

/-! ## 1. Chains -/

/-- The parser of a level. -/
def levelParser (rule : Rules) : Nat → Parse (Expr Unit)
  | 0 => rule .expression
  | 1 => rule .assignment
  | 2 => rule .conditional
  | 14 => postfixExpression rule
  | 15 => primary rule
  | k + 3 => binaryExpression (rule .unary) (binaryLevels.drop k)

/-- How much of the depth between two tokens the parser of a level has used already. -/
def gap : Nat → Nat
  | 0 => 0
  | 1 => 1
  | 2 => 2
  | 14 | 15 => 4
  | _ => 3

/-- The parser of a level, with rules of some depth, reads words as an expression and stops behind them. -/
def ReadsWithin (setting : Setting) (names : Names) (d k : Nat) (ws : List Word) (e : Expr Unit) : Prop :=
  ∀ ts rest, ts.map Token.word = ws → Stops k (setting.next rest) →
    Runs setting (levelParser (rulesWithin d) k) ⟨ts ++ rest, names⟩ e ⟨rest, names⟩

/-- One more operand of a comma expression. -/
def commaStep (rule : Rules) (left : Expr Unit) : Parse (Expr Unit ⊕ Expr Unit) := do
  if ← acceptPunct "," then return .inl (.comma () left (← rule .assignment)) else return .inr left

/-- One more link of the chain of a level. -/
def chainStep (rule : Rules) : Nat → Expr Unit → Parse (Expr Unit ⊕ Expr Unit)
  | 0 => commaStep rule
  | 14 => postfixStep rule
  | k => binaryStep (levelParser rule (k + 1)) (binaryLevels.getD (k - 3) [])

/-- The levels at which expressions are chains that grow to the right. -/
def isChain (k : Nat) : Bool := k == 0 || k == 14 || (3 ≤ k && k < 13)

/-- The parser of the next level and some links read words as the left part of a chain. -/
def ChainWithin (setting : Setting) (names : Names) (d k : Nat) (ws : List Word) (e : Expr Unit) : Prop :=
  ∀ ts rest, ts.map Token.word = ws → Stops (k + 1) (setting.next rest) →
    ∃ first c, Runs setting (levelParser (rulesWithin d) (k + 1)) ⟨ts ++ rest, names⟩ first c ∧
      Steps setting (chainStep (rulesWithin d) k) first c e ⟨rest, names⟩

section Levels

variable {rule : Rules} {i k : Nat}

theorem levelParser_binary (hi : i ≤ 10) :
    levelParser rule (i + 3) = binaryExpression (rule .unary) (binaryLevels.drop i) := by
  unfold levelParser
  split <;> first | omega | skip
  rename_i h
  rw [Nat.add_right_cancel h]

theorem gap_binary (hi : i ≤ 10) : gap (i + 3) = 3 := by
  unfold gap
  split <;> omega

theorem gap_mono : ∀ j ≤ 15, ∀ k ≤ j, gap k ≤ gap j := by decide

theorem chainStep_binary (hi : i < 10) : chainStep rule (i + 3) =
    binaryStep (levelParser rule (i + 4)) (binaryLevels.getD i []) := by
  unfold chainStep
  split <;> first | omega | rfl

theorem isChain_cases (h : isChain k) : k = 0 ∨ k = 14 ∨ ∃ i < 10, k = i + 3 := by
  unfold isChain at h
  rw [Bool.or_eq_true, Bool.or_eq_true, Bool.and_eq_true, beq_iff_eq, beq_iff_eq, decide_eq_true_eq,
    decide_eq_true_eq] at h
  rcases h with (h | h) | h
  · exact .inl h
  · exact .inr (.inl h)
  · exact .inr (.inr ⟨k - 3, by omega, by omega⟩)

/-- The parser of a level of binary operators is a chain of the next one. -/
theorem levelParser_chain (hi : i < 10) : levelParser rule (i + 3) =
    (do repeatStep (← levelParser rule (i + 4)) (chainStep rule (i + 3))) := by
  have hdrop : binaryLevels.drop i = binaryLevels.getD i [] :: binaryLevels.drop (i + 1) := by
    rw [drop_eq_getElem_cons (show i < binaryLevels.length from hi), getD_eq_getElem?_getD,
      getElem?_eq_getElem (show i < binaryLevels.length from hi), Option.getD_some]
  rw [chainStep_binary hi, levelParser_binary (Nat.le_of_lt hi), hdrop, levelParser_binary hi]
  rfl

end Levels

section Chains

variable {d k : Nat} {ws : List Word} {e : Expr Unit} {c c1 : Cursor}

/-- No type name in parentheses starts with some words. -/
def NoType (setting : Setting) (names : Names) (ws : List Word) : Prop :=
  ∀ ts rest, ts.map Token.word = ws →
    Runs setting atParenthesizedTypeName ⟨ts ++ rest, names⟩ false ⟨ts ++ rest, names⟩

variable {ts rest : List Token}

theorem NoType.atCompoundLiteral (h : NoType setting names ws) (rule : Rules) (hts : ts.map Token.word = ws)
    (rest : List Token) :
    Runs setting (atCompoundLiteral rule) ⟨ts ++ rest, names⟩ false ⟨ts ++ rest, names⟩ :=
  (h ts rest hts).bind (.pure false)

/-- The loop of the comma operator collects its operands first. -/
theorem steps_while (results : List (Expr Unit)) (h : Steps setting (commaStep rule) e1 c e2 c1)
    (he : results.reverse.foldl (Expr.comma ()) first = e1) :
    ∃ results', Steps setting (whileStep (acceptPunct ",") (rule .assignment)) results c results' c1 ∧
      results'.reverse.foldl (Expr.comma ()) first = e2 := by
  induction h generalizing results with
  | refl => exact ⟨results, .refl _ _, he⟩
  | head hstep hlt _ ih =>
    obtain ⟨found, c', hfound, hrest⟩ := hstep.of_bind
    cases found with
    | false => cases hrest
    | true =>
      obtain ⟨right, c'', hright, hpure⟩ := hrest.of_bind
      cases hpure
      obtain ⟨results', hsteps, hfold⟩ := ih (right :: results) (by simp [he])
      exact ⟨results', .head (runs_whileStep hfound hright) hlt hsteps, hfold⟩

/-- A chain stops where no link of its level follows. -/
theorem chainStep_stops (hk : isChain k) (h : Stops k (setting.next c.rest)) :
    Runs setting (chainStep rule k e) c (.inr e) c := by
  rcases isChain_cases hk with rfl | rfl | ⟨i, hi, rfl⟩
  · have hcomma := h (0, ",") (by decide) (Nat.le_refl _)
    exact (runs_acceptPunct_not hcomma).bind (.pure _)
  · have hnot : ∀ text ∈ ["(", "[", ".", "->", "++", "--"], (setting.next c.rest).isPunct text = false :=
      fun text ht => h (14, text) (mem_append_right _ (mem_map_of_mem ht)) (Nat.le_refl _)
    refine (runs_acceptPunct_not (hnot "(" (by decide))).bind ?_
    refine (runs_acceptPunct_not (hnot "[" (by decide))).bind ?_
    refine (runs_acceptPunct_not (hnot "." (by decide))).bind ?_
    refine (runs_acceptPunct_not (hnot "->" (by decide))).bind ?_
    have hany : ["++", "--"].any (setting.next c.rest).isPunct = false := by
      simp only [any_cons, any_nil, hnot "++" (by decide), hnot "--" (by decide), Bool.or_false]
    exact (runs_atPuncts hany).bind (.pure _)
  · rw [chainStep_binary hi]
    exact (runs_atPuncts (h.binary hi (Nat.le_refl _))).bind (.pure _)

/-- **A chain that stops is read by the parser of its level.** -/
theorem ChainWithin.reads (hk : isChain k) (h : ChainWithin setting names d k ws e)
    (hn : k = 14 → NoType setting names ws) :
    ReadsWithin setting names (d + (gap (k + 1) - gap k)) k ws e := by
  intro ts rest hts hstop
  obtain ⟨first, c, hfirst, hsteps⟩ := h ts rest hts (hstop.mono (Nat.le_succ k))
  have hdone : Runs setting (chainStep (rulesWithin d) k e) ⟨rest, names⟩ (.inr e) ⟨rest, names⟩ :=
    chainStep_stops hk hstop
  rcases isChain_cases hk with rfl | rfl | ⟨i, hi, rfl⟩
  · obtain ⟨results, hwhile, hfold⟩ := steps_while [] hsteps rfl
    have hcomma := hstop (0, ",") (by decide) (Nat.le_refl _)
    refine hfirst.bind ((Runs.whileTrue hwhile (runs_acceptPunct_not hcomma)).bind ?_)
    rw [hfold]
    exact .pure _
  · refine ((hn rfl).atCompoundLiteral (rulesWithin d) hts rest).bind ?_
    exact hfirst.bind (.repeatStep hsteps hdone)
  · rw [gap_binary (by omega : i ≤ 10), show i + 3 + 1 = i + 1 + 3 from rfl, gap_binary (by omega)]
    rw [levelParser_chain hi]
    exact hfirst.bind (.repeatStep hsteps hdone)

end Chains

/-! ## 2. How expressions begin -/

/-- The words with which expressions begin: no types, no blocks and no closing parentheses. -/
def Begins (names : Names) (w : Word) : Prop :=
  w.1 = .intConst ∨ (w.1 = .identifier ∧ names.isTypedef w.2 = false ∧ w.2 ≠ "__unaligned") ∨
    (w.1 = .punctuator ∧ w.2 ∉ ["\x7b", ")"])

/-- Words that begin as a postfix expression does: with a constant, a name, or a parenthesis before an
    expression. -/
inductive Leads (names : Names) : List Word → Prop where
  | int {text : String} {ws : List Word} : Leads names ((.intConst, text) :: ws)
  | ident {name : String} {ws : List Word} : Leads names ((.identifier, name) :: ws)
  | open {w : Word} {ws : List Word} (h : Begins names w) : Leads names (punct "(" :: w :: ws)

theorem Leads.append (h : Leads names ws) (more : List Word) : Leads names (ws ++ more) := by
  cases h with
  | int => exact .int
  | ident => exact .ident
  | «open» h => exact .open h

section Beginnings

variable {ws : List Word} {t : Token}

theorem noType_of_ne (h : w ≠ punct "(") : NoType setting names (w :: ws) := by
  intro ts rest hts
  obtain ⟨t, ts, rfl, ht, -⟩ := map_eq_cons_iff.mp hts
  have hopen : (setting.next (t :: ts ++ rest)).isPunct "(" = false := by
    show t.isPunct "(" = false
    rw [Token.isPunct_eq ht, beq_eq_false_iff_ne]
    exact h
  exact (runs_atPunct hopen).bind (.pure false)

theorem noType_of_begins (h : Begins names v) :
    NoType setting names (punct "(" :: v :: ws) := by
  intro ts rest hts
  obtain ⟨t, ts, rfl, ht, hts⟩ := map_eq_cons_iff.mp hts
  obtain ⟨u, ts, rfl, hu, -⟩ := map_eq_cons_iff.mp hts
  have hkind : u.kind = v.1 := congrArg Prod.fst hu
  have hlexeme : u.lexeme = v.2 := congrArg Prod.snd hu
  have hdrop : (u :: ts ++ rest).dropWhile (fun token => isQualifier token || isIgnoredQualifier token) =
      u :: ts ++ rest := by
    refine dropWhile_cons_of_neg ?_
    unfold isQualifier isIgnoredQualifier
    rcases h with h | ⟨h, -, hne⟩ | ⟨h, -⟩ <;> simp [*]
  refine .bind (runs_atPunct (Token.isPunct_self ht)) ((show Runs setting get _ _ _ from rfl).bind ?_)
  dsimp only [cons_append, tail_cons] at hdrop ⊢
  rw [hdrop]
  dsimp only
  rw [hkind]
  rcases h with h | ⟨h, htype, -⟩ | ⟨h, -⟩
  · rw [h]
    exact .pure false
  · rw [h]
    refine runs_names.bind ?_
    rw [hlexeme, htype]
    exact .pure false
  · rw [h]
    exact .pure false

theorem Leads.noType (h : Leads names ws) : NoType setting names ws := by
  cases h with
  | int | ident => exact noType_of_ne (by simp [punct])
  | «open» h => exact noType_of_begins h

/-- The first token of such words is no keyword and no punctuator but the parenthesis. -/
theorem Leads.first (h : Leads names ws) (hts : ts.map Token.word = ws) :
    ∃ t ts', ts = t :: ts' ∧ (∀ text, t.isKeyword text = false) ∧
      ∀ text, text ≠ "(" → t.isPunct text = false := by
  have hword : ∀ {w : Word} {t : Token}, t.word = w → w.1 ≠ .keyword → (w.1 ≠ .punctuator ∨ w = punct "(") →
      (∀ text, t.isKeyword text = false) ∧ ∀ text, text ≠ "(" → t.isPunct text = false := by
    intro w t ht hkey hpunct
    have hkind : t.kind = w.1 := congrArg Prod.fst ht
    refine ⟨fun text => Token.isKeyword_of_kind (hkind ▸ hkey) text, fun text hne => ?_⟩
    rcases hpunct with hpunct | rfl
    · exact Token.isPunct_of_kind (hkind ▸ hpunct) text
    · rw [Token.isPunct_punct ht, beq_eq_false_iff_ne]
      exact hne.symm
  cases h with
  | int | ident =>
    obtain ⟨t, ts', rfl, ht, -⟩ := map_eq_cons_iff.mp hts
    exact ⟨t, ts', rfl, hword ht (by simp) (.inl (by simp))⟩
  | «open» _ =>
    obtain ⟨t, ts', rfl, ht, -⟩ := map_eq_cons_iff.mp hts
    exact ⟨t, ts', rfl, hword ht (by decide) (.inr rfl)⟩

theorem runs_unary (hkey : ∀ text, t.isKeyword text = false)
    (hno : NoType setting names ws) (hts : (t :: ts).map Token.word = ws)
    (he : Runs setting (operatorExpression rule t) ⟨t :: ts ++ rest, names⟩ e c) :
    Runs setting (unary rule) ⟨t :: ts ++ rest, names⟩ e c := by
  refine runs_current.bind ?_
  show Runs setting (if t.isKeyword "__extension__" = true then _ else if t.isKeyword "sizeof" = true then _
    else if (t.isKeyword "_Alignof" || t.isKeyword "__alignof__") = true then _ else _) _ _ _
  rw [hkey, hkey, hkey, hkey]
  exact (hno _ rest hts).bind ((hno.atCompoundLiteral rule hts rest).bind he)

/-- A unary expression that begins as a postfix expression is one. -/
theorem Leads.unary (h : Leads names ws) (hts : ts.map Token.word = ws)
    (he : Runs setting (postfixExpression rule) ⟨ts ++ rest, names⟩ e c) :
    Runs setting (unary rule) ⟨ts ++ rest, names⟩ e c := by
  obtain ⟨t, ts', rfl, hkey, hpunct⟩ := h.first hts
  refine runs_unary hkey h.noType hts ?_
  have hany : ∀ texts : List String, "(" ∉ texts → texts.any t.isPunct = false := by
    intro texts hnot
    rw [any_eq_false]
    intro text ht
    rw [hpunct text fun heq => hnot (heq ▸ ht)]
    exact Bool.false_ne_true
  unfold operatorExpression
  rw [hany _ (by decide), hpunct _ (by decide), hany _ (by decide)]
  exact he

end Beginnings

/-! ## 3. From a level to the weaker ones -/

section Climbing

variable {d k j : Nat} {ws : List Word} {e : Expr Unit}

/-- What the parser of a level reads is a chain without links for the level below. -/
theorem ReadsWithin.chain (h : ReadsWithin setting names d (k + 1) ws e) : ChainWithin setting names d k ws e :=
  fun ts rest hts hstop => ⟨e, _, h ts rest hts hstop, .refl _ _⟩

theorem ReadsWithin.down (h : ReadsWithin setting names d (k + 1) ws e) (hk : k < 15) (hl : 13 ≤ k → Leads names ws) :
    ReadsWithin setting names (d + (gap (k + 1) - gap k)) k ws e := by
  by_cases hchain : isChain k
  · exact h.chain.reads hchain fun hk => (hl (by omega)).noType
  have hcases : k = 1 ∨ k = 2 ∨ k = 13 := by
    rw [Bool.not_eq_true] at hchain
    unfold isChain at hchain
    simp only [Bool.or_eq_false_iff, Bool.and_eq_false_iff, beq_eq_false_iff_ne, decide_eq_false_iff_not] at hchain
    omega
  intro ts rest hts hstop
  have hnext := h ts rest hts (hstop.mono (Nat.le_succ k))
  rcases hcases with rfl | rfl | rfl
  · exact hnext.bind ((runs_atPuncts (hstop.assignment (Nat.le_refl _))).bind (.pure e))
  · have hquestion := hstop (2, "?") (by decide) (Nat.le_refl _)
    exact hnext.bind ((runs_acceptPunct_not hquestion).bind (.pure e))
  · exact (hl (Nat.le_refl _)).unary hts hnext

/-- **What the parser of a level reads is read by the parsers of all weaker levels.** -/
theorem ReadsWithin.weaken (h : ReadsWithin setting names d j ws e) (hj : j ≤ 15) (hkj : k ≤ j)
    (hl : 14 ≤ j → Leads names ws) :
    ReadsWithin setting names (d + (gap j - gap k)) k ws e := by
  induction hkj generalizing d with
  | refl => rwa [Nat.sub_self]
  | @step m hkm ih =>
    have hm := h.down (by omega) fun hm => hl (by omega)
    have hsum : d + (gap (m + 1) - gap m) + (gap m - gap k) = d + (gap (m + 1) - gap k) := by
      have := gap_mono m (by omega) k hkm
      have := gap_mono (m + 1) hj m (Nat.le_succ m)
      omega
    exact hsum ▸ ih hm (by omega) fun hm => hl (by omega)

end Climbing

/-! ## 4. Expressions at their places -/

section Places

variable {d k : Nat} {ws : List Word} {e : Expr Unit}

/-- The first of some words is one with which expressions begin. -/
def BeginsWith (names : Names) (ws : List Word) : Prop := ∃ w tail, ws = w :: tail ∧ Begins names w

theorem BeginsWith.append (h : BeginsWith names ws) (more : List Word) : BeginsWith names (ws ++ more) := by
  obtain ⟨w, tail, rfl, hw⟩ := h
  exact ⟨w, tail ++ more, rfl, hw⟩

/-- Neither a block nor the end of arguments stands where an expression begins. -/
theorem BeginsWith.next (h : BeginsWith names ws) (hts : ts.map Token.word = ws)
    (rest : List Token) (text : String) (ht : text ∈ ["\x7b", ")"]) :
    (setting.next (ts ++ rest)).isPunct text = false := by
  obtain ⟨w, more, rfl, hw⟩ := h
  obtain ⟨v, _, rfl, hv, -⟩ := map_eq_cons_iff.mp hts
  show v.isPunct text = false
  rw [Token.isPunct_eq hv, beq_eq_false_iff_ne]
  rintro rfl
  rcases hw with h | ⟨h, -⟩ | ⟨-, h⟩
  · cases h
  · cases h
  · exact h ht

theorem begins_punct (h : text ∉ ["\x7b", ")"]) : BeginsWith names (punct text :: ws) :=
  ⟨_, ws, rfl, .inr (.inr ⟨rfl, h⟩)⟩

theorem BeginsWith.wordsAt (h : BeginsWith names e.words) (k : Nat) : BeginsWith names (e.wordsAt k) := by
  by_cases hk : e.level < k
  · rw [wordsAt_of_lt hk]
    exact begins_punct (by decide)
  · rwa [wordsAt_of_le (Nat.not_lt.mp hk)]

/-- Expressions begin as expressions do. -/
theorem Expressible.begins (h : Expressible names e) : BeginsWith names e.words := by
  induction h with
  | int h => exact ⟨_, [], by rw [words], .inl rfl⟩
  | ident h => exact ⟨_, [], by rw [words], .inr (.inl ⟨rfl, h.ordinary, h.notIgnored⟩)⟩
  | @unary op e hop he ih =>
    have htexts : ∀ op ∈ UnaryOp.all, op.text ∉ ["\x7b", ")"] := by decide
    exact begins_punct (htexts op hop)
  | @update op e isPostfix hop he ih =>
    cases isPostfix with
    | false =>
      exact begins_punct (by rcases hop with rfl | rfl <;> decide)
    | true =>
      exact (ih.wordsAt 14).append _
  | binary hop _ _ ihl _ =>
    exact (ihl.wordsAt _).append _
  | assign hop _ _ iht _ =>
    exact (iht.wordsAt 13).append _
  | conditional _ _ _ ihc _ _ =>
    exact (ihc.wordsAt 3).append _
  | comma _ _ ihl _ =>
    exact ihl.append _
  | call _ _ ihb | subscript _ _ ihb | member _ _ ihb =>
    exact (ihb.wordsAt 14).append _

/-- An expression in parentheses leads to a postfix expression. -/
theorem BeginsWith.leads (h : BeginsWith names ws) (more : List Word) :
    Leads names (punct "(" :: (ws ++ more)) := by
  obtain ⟨w, tail, rfl, hw⟩ := h
  exact .open hw

/-- Expressions of the two strongest levels begin as postfix expressions do. -/
theorem Expressible.leads (h : Expressible names e) (hk : 14 ≤ e.level) : Leads names e.words := by
  have hplace : ∀ {e : Expr Unit}, Expressible names e → (14 ≤ e.level → Leads names e.words) →
      Leads names (e.wordsAt 14) := by
    intro e he ih
    by_cases hk : e.level < 14
    · rw [wordsAt_of_lt hk]
      exact he.begins.leads _
    · rw [wordsAt_of_le (Nat.not_lt.mp hk)]
      exact ih (Nat.not_lt.mp hk)
  induction h with
  | int h =>
    exact .int
  | ident h =>
    exact .ident
  | @update op e isPostfix hop he ih =>
    cases isPostfix with
    | false => exact absurd hk (by simp [Expr.level])
    | true =>
      exact (hplace he ih).append _
  | @binary op l r hop =>
    have := (binaryOp_level op hop).2.1
    exact absurd hk (Nat.not_le.mpr (Nat.lt_succ_of_lt this))
  | call hb _ ihb | subscript hb _ ihb | member hb _ ihb =>
    exact (hplace hb ihb).append _
  | unary | assign | conditional | comma => exact absurd hk (by simp [Expr.level])

/-- An expression in parentheses is a primary expression. -/
theorem reads_parenthesized (h : ReadsWithin setting names d 0 ws e) (hb : BeginsWith names ws) :
    ReadsWithin setting names d 15 (punct "(" :: (ws ++ [punct ")"])) e := by
  intro ts rest hts _
  obtain ⟨t, ts, rfl, ht, hts⟩ := map_eq_cons_iff.mp hts
  obtain ⟨inner, tail, rfl, hinner, htail⟩ := map_eq_append_iff.mp hts
  obtain ⟨u, rfl, hu⟩ := map_eq_singleton_iff.mp htail
  have hkind : t.kind = .punctuator := congrArg Prod.fst ht
  rw [show t :: (inner ++ [u]) ++ rest = t :: (inner ++ u :: rest) by simp]
  have hblock : (setting.next (inner ++ u :: rest)).isPunct "\x7b" = false :=
    hb.next hinner (u :: rest) "\x7b" (by decide)
  have hread := h inner (u :: rest) hinner (stops_punct hu (by decide))
  refine runs_current.bind ?_
  simp only [Setting.next, getD_cons_zero, hkind]
  rw [Token.isKeyword_of_kind (by simp [hkind]), Token.isPunct_self ht]
  have hnext : Runs setting (nextIsPunct "\x7b") ⟨t :: (inner ++ u :: rest), names⟩
      ((setting.next (inner ++ u :: rest)).isPunct "\x7b") ⟨t :: (inner ++ u :: rest), names⟩ := rfl
  refine hnext.bind ?_
  rw [hblock]
  exact (runs_expectPunct ht).bind (hread.bind ((runs_expectPunct hu).bind (.pure e)))

/-- An expression is read as it is written, by the parser of its level and, where it is a chain, as the
    left part of a longer one. -/
def Readable (setting : Setting) (names : Names) (e : Expr Unit) : Prop :=
  (isChain e.level = true → ∀ d, 4 * e.words.length ≤ d + gap (e.level + 1) →
    ChainWithin setting names d e.level e.words e) ∧
  ∀ d, 4 * e.words.length ≤ d + gap e.level → ReadsWithin setting names d e.level e.words e

theorem level_le (e : Expr Unit) : e.level ≤ 15 := by
  have hop : ∀ op : BinaryOp, op.level ≤ 15 := by
    intro op
    unfold BinaryOp.level
    split <;> omega
  unfold Expr.level
  split
  all_goals first | omega | exact hop _ | skip
  split <;> omega

/-- **A readable expression is read at every place**, in parentheses where the place asks for them. -/
theorem Readable.readsAt (h : Readable setting names e) (hx : Expressible names e) (hk : k ≤ 15)
    (hd : 4 * (e.wordsAt k).length ≤ d + gap k) : ReadsWithin setting names d k (e.wordsAt k) e := by
  have hlevel := level_le e
  by_cases hlt : e.level < k
  · rw [wordsAt_of_lt hlt] at hd ⊢
    simp only [length_cons, length_append, length_nil] at hd
    have hmono := gap_mono 15 (Nat.le_refl _) k hk
    have hgap : gap 15 = 4 := rfl
    have hinner : ReadsWithin setting names (d - (4 - gap k)) 0 e.words e := by
      have h4 := gap_mono 15 (Nat.le_refl _) e.level hlevel
      have hread := h.2 (d - (4 - gap k) - gap e.level) (by omega)
      have := hread.weaken hlevel (Nat.zero_le _) hx.leads
      rwa [show gap 0 = 0 from rfl, Nat.sub_zero, Nat.sub_add_cancel (by omega)] at this
    have hread := (reads_parenthesized hinner hx.begins).weaken (Nat.le_refl _) hk fun _ => hx.begins.leads _
    rwa [hgap, Nat.sub_add_cancel (by omega)] at hread
  · have hle := Nat.not_lt.mp hlt
    rw [wordsAt_of_le hle] at hd ⊢
    obtain ⟨w, tail, hwords, -⟩ := hx.begins
    rw [hwords, length_cons] at hd
    have hmono := gap_mono e.level hlevel k hle
    have h4 := gap_mono 15 (Nat.le_refl _) e.level hlevel
    have hgap : gap 15 = 4 := rfl
    have hread := h.2 (d - (gap e.level - gap k)) (by rw [hwords, length_cons]; omega)
    have := hread.weaken hlevel hle hx.leads
    rwa [Nat.sub_add_cancel (by omega)] at this

/-- A readable expression is read as the left part of a chain. -/
theorem Readable.chainAt (h : Readable setting names e) (hx : Expressible names e) (hk : isChain k)
    (hd : 4 * (e.wordsAt k).length ≤ d + gap (k + 1)) : ChainWithin setting names d k (e.wordsAt k) e := by
  by_cases hlevel : e.level = k
  · subst hlevel
    rw [wordsAt_of_le (Nat.le_refl _)] at hd ⊢
    exact h.1 hk d hd
  · have hwords : e.wordsAt k = e.wordsAt (k + 1) := by
      by_cases hlt : e.level < k
      · rw [wordsAt_of_lt hlt, wordsAt_of_lt (Nat.lt_succ_of_lt hlt)]
      · rw [wordsAt_of_le (by omega), wordsAt_of_le (by omega)]
    rw [hwords] at hd ⊢
    have hle : k + 1 ≤ 15 := by
      rcases isChain_cases hk with rfl | rfl | ⟨i, hi, rfl⟩ <;> omega
    exact (h.readsAt hx hle hd).chain

end Places

end CCompiler.Grammar
