import CCompiler.Proofs.Grammar.Expression

/-!
# Every expression is read as it is written

One case for each way to build an expression: names and constants, prefix operators, the chains of commas,
binary and postfix operators, and the two operators that group to the right.

* `Expressible.readable` -- every expression is readable;
* `Expressible.reads` -- the words of an expression at a place of some level are read by the parser of that
  level, within a depth that the number of words bounds.
-/
namespace CCompiler.Grammar

open List
open Expr (words wordsAt_zero moreWords argumentWords)
open Token (isPunct_punct word)

variable {setting : Setting} {names : Names}
variable {op : UpdateOp} {args : List (Expr Unit)} {ts rest : List Token}

/-! ## 1. Names and constants -/

theorem Readable.of_reads (hchain : isChain e.level = false)
    (h : ∀ d, 4 * e.words.length ≤ d + gap e.level → ReadsWithin setting names d e.level e.words e) :
    Readable setting names e :=
  ⟨fun hc => absurd hc (by rw [hchain]; exact Bool.false_ne_true), h⟩

theorem Readable.of_chain (hx : Expressible names e) (hchain : isChain e.level)
    (h : ∀ d, 4 * e.words.length ≤ d + gap (e.level + 1) →
      ChainWithin setting names d e.level e.words e) : Readable setting names e := by
  refine ⟨fun _ => h, fun d hd => ?_⟩
  have hlt : e.level + 1 ≤ 15 := by
    rcases isChain_cases hchain with h | h | ⟨i, hi, h⟩ <;> omega
  have hmono := gap_mono (e.level + 1) hlt e.level (Nat.le_succ _)
  have h4 : gap (e.level + 1) ≤ 4 := gap_mono 15 (Nat.le_refl _) _ hlt
  have hlen : e.words.length ≠ 0 := by
    obtain ⟨w, tail, hwords, -⟩ := hx.begins
    simp [hwords]
  have hread := (h (d - (gap (e.level + 1) - gap e.level)) (by omega)).reads hchain
    fun h14 => (hx.leads (by omega)).noType
  rwa [Nat.sub_add_cancel (by omega)] at hread

/-- An expression between brackets or at the start. -/
theorem Readable.inside (h : Readable setting names e) (hx : Expressible names e)
    (hd : 4 * e.words.length ≤ d) : ReadsWithin setting names d 0 e.words e := by
  simpa only [wordsAt_zero] using h.readsAt hx (Nat.zero_le 15) hd

theorem readable_int : Readable setting names (.int () text) := by
  refine .of_reads rfl fun d _ ts rest hts _ => ?_
  obtain ⟨t, rfl, ht⟩ := map_eq_singleton_iff.mp hts
  have hkind : t.kind = .intConst := congrArg Prod.fst ht
  have hlexeme : t.lexeme = text := congrArg Prod.snd ht
  refine runs_current.bind ?_
  simp only [Setting.next, cons_append, getD_cons_zero, hkind]
  exact runs_advance.bind (hlexeme ▸ .pure _)

theorem readable_ident (h : IsName names name) : Readable setting names (.ident () name) := by
  refine .of_reads rfl fun d _ ts rest hts _ => ?_
  obtain ⟨t, rfl, ht⟩ := map_eq_singleton_iff.mp hts
  have hkind : t.kind = .identifier := congrArg Prod.fst ht
  have hlexeme : t.lexeme = name := congrArg Prod.snd ht
  refine runs_current.bind ?_
  simp only [Setting.next, cons_append, getD_cons_zero, hkind]
  rw [if_neg (hlexeme ▸ h.notOffsetof)]
  exact runs_advance.bind (hlexeme ▸ .pure _)

/-! ## 2. Prefix operators -/

section Prefix

theorem any_isPunct {t : Token} {text : String} (ht : t.word = punct text) (texts : List String) :
    texts.any t.isPunct = texts.any (text == ·) := congrArg _ (funext (isPunct_punct ht))

theorem updateOp_texts (hop : op = .increment ∨ op = .decrement) :
    op.text ≠ "(" ∧ ["++", "--"].any (op.text == ·) ∧ UpdateOp.ofText op.text = op := by
  rcases hop with rfl | rfl <;> decide

theorem unaryOp_texts : ∀ op ∈ UnaryOp.all, op.text ≠ "(" ∧ ["++", "--"].any (op.text == ·) = false ∧
    (op.text == "&&") = false ∧ ["+", "-", "!", "~", "&", "*"].any (op.text == ·) := by decide

variable {e : Expr Unit} (hx : Expressible names e) (h : Readable setting names e)

include hx h

/-- A prefix operator and its operand are read if the operator leads to the operand. -/
theorem readable_prefix (hlevel : result.level = 13)
    (hwords : result.words = punct text :: e.wordsAt 13) (hne : text ≠ "(")
    (hop : ∀ d t ts rest, t.word = punct text → Runs setting (rulesWithin d .unary) ⟨ts, names⟩ e ⟨rest, names⟩ →
      Runs setting (operatorExpression (rulesWithin d) t) ⟨t :: ts, names⟩ result ⟨rest, names⟩) :
    Readable setting names result := by
  refine .of_reads (by rw [hlevel]; rfl) fun d hd => ?_
  rw [hlevel, hwords] at hd ⊢
  intro ts rest hts hstop
  obtain ⟨t, ts, rfl, ht, hts'⟩ := map_eq_cons_iff.mp hts
  have hd' : 4 * ((e.wordsAt 13).length + 1) ≤ d + 3 := hd
  obtain ⟨d, rfl⟩ : ∃ d', d = d' + 1 := ⟨d - 1, by omega⟩
  have hkind : t.kind = .punctuator := congrArg Prod.fst ht
  have hread := h.readsAt hx (by decide : 13 ≤ 15) (show _ ≤ d + 3 by omega) ts rest hts' hstop
  exact runs_unary (fun _ => Token.isKeyword_of_kind (by simp [hkind]) _)
    (noType_of_ne fun heq => hne (congrArg Prod.snd heq)) hts (hop d t _ rest ht hread)

theorem readable_unary {op : UnaryOp} (hop : op ∈ UnaryOp.all) : Readable setting names (.unary () op e) := by
  obtain ⟨hopen, hupdate, hand, hop'⟩ := unaryOp_texts op hop
  refine readable_prefix hx h rfl (by rfl) hopen fun d t ts rest ht hread => ?_
  have hlexeme : t.lexeme = op.text := congrArg Prod.snd ht
  unfold operatorExpression
  rw [any_isPunct ht, any_isPunct ht, isPunct_punct ht, hupdate, hand, hop']
  refine runs_advance.discard.bind (hread.bind ?_)
  rw [hlexeme, UnaryOp.ofText_text op hop]
  exact .pure _

theorem readable_prefix_update (hop : op = .increment ∨ op = .decrement) :
    Readable setting names (.update () op e false) := by
  obtain ⟨hopen, hupdate, hof⟩ := updateOp_texts hop
  refine readable_prefix hx h rfl (by rfl) hopen fun d t ts rest ht hread => ?_
  have hlexeme : t.lexeme = op.text := congrArg Prod.snd ht
  unfold operatorExpression
  rw [any_isPunct ht, hupdate]
  refine runs_advance.discard.bind (hread.bind ?_)
  rw [hlexeme, hof]
  exact .pure _

end Prefix

/-! ## 3. Chains -/

section Links

variable {d k : Nat} {ws ws' : List Word} {l r e : Expr Unit} {text : String}

/-- **One more link of a chain.** -/
theorem ChainWithin.link (h : ChainWithin setting names d k ws l)
    (hstop : ∀ p ∈ continuations, p.2 = text → p.1 < k + 1)
    (hstep : ∀ t ts rest, t.word = punct text → ts.map word = ws' → Stops (k + 1) (setting.next rest) →
      Runs setting (chainStep (rulesWithin d) k l) ⟨t :: ts ++ rest, names⟩ (.inl e) ⟨rest, names⟩) :
    ChainWithin setting names d k (ws ++ punct text :: ws') e := by
  intro ts rest hts hnext
  obtain ⟨ts1, ts2, rfl, hts1, hts2⟩ := map_eq_append_iff.mp hts
  obtain ⟨t, ts2, rfl, ht, hts2⟩ := map_eq_cons_iff.mp hts2
  obtain ⟨first, c, hfirst, hsteps⟩ := h ts1 (t :: ts2 ++ rest) hts1 (stops_punct ht hstop)
  rw [append_assoc]
  refine ⟨first, c, hfirst, hsteps.tail (hstep t ts2 rest ht hts2 hnext) ?_⟩
  simp only [cons_append, length_cons, length_append]
  omega

variable (hl : Expressible names l) (hr : Expressible names r) (ihl : Readable setting names l)
  (ihr : Readable setting names r)

include hl hr ihl ihr

theorem readable_comma : Readable setting names (.comma () l r) := by
  refine .of_chain (.comma hl hr) rfl fun d hd => ?_
  rw [words] at hd ⊢
  simp only [length_append, length_cons] at hd
  have hd' : 4 * (l.words.length + ((r.wordsAt 1).length + 1)) ≤ d + 1 := hd
  have hleft := ihl.chainAt (d := d) hl rfl (by
    rw [wordsAt_zero]
    omega)
  refine hleft.link (by decide) fun t ts rest ht hts hnext => ?_
  have hright := ihr.readsAt hr (by decide : 1 ≤ 15) (show 4 * (r.wordsAt 1).length ≤ d + 1 by omega)
    ts rest hts hnext
  exact (runs_acceptPunct ht).bind (hright.bind (.pure _))

theorem readable_binary {op : BinaryOp} (hop : op ∈ BinaryOp.all) : Readable setting names (.binary () op l r) := by
  obtain ⟨hlow, hhigh, htext⟩ := binaryOp_level op hop
  obtain ⟨i, hi⟩ : ∃ i, op.level = i + 3 := ⟨op.level - 3, by omega⟩
  have hchain : isChain op.level := by
    unfold isChain
    simp [hlow, hhigh]
  refine .of_chain (.binary hop hl hr) hchain fun d hd => ?_
  rw [words] at hd ⊢
  simp only [length_append, length_cons] at hd
  have hgap : gap (op.level + 1) = 3 := by
    rw [hi]
    exact gap_binary (by omega)
  have hd' : 4 * ((l.wordsAt op.level).length + ((r.wordsAt (op.level + 1)).length + 1)) ≤ d + 3 :=
    hgap ▸ hd
  have hleft := ihl.chainAt (d := d) hl hchain (by omega)
  refine hleft.link (binaryOp_stops op hop) fun t ts rest ht hts hnext => ?_
  have hright := ihr.readsAt (d := d) hr (by omega) (by omega) ts rest hts hnext
  have hlexeme : t.lexeme = op.text := congrArg Prod.snd ht
  have hat : (binaryLevels.getD (op.level - 3) []).any t.isPunct := by
    rw [any_eq_true]
    exact ⟨op.text, htext, (isPunct_punct ht op.text).trans (beq_self_eq_true _)⟩
  rw [hi] at hright hat ⊢
  rw [chainStep_binary (by omega)]
  refine .bind (runs_atPuncts hat) (runs_advance.bind (hright.bind ?_))
  rw [hlexeme, BinaryOp.ofText_text op hop]
  exact .pure _

end Links

/-! ## 4. Postfix operators -/

section Postfix

variable {d : Nat}

/-- The arguments behind the first one, each behind a comma. -/
theorem steps_arguments (hx : ∀ a ∈ args, Expressible names a)
    (ih : ∀ a ∈ args, Readable setting names a) (hd : 4 * (moreWords args).length ≤ d)
    (results : List (Expr Unit)) (hts : ts.map word = moreWords args)
    (hstop : Stops 1 (setting.next rest)) :
    Stops 1 (setting.next (ts ++ rest)) ∧
    Steps setting (whileStep (acceptPunct ",") (rulesWithin d .assignment)) results ⟨ts ++ rest, names⟩
      (args.reverse ++ results) ⟨rest, names⟩ := by
  induction args generalizing results ts with
  | nil =>
    cases map_eq_nil_iff.mp hts
    exact ⟨hstop, .refl _ _⟩
  | cons a args iha =>
    rw [moreWords] at hts hd
    simp only [length_cons, length_append] at hd
    obtain ⟨t, ts, rfl, ht, hts⟩ := map_eq_cons_iff.mp hts
    obtain ⟨ts1, ts2, rfl, hts1, hts2⟩ := map_eq_append_iff.mp hts
    obtain ⟨hnext, hsteps⟩ := iha (forall_mem_cons.mp hx).2 (forall_mem_cons.mp ih).2 (by omega) (a :: results) hts2
    have hread := (ih a mem_cons_self).readsAt (hx a mem_cons_self) (by decide : 1 ≤ 15)
      (show 4 * (a.wordsAt 1).length ≤ d + 1 from Nat.le_succ_of_le (by unfold Expr.wordsAt; omega))
      ts1 (ts2 ++ rest) hts1 hnext
    refine ⟨stops_punct ht (by decide), ?_⟩
    rw [reverse_cons, append_assoc, cons_append, append_assoc]
    refine .head (runs_whileStep (runs_acceptPunct ht) hread) ?_ hsteps
    simp only [length_cons, length_append]
    omega

/-- The arguments of a call and the parenthesis behind them. -/
theorem runs_arguments (hx : ∀ a ∈ args, Expressible names a)
    (ih : ∀ a ∈ args, Readable setting names a) (hd : 4 * (argumentWords args).length ≤ d) (hts : ts.map word = argumentWords args) (hu : u.word = punct ")") :
    Runs setting (arguments (rulesWithin d)) ⟨ts ++ u :: rest, names⟩ args ⟨u :: rest, names⟩ := by
  have hcomma : u.isPunct "," = false := (isPunct_punct hu ",").trans (by decide)
  cases args with
  | nil =>
    cases map_eq_nil_iff.mp hts
    exact .bind (runs_atPunct (Token.isPunct_self hu)) (.pure _)
  | cons a args =>
    rw [argumentWords] at hts hd
    simp only [length_append] at hd
    obtain ⟨ts1, ts2, rfl, hts1, hts2⟩ := map_eq_append_iff.mp hts
    have ha := hx a mem_cons_self
    have hend : Stops 1 (setting.next (u :: rest)) := stops_punct hu (by decide)
    obtain ⟨hnext, hsteps⟩ := steps_arguments (d := d) (forall_mem_cons.mp hx).2
      (forall_mem_cons.mp ih).2 (by omega) [] hts2 hend
    have hread := (ih a mem_cons_self).readsAt ha (by decide : 1 ≤ 15)
      (show 4 * (a.wordsAt 1).length ≤ d + 1 from Nat.le_succ_of_le (by unfold Expr.wordsAt; omega))
      ts1 (ts2 ++ u :: rest) hts1 hnext
    have hfirst : (setting.next (ts1 ++ (ts2 ++ u :: rest))).isPunct ")" = false :=
      (ha.begins.wordsAt 1).next hts1 _ ")" (by decide)
    rw [append_assoc]
    refine (runs_atPunct hfirst).bind ?_
    refine hread.bind ((Runs.whileTrue hsteps (runs_acceptPunct_other hcomma)).bind ?_)
    rw [append_nil, reverse_reverse]
    exact .pure _

variable {b e : Expr Unit} (hb : Expressible names b) (ihb : Readable setting names b)

include hb ihb

/-- An operand with a postfix operator is a chain if the operator is read as a link. -/
theorem readable_postfix (hx : Expressible names e) (hlevel : e.level = 14)
    (hwords : e.words = b.wordsAt 14 ++ punct text :: ws) (htext : ∀ p ∈ continuations, p.2 = text → p.1 < 15)
    (hstep : ∀ d, 4 * (ws.length + 1) ≤ d → ∀ t ts rest, t.word = punct text → ts.map word = ws →
      Runs setting (postfixStep (rulesWithin d) b) ⟨t :: ts ++ rest, names⟩ (.inl e) ⟨rest, names⟩) :
    Readable setting names e := by
  refine .of_chain hx (by rw [hlevel]; rfl) fun d hd => ?_
  rw [hlevel, hwords] at hd ⊢
  simp only [length_append, length_cons] at hd
  have hd' : 4 * ((b.wordsAt 14).length + (ws.length + 1)) ≤ d + 4 := hd
  have hlen : (b.wordsAt 14).length ≠ 0 := by
    obtain ⟨w, tail, hw, -⟩ := hb.begins.wordsAt 14
    simp [hw]
  have hbase := ihb.chainAt (k := 14) hb rfl (show _ ≤ d + 4 by omega)
  exact hbase.link htext fun t ts rest ht hts _ => hstep d (by omega) t ts rest ht hts

theorem readable_postfix_update (hop : op = .increment ∨ op = .decrement) :
    Readable setting names (.update () op b true) := by
  refine readable_postfix hb ihb (.update hop hb) rfl (by rfl)
    (by rcases hop with rfl | rfl <;> decide) fun d _ t ts rest ht hts => ?_
  cases map_eq_nil_iff.mp hts
  have hnot : ∀ text ∈ ["(", "[", ".", "->"], t.isPunct text = false := by
    simp only [isPunct_punct ht]
    rcases hop with rfl | rfl <;> decide
  obtain ⟨-, hupdate, hof⟩ := updateOp_texts hop
  have hlexeme : t.lexeme = op.text := congrArg Prod.snd ht
  refine (runs_acceptPunct_other (hnot "(" (by decide))).bind ?_
  refine (runs_acceptPunct_other (hnot "[" (by decide))).bind ?_
  refine (runs_acceptPunct_other (hnot "." (by decide))).bind ?_
  refine (runs_acceptPunct_other (hnot "->" (by decide))).bind ?_
  refine .bind (runs_atPuncts ((any_isPunct ht _).trans hupdate)) (runs_advance.bind ?_)
  rw [hlexeme, hof]
  exact .pure _

theorem readable_member (hn : Whole (.identifier, name)) :
    Readable setting names (.member () b name throughPointer) := by
  refine readable_postfix hb ihb (.member hb hn) rfl (by rfl)
    (by cases throughPointer <;> decide) fun d _ t ts rest ht hts => ?_
  obtain ⟨u, rfl, hu⟩ := map_eq_singleton_iff.mp hts
  have hlexeme : u.lexeme = name := congrArg Prod.snd hu
  have hname : Runs setting expectIdentifier ⟨u :: rest, names⟩ name ⟨rest, names⟩ :=
    hlexeme ▸ runs_expectIdentifier (congrArg Prod.fst hu)
  have htext := isPunct_punct ht
  have hnot : ∀ text ∈ ["(", "["], t.isPunct text = false := by
    simp only [htext]
    cases throughPointer <;> decide
  refine (runs_acceptPunct_other (hnot "(" (by decide))).bind ?_
  refine (runs_acceptPunct_other (hnot "[" (by decide))).bind ?_
  cases throughPointer with
  | false => exact (runs_acceptPunct ht).bind (hname.bind (.pure _))
  | true =>
    refine (runs_acceptPunct_other ((htext ".").trans (by decide))).bind ?_
    exact (runs_acceptPunct ht).bind (hname.bind (.pure _))

theorem readable_subscript (hi : Expressible names i) (ihi : Readable setting names i) :
    Readable setting names (.subscript () b i) := by
  refine readable_postfix hb ihb (.subscript hb hi) rfl (by rfl) (by decide) fun d hd t ts rest ht hts => ?_
  obtain ⟨inner, tail, rfl, hinner, htail⟩ := map_eq_append_iff.mp hts
  obtain ⟨u, rfl, hu⟩ := map_eq_singleton_iff.mp htail
  rw [length_append] at hd
  rw [show t :: (inner ++ [u]) ++ rest = t :: (inner ++ u :: rest) by simp]
  have hread := ihi.inside (d := d) hi (by omega) inner (u :: rest) hinner (stops_punct hu (by decide))
  refine (runs_acceptPunct_other ((isPunct_punct ht "(").trans (by decide))).bind ?_
  exact (runs_acceptPunct ht).bind (hread.bind ((runs_expectPunct hu).bind (.pure _)))

theorem readable_call (hx : ∀ a ∈ args, Expressible names a) (ih : ∀ a ∈ args, Readable setting names a) :
    Readable setting names (.call () b args) := by
  refine readable_postfix hb ihb (.call hb hx) rfl (by rfl) (by decide) fun d hd t ts rest ht hts => ?_
  obtain ⟨inner, tail, rfl, hinner, htail⟩ := map_eq_append_iff.mp hts
  obtain ⟨u, rfl, hu⟩ := map_eq_singleton_iff.mp htail
  rw [length_append] at hd
  rw [show t :: (inner ++ [u]) ++ rest = t :: (inner ++ u :: rest) by simp]
  refine (runs_acceptPunct ht).bind ?_
  exact (runs_arguments hx ih (by omega) hinner hu).bind ((runs_expectPunct hu).bind (.pure _))

end Postfix

/-! ## 5. Operators that group to the right -/

theorem readable_assign {op : AssignOp} {t v : Expr Unit} (hop : op ∈ AssignOp.all)
    (ht : Expressible names t) (hv : Expressible names v) (iht : Readable setting names t)
    (ihv : Readable setting names v) : Readable setting names (.assign () op t v) := by
  refine .of_reads rfl fun d hd ts rest hts hstop => ?_
  rw [words] at hd hts
  simp only [length_append, length_cons] at hd
  have hd' : 4 * ((t.wordsAt 13).length + ((v.wordsAt 1).length + 1)) ≤ d + 1 := hd
  obtain ⟨ts1, ts2, rfl, hts1, hts2⟩ := map_eq_append_iff.mp hts
  obtain ⟨u, ts2, rfl, hu, hts2⟩ := map_eq_cons_iff.mp hts2
  obtain ⟨d, rfl⟩ : ∃ d', d = d' + 1 := ⟨d - 1, by omega⟩
  have hlexeme : u.lexeme = op.text := congrArg Prod.snd hu
  have htarget : ReadsWithin setting names d 2 (t.wordsAt 13) t := by
    have hread := (iht.readsAt ht (by decide : 13 ≤ 15)
      (show _ ≤ d - 1 + 3 by omega)).weaken (k := 2) (by decide) (by decide) fun h14 => absurd h14 (by decide)
    rwa [show gap 13 - gap 2 = 1 from rfl, Nat.sub_add_cancel (by omega)] at hread
  have hfirst := htarget ts1 (u :: ts2 ++ rest) hts1 (stops_punct hu (assignOp_stops op hop))
  have hvalue := ihv.readsAt hv (by decide : 1 ≤ 15) (show _ ≤ d + 1 by omega) ts2 rest hts2 hstop
  have hat : assignmentOperators.any u.isPunct := by
    rw [any_eq_true]
    exact ⟨op.text, mem_map_of_mem hop, (isPunct_punct hu op.text).trans (beq_self_eq_true _)⟩
  rw [append_assoc]
  refine hfirst.bind (.bind (runs_atPuncts hat) (runs_advance.bind (hvalue.bind ?_)))
  rw [hlexeme, AssignOp.ofText_text op hop]
  exact .pure _

theorem readable_conditional (hc : Expressible names c) (ht : Expressible names t)
    (he : Expressible names e) (ihc : Readable setting names c) (iht : Readable setting names t)
    (ihe : Readable setting names e) : Readable setting names (.conditional () c t e) := by
  refine .of_reads rfl fun d hd ts rest hts hstop => ?_
  rw [words] at hd hts
  simp only [length_append, length_cons] at hd
  have hd' : 4 * ((c.wordsAt 3).length + (t.words.length + ((e.wordsAt 2).length + 1) + 1)) ≤ d + 2 := hd
  obtain ⟨ts1, _, rfl, hts1, hmore⟩ := map_eq_append_iff.mp hts
  obtain ⟨u, _, rfl, hu, hmore⟩ := map_eq_cons_iff.mp hmore
  obtain ⟨ts2, _, rfl, hts2, hmore⟩ := map_eq_append_iff.mp hmore
  obtain ⟨v, ts3, rfl, hv, hts3⟩ := map_eq_cons_iff.mp hmore
  obtain ⟨d, rfl⟩ : ∃ d', d = d' + 1 := ⟨d - 1, by omega⟩
  have hcondition := ihc.readsAt hc (by decide : 3 ≤ 15) (show _ ≤ d + 3 by omega) ts1
    (u :: (ts2 ++ v :: (ts3 ++ rest))) hts1 (stops_punct hu (by decide))
  have hmiddle := iht.inside (d := d) ht (by omega) ts2 (v :: (ts3 ++ rest)) hts2 (stops_punct hv (by decide))
  have helse := ihe.readsAt he (by decide : 2 ≤ 15) (show _ ≤ d + 2 by omega) ts3 rest hts3 hstop
  rw [show ts1 ++ u :: (ts2 ++ v :: ts3) ++ rest = ts1 ++ u :: (ts2 ++ v :: (ts3 ++ rest)) by simp]
  exact hcondition.bind ((runs_acceptPunct hu).bind
    (hmiddle.bind ((runs_expectPunct hv).bind (helse.bind (.pure _)))))

/-! ## 6. All expressions -/

/-- **Every expression is read as it is written.** -/
theorem Expressible.readable (h : Expressible names e) : Readable setting names e := by
  induction h with
  | int _ => exact readable_int
  | ident h => exact readable_ident h
  | unary hop he ih => exact readable_unary he ih hop
  | @update op e isPostfix hop he ih =>
    cases isPostfix with
    | false => exact readable_prefix_update he ih hop
    | true => exact readable_postfix_update he ih hop
  | binary hop hl hr ihl ihr => exact readable_binary hl hr ihl ihr hop
  | assign hop ht hv iht ihv => exact readable_assign hop ht hv iht ihv
  | conditional hc ht he ihc iht ihe => exact readable_conditional hc ht he ihc iht ihe
  | comma hl hr ihl ihr => exact readable_comma hl hr ihl ihr
  | call hf ha ihf iha => exact readable_call hf ihf ha iha
  | subscript hb hi ihb ihi => exact readable_subscript hb ihb hi ihi
  | member hb hn ihb => exact readable_member hb ihb hn

/-- **The words of an expression are read by the parser of the level that their place asks for**, within a
    depth that their number bounds. -/
theorem Expressible.reads (h : Expressible names e) (hk : k ≤ 15)
    (hd : 4 * (e.wordsAt k).length ≤ d + gap k) : ReadsWithin setting names d k (e.wordsAt k) e :=
  h.readable.readsAt h hk hd

end CCompiler.Grammar
