import CCompiler.Proofs.Grammar.Operators

/-!
# From the text of an expression back to it

An expression written word by word with blanks between is scanned into its words, and these are parsed into
the expression again, whatever stands behind them.

* `Expressible.plain` -- every word of an expression is scanned as one token;
* `expression_of_text` -- scanning and parsing the text of an expression returns it.
-/
namespace CCompiler

open List
open Token (spelling IsPlainWord Apart scan scanFrom)
open Text (Position)

/-- The text of an expression: its words with blanks between them. -/
def Expr.text (e : Expr Unit) : String := " ".intercalate (e.words.map (·.2))

namespace Token

theorem toList_intercalate (ws : List Word) : (" ".intercalate (ws.map (·.2))).toList = spelling ws := by
  rw [String.toList_intercalate]
  fun_induction spelling ws with
  | case1 => rfl
  | case2 w => exact append_nil _
  | case3 w v ws ih =>
    rw [← ih]
    rfl

theorem Apart.phaseTwo (h : Apart rest) : Apart (Source.phaseTwo rest) := by
  cases rest with
  | nil => trivial
  | cons c cs =>
    obtain rfl : c = ' ' := h
    rfl

end Token

namespace Grammar

variable {names : Names} {e : Expr Unit}

/-- The punctuators that expressions are written with. -/
def expressionPuncts : List String :=
  "(" :: ")" :: "]" :: ":" :: UnaryOp.all.map UnaryOp.text ++ continuations.map (·.2)

variable {text : String} {ws : List Word} {args : List (Expr Unit)}

theorem plain_punct (h : text ∈ expressionPuncts) : IsPlainWord (punct text) := by
  have htable : ∀ text ∈ expressionPuncts, Whole (punct text) := by decide
  exact ⟨htable text h, fun h => (nomatch h), fun h => (nomatch h)⟩

/-- All words are scanned as tokens. -/
abbrev AllPlain (ws : List Word) : Prop := ∀ w ∈ ws, IsPlainWord w

theorem allPlain_append : AllPlain (ws ++ vs) ↔ AllPlain ws ∧ AllPlain vs :=
  forall_mem_append

theorem allPlain_punct (h : text ∈ expressionPuncts) : AllPlain (punct text :: ws) ↔ AllPlain ws :=
  forall_mem_cons.trans (and_iff_right (plain_punct h))

theorem AllPlain.wordsAt (k : Nat) (h : AllPlain e.words) : AllPlain (e.wordsAt k) := by
  rcases Nat.lt_or_ge e.level k with hk | hk
  · rw [Expr.wordsAt_of_lt hk, allPlain_punct (by decide), allPlain_append]
    exact ⟨h, (allPlain_punct (by decide)).mpr fun _ hw => (nomatch hw)⟩
  · rw [Expr.wordsAt_of_le hk]
    exact h

theorem allPlain_moreWords (h : ∀ a ∈ args, AllPlain a.words) : AllPlain (Expr.moreWords args) := by
  induction args with
  | nil => exact fun _ hw => (nomatch hw)
  | cons a args ih =>
    rw [Expr.moreWords, allPlain_punct (by decide), allPlain_append]
    exact ⟨(h a mem_cons_self).wordsAt 1, ih (forall_mem_cons.mp h).2⟩

theorem allPlain_argumentWords (h : ∀ a ∈ args, AllPlain a.words) : AllPlain (Expr.argumentWords args) := by
  cases args with
  | nil => exact fun _ hw => (nomatch hw)
  | cons a args =>
    rw [Expr.argumentWords, allPlain_append]
    exact ⟨(h a mem_cons_self).wordsAt 1, allPlain_moreWords (forall_mem_cons.mp h).2⟩

theorem allPlain_word (hw : Whole w) (hs : w.1 ≠ .stringLiteral) (hc : w.1 ≠ .charConst) : AllPlain [w] :=
  forall_mem_singleton.mpr ⟨hw, hs, hc⟩

theorem unaryOp_puncts : ∀ op ∈ UnaryOp.all, op.text ∈ expressionPuncts := by decide

theorem binaryOp_puncts : ∀ op ∈ BinaryOp.all, op.text ∈ expressionPuncts := by decide

theorem assignOp_puncts : ∀ op ∈ AssignOp.all, op.text ∈ expressionPuncts := by decide

/-- **Every word of an expression is scanned as one token.** -/
theorem Expressible.plain (h : Expressible names e) : AllPlain e.words := by
  have hclose : ∀ {text : String}, text ∈ expressionPuncts → AllPlain [punct text] :=
    fun h => (allPlain_punct h).mpr fun _ hw => (nomatch hw)
  have hname : ∀ {name : String}, Whole (.identifier, name) → AllPlain [(.identifier, name)] :=
    fun h => allPlain_word h (fun h => (nomatch h)) (fun h => (nomatch h))
  induction h with
  | int h => exact allPlain_word h (fun h => (nomatch h)) (fun h => (nomatch h))
  | ident h => exact hname h.whole
  | unary hop _ ih => exact (allPlain_punct (unaryOp_puncts _ hop)).mpr (ih.wordsAt 13)
  | @update op e isPostfix hop _ ih =>
    have htext : op.text ∈ expressionPuncts := by rcases hop with rfl | rfl <;> decide
    cases isPostfix with
    | false => exact (allPlain_punct htext).mpr (ih.wordsAt 13)
    | true => exact allPlain_append.mpr ⟨ih.wordsAt 14, hclose htext⟩
  | binary hop _ _ ihl ihr =>
    exact allPlain_append.mpr ⟨ihl.wordsAt _, (allPlain_punct (binaryOp_puncts _ hop)).mpr (ihr.wordsAt _)⟩
  | assign hop _ _ iht ihv =>
    exact allPlain_append.mpr ⟨iht.wordsAt 13, (allPlain_punct (assignOp_puncts _ hop)).mpr (ihv.wordsAt 1)⟩
  | conditional _ _ _ ihc iht ihe =>
    refine allPlain_append.mpr ⟨ihc.wordsAt 3, (allPlain_punct (by decide)).mpr ?_⟩
    exact allPlain_append.mpr ⟨iht, (allPlain_punct (by decide)).mpr (ihe.wordsAt 2)⟩
  | comma _ _ ihl ihr =>
    exact allPlain_append.mpr ⟨ihl, (allPlain_punct (by decide)).mpr (ihr.wordsAt 1)⟩
  | call _ _ ihf iha =>
    refine allPlain_append.mpr ⟨ihf.wordsAt 14, (allPlain_punct (by decide)).mpr ?_⟩
    exact allPlain_append.mpr ⟨allPlain_argumentWords iha, hclose (by decide)⟩
  | subscript _ _ ihb ihi =>
    refine allPlain_append.mpr ⟨ihb.wordsAt 14, (allPlain_punct (by decide)).mpr ?_⟩
    exact allPlain_append.mpr ⟨ihi, hclose (by decide)⟩
  | @member b name throughPointer _ hn ih =>
    have htext : (if throughPointer then "->" else ".") ∈ expressionPuncts := by
      cases throughPointer <;> decide
    exact allPlain_append.mpr ⟨ih.wordsAt 14, (allPlain_punct htext).mpr (hname hn)⟩

/-- **Scanning and parsing the text of an expression returns it**, and the parser stops at the token behind
    the text: a blank and any text may stand there whose first token does not continue the expression. -/
theorem expression_of_text (h : Expressible names e) {tail : String} {behind : List Token} {final : Token}
    (htail : Apart tail.toList)
    (hscan : scanFrom .parsing (Position.start.after e.text.toList) (Source.phaseTwo tail.toList) =
      .ok (behind ++ [final]))
    (hstop : Stops 0 (behind.getD 0 final)) (standard : Standard) :
    ∃ tokens, tokens.map Token.word = e.words ∧ scan .parsing (e.text ++ tail) = .ok (tokens ++ behind ++ [final]) ∧
      rulesWithin (depthFor (tokens ++ behind ++ [final]).length) .expression ⟨standard, final⟩
        ⟨tokens ++ behind, names⟩ = .ok (e, ⟨behind, names⟩) := by
  rw [Expr.text, Token.toList_intercalate] at hscan
  obtain ⟨tokens, hwords, htokens⟩ :=
    Token.scanFrom_spelling h.plain htail.phaseTwo
  refine ⟨tokens, hwords, ?_, ?_⟩
  · rw [scan, String.toList_append, Expr.text, Token.toList_intercalate,
      Token.phaseTwo_spelling h.plain htail, List.append_assoc]
    exact htokens _ hscan
  · have hlength : tokens.length = e.words.length := by rw [← hwords, List.length_map]
    have hdepth : 4 * (e.wordsAt 0).length ≤ depthFor (tokens ++ behind ++ [final]).length + gap 0 := by
      rw [Expr.wordsAt_zero, depthFor, List.length_append, List.length_append]
      omega
    have hreads : ReadsWithin ⟨standard, final⟩ names _ 0 (e.wordsAt 0) e := h.reads (Nat.zero_le 15) hdepth
    exact hreads tokens behind hwords hstop

/-- An assignment, a product of a sum, a comma among arguments and a postfix chain. -/
def mixedExpression : Expr Unit :=
  .comma ()
    (.assign () .plain (.ident () "a")
      (.binary () (.arith .mul) (.unary () .minus (.ident () "b"))
        (.binary () (.arith .add) (.ident () "c") (.int () "10"))))
    (.update () .increment
      (.member () (.call () (.ident () "f") [.ident () "x", .comma () (.ident () "y") (.ident () "z")]) "w"
        true) true)

example : mixedExpression.text = "a = - b * ( c + 10 ) , f ( x , ( y , z ) ) -> w ++" := by decide

theorem expression_of_mixed_text :
    ∃ (tokens : List Token) (semicolon final : Token), semicolon.word = punct ";" ∧
      scan .parsing (mixedExpression.text ++ " ;") = .ok (tokens ++ [semicolon] ++ [final]) ∧
      rulesWithin (depthFor (tokens ++ [semicolon] ++ [final]).length) .expression ⟨.gnu11, final⟩
        ⟨tokens ++ [semicolon], Names.initial⟩ = .ok (mixedExpression, ⟨[semicolon], Names.initial⟩) := by
  have hname : ∀ name ∈ ["a", "b", "c", "f", "x", "y", "z"], IsName Names.initial name := by
    decide +kernel
  have hident : ∀ name ∈ ["a", "b", "c", "f", "x", "y", "z"],
      Expressible Names.initial (.ident () name) := fun name h => .ident (hname name h)
  have hsum : Expressible Names.initial (.binary () (.arith .add) (.ident () "c") (.int () "10")) :=
    .binary (by decide) (hident "c" (by decide)) (.int (by decide +kernel))
  have hargs : ∀ a ∈ [Expr.ident () "x", .comma () (.ident () "y") (.ident () "z")],
      Expressible Names.initial a :=
    List.forall_mem_cons.mpr ⟨hident "x" (by decide),
      List.forall_mem_singleton.mpr (.comma (hident "y" (by decide)) (hident "z" (by decide)))⟩
  have hexpressible : Expressible Names.initial mixedExpression :=
    .comma (.assign (by decide) (hident "a" (by decide))
      (.binary (by decide) (.unary (by decide) (hident "b" (by decide))) hsum))
      (.update (.inl rfl) (.member (.call (hident "f" (by decide)) hargs) (by decide +kernel)))
  have hscan : scanFrom .parsing (Position.start.after mixedExpression.text.toList)
      (Source.phaseTwo " ;".toList) = .ok ([⟨.punctuator, ";", 1, 52⟩] ++ [⟨.endOfFile, "", 1, 53⟩]) := by
    cbv
  have hblank : Apart " ;".toList := rfl
  obtain ⟨tokens, -, hscanned, hparsed⟩ := expression_of_text hexpressible hblank hscan
    (stops_punct rfl (by decide)) .gnu11
  exact ⟨tokens, _, _, rfl, hscanned, hparsed⟩

end Grammar

end CCompiler
