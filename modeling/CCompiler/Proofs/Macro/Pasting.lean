import CCompiler.Proofs.Macro.Rescanning
import CCompiler.Proofs.Token.Spelling

/-!
# What pasting makes of operands

Operands with `##` between them are pasted from the left. An empty one leaves the other as it is. Two empty
ones leave nothing, and then a `##` behind them takes what stands before them as its operand.

* `paste_operands` -- operands become the token that their spellings put together are;
* `paste_two_empty` -- two empty operands vanish together with the `##` between them;
* `replace_chain` -- the operands in a replacement are arguments as they are written;
* `MacroToken.ofText?_comma` -- a comma before a token is a token of its own.
-/
namespace CCompiler.Macro

open List
open Preprocess (Failure Location)

variable {ctx : Context} {standard : Standard} {location : Location} {done u v rest : List MacroToken}

variable {t first second whole : MacroToken} {before operands : List MacroToken}

/-! ## 1. Operands -/

/-- A name or a number: what its spelling is read as. -/
def IsWord (t : MacroToken) : Prop :=
  MacroToken.ofText? t.text = .ok (some [t]) ∧ (t.kind = .identifier ∨ t.kind = .number)

/-- An operand of `##`: a name, a number, or nothing. -/
def IsOperand (t : MacroToken) : Prop := t = .empty ∨ IsWord t

def hashes : MacroToken := ⟨.punctuator, "##"⟩

/-- Operands, each behind `##`. -/
def pastes (operands : List MacroToken) : List MacroToken := operands.flatMap fun o => [hashes, o]

/-- The spellings of tokens, put together. -/
def joined (tokens : List MacroToken) : String := String.join (tokens.map (·.text))

theorem joined_nil : joined [] = "" := rfl

theorem joined_cons (t : MacroToken) (tokens : List MacroToken) : joined (t :: tokens) = t.text ++ joined tokens := by
  simp [joined]

theorem ofText?_empty : MacroToken.ofText? "" = .ok (some []) := by decide +kernel

theorem IsWord.text_not_mem (h : IsWord t) : t.text ∉ ["", "##", ","] := by
  obtain ⟨hscan, hkind⟩ := h
  intro hmem
  have hhashes : MacroToken.ofText? "##" = .ok (some [hashes]) := by decide +kernel
  have hcomma : MacroToken.ofText? "," = .ok (some [.comma]) := by decide +kernel
  simp only [mem_cons, not_mem_nil, or_false] at hmem
  rcases hmem with htext | htext | htext
  · simp [htext, ofText?_empty] at hscan
  · cases hhashes.symm.trans (htext ▸ hscan)
    simp [hashes] at hkind
  · cases hcomma.symm.trans (htext ▸ hscan)
    simp [MacroToken.comma] at hkind

theorem IsOperand.text_ne (h : IsOperand t) : t.text ≠ "##" := by
  rcases h with rfl | h
  · decide
  · exact fun htext => h.text_not_mem (by simp [htext])

theorem IsOperand.word (h : IsOperand t) (hne : t.text ≠ "") : IsWord t :=
  h.resolve_left fun heq => hne (by rw [heq]; rfl)

/-- An operand is known by its spelling. -/
theorem IsOperand.ext (h : IsOperand t) (hk : IsOperand k) (htext : t.text = k.text) : t = k := by
  by_cases hne : t.text = ""
  · have hempty {o : MacroToken} (ho : IsOperand o) (hoe : o.text = "") : o = .empty :=
      ho.resolve_right fun hw => hw.text_not_mem (by simp [hoe])
    rw [hempty h hne, hempty hk (htext ▸ hne)]
  · have hscan := (h.word hne).1.symm.trans (htext ▸ (hk.word (htext ▸ hne)).1)
    simpa using hscan

/-! ## 2. Pastes from the left -/

theorem pasteFrom_hashes {left right : MacroToken} {after : List MacroToken} :
    pasteFrom standard location (left :: before) (hashes :: right :: after) =
      (pastePair standard location left right).bind fun pasted =>
        pasteFrom standard location before (pasted.toList ++ after) := by
  rw [pasteFrom.eq_def]
  simp only [hashes, ne_eq, not_true_eq_false, if_false]
  rcases pastePair standard location left right with failure | _ | pasted <;> rfl

/-- A word before operands becomes the word that all of them are together. -/
theorem pasteFrom_word {word : MacroToken} (hword : IsWord word) (hoperands : ∀ o ∈ operands, IsOperand o)
    (hfront : ∀ n, ∃ o, IsOperand o ∧ o.text = word.text ++ joined (operands.take n))
    (hwhole : IsOperand whole) (htext : whole.text = word.text ++ joined operands) :
    pasteFrom standard location (word :: before) (pastes operands ++ rest) =
      pasteFrom standard location (whole :: before) rest := by
  -- the word grows by one operand at a time
  induction operands generalizing word with
  | nil =>
    rw [hwhole.ext (.inr hword) (by simp [htext, joined])]
    rfl
  | cons o operands ih =>
    obtain ⟨ho, hoperands⟩ := forall_mem_cons.mp hoperands
    have htexts := hword.text_not_mem
    simp only [mem_cons, not_mem_nil, or_false, not_or] at htexts
    obtain ⟨hne, hhashes, hcomma⟩ := htexts
    simp only [joined_cons, ← String.append_assoc] at htext
    show pasteFrom _ _ _ (hashes :: o :: (pastes operands ++ rest)) = _
    rw [pasteFrom_hashes]
    by_cases hempty : o.text = ""
    · have hpair : pastePair standard location word o = .ok (some word) := by
        simp [pastePair, hne, hempty, hcomma]
      rw [hpair]
      refine (pasteFrom_cons hhashes).trans (ih hword hoperands (fun n => ?_) (by simpa [hempty] using htext))
      simpa [joined_cons, hempty] using hfront (n + 1)
    · obtain ⟨next, hnext, hnextText⟩ := hfront 1
      rw [take_succ_cons, take_zero, joined_cons, joined_nil, String.append_empty] at hnextText
      have hnextWord : IsWord next := hnext.word (by simp [hnextText, hne])
      have hpair : pastePair standard location word o = .ok (some next) := by
        rw [pastePair, if_neg hne, if_neg hempty, ← hnextText, hnextWord.1]
      rw [hpair]
      refine (pasteFrom_cons hnext.text_ne).trans (ih hnextWord hoperands (fun n => ?_) (hnextText ▸ htext))
      simpa [joined_cons, hnextText, String.append_assoc] using hfront (n + 1)

section Operands

variable (hordinary : ∀ t ∈ u ++ v, t.text ∉ ["##", ""]) (hoperands : ∀ o ∈ first :: second :: operands, IsOperand o)
  (hfront : ∀ n, ∃ o, IsOperand o ∧ o.text = joined ((first :: second :: operands).take n))
  (hfirst : operands = [] ∨ first.text ≠ "" ∨ second.text ≠ "") (hwhole : IsOperand whole)
  (htext : whole.text = joined (first :: second :: operands))

include hoperands hfront hfirst hwhole htext

/-- Operands become the token that they are together, and nothing if they are all empty. Nothing but the last
    of the operands may follow if the first two are empty. -/
theorem pasteFrom_operands : pasteFrom standard location before (first :: pastes (second :: operands) ++ rest) =
    pasteFrom standard location ([whole].filter (·.text ≠ "") ++ before) rest := by
  obtain ⟨ho, hoperands⟩ := forall_mem_cons.mp hoperands
  obtain ⟨ho', hlater⟩ := forall_mem_cons.mp hoperands
  rw [cons_append, pasteFrom_cons ho.text_ne]
  by_cases hne : first.text = ""
  · show pasteFrom _ _ _ (hashes :: second :: (pastes operands ++ rest)) = _
    rw [pasteFrom_hashes]
    simp only [joined_cons, hne, String.empty_append] at htext
    by_cases hne' : second.text = ""
    · obtain rfl := hfirst.resolve_right (by simp [hne, hne'])
      have hempty : whole.text = "" := by rw [htext, hne', joined_nil, String.append_empty]
      have hpair : pastePair standard location first second = .ok none := by simp [pastePair, hne, hne']
      rw [hpair, filter_cons_of_neg (by simp [hempty])]
      rfl
    · have hpair : pastePair standard location first second = .ok (some second) := by simp [pastePair, hne, hne']
      have hkept : whole.text ≠ "" := by simp [htext, hne']
      rw [hpair, filter_cons_of_pos (by simpa using hkept)]
      refine (pasteFrom_cons ho'.text_ne).trans (pasteFrom_word (ho'.word hne') hlater (fun n => ?_) hwhole htext)
      simpa [joined_cons, hne] using hfront (n + 2)
  · rw [joined_cons] at htext
    have hkept : whole.text ≠ "" := by simp [htext, hne]
    rw [filter_cons_of_pos (by simpa using hkept)]
    exact pasteFrom_word (ho.word hne) hoperands (fun n => by simpa [joined_cons] using hfront (n + 1)) hwhole htext

include hordinary

/-- **Operands become one token.** -/
theorem paste_operands : paste standard location (u ++ (first :: pastes (second :: operands) ++ v)) =
    .ok (u ++ ([whole].filter (·.text ≠ "") ++ v)) := by
  obtain ⟨hu, hv⟩ := forall_mem_append.mp hordinary
  have hhashes {t : MacroToken} (h : t.text ∉ ["##", ""]) : t.text ≠ "##" := fun htext => h (by simp [htext])
  have hkept {ts : List MacroToken} (h : ∀ t ∈ ts, t.text ∉ ["##", ""]) : ts.filter (·.text ≠ "") = ts :=
    filter_eq_self.mpr fun t ht => by simpa using fun htext => h t ht (by simp [htext])
  rw [paste, pasteFrom_append fun t ht => hhashes (hu t ht), append_nil,
    pasteFrom_operands hoperands hfront hfirst hwhole htext, pasteFrom_end fun t ht => hhashes (hv t ht)]
  show Except.ok (List.filter _ _) = _
  rw [reverse_append, reverse_reverse, append_assoc,
    filter_append, filter_append, hkept hu, hkept hv, ← filter_reverse, reverse_singleton,
    filter_filter]
  simp only [Bool.and_self]

end Operands

/-- Two empty operands vanish, and a `##` behind them takes what stands before them. -/
theorem paste_two_empty
    (hu : ∀ t ∈ u, t.text ≠ "##") (hfirst : first.text = "") (hsecond : second.text = "") :
    paste standard location (u ++ (first :: pastes (second :: operands) ++ v)) =
      paste standard location (u ++ (pastes operands ++ v)) := by
  have hpair : pastePair standard location first second = .ok none := by simp [pastePair, hfirst, hsecond]
  rw [paste, paste, pasteFrom_append hu, pasteFrom_append hu, cons_append, pasteFrom_cons (by simp [hfirst])]
  show Except.map _ (pasteFrom _ _ _ (hashes :: second :: (pastes operands ++ v))) = _
  rw [pasteFrom_hashes, hpair]
  rfl

/-! ## 3. Arguments as operands -/

section Substitution

variable {b : Binding} {m : Macro} {params : List String} {args : List Argument} {t : MacroToken}

variable {name : String} {isPasted : Bool}

theorem lookup_of (h : name ∉ params) : (Binding.of m params args).named.lookup name = none := by
  refine lookup_eq_none_iff.mpr fun entry hentry => ?_
  have hmem : entry.1 ∈ params := (of_mem_zip hentry).1
  simpa using fun heq : name = entry.1 => h (heq ▸ hmem)

/-- A token that is no parameter stands for nothing. -/
theorem get?_of (h : name ∉ "__VA_ARGS__" :: params) : (Binding.of m params args).get? name = none := by
  rw [mem_cons, not_or] at h
  simp [Binding.get?, lookup_of h.2, h.1]

/-- What a token of a replacement is next to `##`: an argument of at most one token, or the token itself. -/
def operandOf (b : Binding) (t : MacroToken) : MacroToken :=
  (b.get? t.text).elim t fun argument => argument.raw.headD .empty

theorem substituteOne_operand (h : (b.get? t.text).all (·.raw.length ≤ 1)) :
    substituteOne b true t = [operandOf b t] := by
  unfold substituteOne operandOf
  cases ha : b.get? t.text with
  | none => rfl
  | some a =>
    simp only [ha, Option.all_some, decide_eq_true_eq] at h
    rcases hraw : a.raw with _ | ⟨k, _ | ⟨k', more⟩⟩
    · simp [hraw]
    · simp [hraw]
    · simp [hraw] at h

theorem substituteFrom_cons (h : t.text ≠ "#") :
    substituteFrom b isPasted (t :: rest) =
      substituteOne b (isPasted || rest.head?.any (·.text == "##")) t ++
        substituteFrom b (t.text == "##") rest := by
  cases rest <;> simp [substituteFrom, h]

theorem substituteFrom_ordinary (h : ∀ t ∈ u, b.get? t.text = none ∧ t.text ∉ ["#", "##"])
    (rest : List MacroToken) : substituteFrom b false (u ++ rest) = u ++ substituteFrom b false rest := by
  induction u with
  | nil => rfl
  | cons t u ih =>
    obtain ⟨⟨hget, htext⟩, hu⟩ := forall_mem_cons.mp h
    simp only [mem_cons, not_mem_nil, or_false, not_or] at htext
    rw [cons_append, substituteFrom_cons htext.1, substituteOne, hget, beq_eq_false_iff_ne.mpr htext.2, ih hu]
    rfl

theorem substituteFrom_pastes (hhashes : b.get? "##" = none)
    (h : ∀ t ∈ p :: ps, t.text ∉ ["#", "##"] ∧ (b.get? t.text).all (·.raw.length ≤ 1))
    (hpasted : isPasted ∨ ps ≠ []) :
    substituteFrom b isPasted (p :: pastes ps ++ rest) =
      operandOf b p :: pastes (ps.map (operandOf b)) ++ substituteFrom b false rest := by
  induction ps generalizing p isPasted with
  | nil =>
    obtain ⟨⟨htext, hlength⟩, -⟩ := forall_mem_cons.mp h
    simp only [mem_cons, not_mem_nil, or_false, not_or] at htext
    obtain rfl := hpasted.resolve_right (by simp)
    show substituteFrom b true (p :: rest) = _
    rw [substituteFrom_cons htext.1, Bool.true_or, substituteOne_operand hlength, beq_eq_false_iff_ne.mpr htext.2]
    rfl
  | cons q ps ih =>
    obtain ⟨⟨htext, hlength⟩, hps⟩ := forall_mem_cons.mp h
    simp only [mem_cons, not_mem_nil, or_false, not_or] at htext
    show substituteFrom b isPasted (p :: hashes :: (q :: pastes ps ++ rest)) = _
    have hpaste (isPasted : Bool) : substituteOne b isPasted hashes = [hashes] := by
      simp [substituteOne, hashes, hhashes]
    have hnext : (isPasted || (some hashes).any (·.text == "##")) := by simp [hashes]
    rw [substituteFrom_cons htext.1, head?_cons, hnext, substituteOne_operand hlength,
      substituteFrom_cons (by decide), hpaste,
      show (hashes.text == "##") = true from rfl, ih hps (.inl rfl)]
    rfl

/-- Tokens of a replacement that can be pasted: each is a name or a number, or stands for an argument that is
    one or is empty, and as many of them as are put together from the left, they are one too, or nothing. -/
structure Chain (b : Binding) (ps : List MacroToken) : Prop where
  single : ∀ t ∈ ps, t.text ∉ ["#", "##"] ∧ (b.get? t.text).all (·.raw.length ≤ 1) = true
  operand : ∀ t ∈ ps, IsOperand (operandOf b t)
  front : ∀ n, ∃ o, IsOperand o ∧ o.text = joined ((ps.map (operandOf b)).take n)

variable {p q : MacroToken} {ps : List MacroToken} (hb : b = .of m params args)
  (hreplacement : m.replacement = u ++ (p :: pastes (q :: ps) ++ v))
  (hordinary : ∀ t ∈ u ++ v, t.text ∉ ["", "#", "##"] ++ "__VA_ARGS__" :: params) (hparams : "##" ∉ params)
  (h : Chain b (p :: q :: ps))
include hb hreplacement hordinary hparams h

theorem replace_chain : replace ctx m params args = paste ctx.standard ctx.location
    (u ++ (operandOf b p :: pastes ((q :: ps).map (operandOf b)) ++ v)) := by
  have hstay {ts : List MacroToken} (hts : ∀ t ∈ ts, t ∈ u ++ v) :
      ∀ t ∈ ts, b.get? t.text = none ∧ t.text ∉ ["#", "##"] := fun t ht => by
    have := hordinary t (hts t ht)
    refine ⟨hb ▸ get?_of fun hmem => this (mem_append_right _ hmem), fun hmem => this ?_⟩
    exact mem_append_left _ (mem_cons_of_mem _ hmem)
  have hv : substituteFrom b false v = v := by
    simpa [substituteFrom] using substituteFrom_ordinary (hstay fun t ht => mem_append_right u ht) []
  rw [replace, ← hb, hreplacement, substituteFrom_ordinary (hstay fun t ht => mem_append_left v ht),
    substituteFrom_pastes (hb ▸ get?_of (by simp [hparams])) h.single (.inr (by simp)), hv]

/-- **What pasting makes of a replacement.** Of a macro with parameters: where the first two operands are not
    both empty, or are all there are, the operands become one token between what stands around them. Where
    both are empty they vanish, and what stands before them is pasted with what follows. Of a macro without
    parameters: the replacement stays as it is, with every `##` in it. -/
theorem replacement_pasted : (ps = [] ∨ operandOf b p ≠ .empty ∨ operandOf b q ≠ .empty →
      ∃ whole, IsOperand whole ∧ whole.text = joined ((p :: q :: ps).map (operandOf b)) ∧
        replace ctx m params args = .ok (u ++ ([whole].filter (·.text ≠ "") ++ v))) ∧
    (operandOf b p = .empty → operandOf b q = .empty → replace ctx m params args =
      paste ctx.standard ctx.location (u ++ (pastes (ps.map (operandOf b)) ++ v))) ∧
    ∀ disabled rest, m.params = none → Stands ctx disabled ⟨.identifier, m.name⟩ m →
      (∀ t ∈ m.replacement, Inert ctx (m.name :: disabled) t) →
      expandTokens ctx disabled (⟨.identifier, m.name⟩ :: rest) =
        (m.replacement ++ ·) <$> expandTokens ctx disabled rest := by
  have hreplace : replace ctx m params args = _ := replace_chain hb hreplacement hordinary hparams h
  have hplain : ∀ t ∈ u ++ v, t.text ∉ ["##", ""] := fun t ht hmem => by
    simp only [List.mem_cons, List.not_mem_nil, or_false] at hmem
    exact hordinary t ht (by simp only [List.mem_append, List.mem_cons]; tauto)
  refine ⟨fun hfirst => ?_, fun hp hq => ?_, fun disabled rest hobject hstands hinert =>
    expandTokens_object rfl hstands hobject hinert⟩
  · have hempty {t : MacroToken} (ht : t ∈ p :: q :: ps) (hne : operandOf b t ≠ .empty) :
        (operandOf b t).text ≠ "" := fun htext =>
      hne ((h.operand t ht).ext (.inl rfl) htext)
    obtain ⟨whole, hwhole, htext⟩ := h.front (ps.length + 2)
    rw [List.take_of_length_le (by simp)] at htext
    refine ⟨whole, hwhole, htext, hreplace.trans ?_⟩
    refine paste_operands hplain (List.forall_mem_map.mpr h.operand) h.front ?_ hwhole htext
    rw [List.map_eq_nil_iff]
    exact hfirst.imp_right (Or.imp (hempty (by simp)) (hempty (by simp)))
  · rw [hreplace]
    exact paste_two_empty (fun t ht htext => hplain t (List.mem_append_left _ ht) (by simp [htext]))
      (by rw [hp]; rfl) (by rw [hq]; rfl)

omit hb hreplacement hordinary hparams h

/-- A macro that pastes its three arguments between two names. -/
def pastingMacro : Macro :=
  ⟨"m", ⟨.identifier, "u"⟩ :: ⟨.identifier, "a"⟩ :: (pastes [⟨.identifier, "b"⟩, ⟨.identifier, "c"⟩] ++
    [⟨.identifier, "v"⟩]), some ["a", "b", "c"], false⟩

/-- Three arguments, the second of them empty. -/
def pastedArguments : List Argument := [⟨[⟨.identifier, "x"⟩], []⟩, ⟨[], []⟩, ⟨[⟨.number, "1"⟩], []⟩]

theorem operands_around_empty :
    Chain (.of pastingMacro ["a", "b", "c"] pastedArguments)
        [⟨.identifier, "a"⟩, ⟨.identifier, "b"⟩, ⟨.identifier, "c"⟩] ∧
      replace mutualMacros pastingMacro ["a", "b", "c"] pastedArguments =
        .ok [⟨.identifier, "u"⟩, ⟨.identifier, "x1"⟩, ⟨.identifier, "v"⟩] := by
  have hx : IsOperand ⟨.identifier, "x"⟩ := .inr ⟨by decide +kernel, .inl rfl⟩
  have hone : IsOperand ⟨.number, "1"⟩ := .inr ⟨by decide +kernel, .inr rfl⟩
  have hwhole : IsOperand ⟨.identifier, "x1"⟩ := .inr ⟨by decide +kernel, .inl rfl⟩
  have hchain : Chain (.of pastingMacro ["a", "b", "c"] pastedArguments)
      [⟨.identifier, "a"⟩, ⟨.identifier, "b"⟩, ⟨.identifier, "c"⟩] :=
    { single := by decide
      operand := by simpa using ⟨hx, .inl rfl, hone⟩
      front
        | 0 => ⟨.empty, .inl rfl, rfl⟩
        | 1 | 2 => ⟨_, hx, rfl⟩
        | n + 3 => ⟨_, hwhole, by rw [List.take_of_length_le (by simp)]; rfl⟩ }
  obtain ⟨whole, hoperand, htext, hreplace⟩ :=
    (replacement_pasted (u := [⟨.identifier, "u"⟩]) rfl rfl (by decide) (by decide)
      hchain).1 (.inr (.inl (by decide)))
  obtain rfl := hoperand.ext hwhole htext
  exact ⟨hchain, hreplace⟩

/-- The first two of three operands are empty, and the third is pasted with the name before them. Without
    parameters nothing is pasted. -/
theorem operand_reaches_back :
    replace mutualMacros pastingMacro ["a", "b", "c"] [⟨[], []⟩, ⟨[], []⟩, ⟨[⟨.identifier, "x"⟩], []⟩] =
        .ok [⟨.identifier, "ux"⟩, ⟨.identifier, "v"⟩] ∧
      expand { mutualMacros with macros := [{ pastingMacro with params := none }] } [⟨.identifier, "m"⟩] 0 =
        (.ok pastingMacro.replacement, 0) := by
  refine ⟨by decide +kernel, ?_⟩
  rw [expand, expandTokens_object rfl ⟨rfl, by decide, by decide⟩ rfl (by decide), expandTokens]
  rfl

end Substitution

end CCompiler.Macro

namespace CCompiler

open List
open Text (Position)

/-! ## 4. A comma before variable arguments -/

namespace Token

/-- The tokens of macros that a scan answers. -/
def ofScan? (answer : Except LexError (List Token)) : Except LexError (Option (List MacroToken)) :=
  match answer with
  | .ok tokens => .ok (some ((tokens.filter (!·.isEnd)).map fun t => ⟨t.kind, t.lexeme⟩))
  | .error (.at ..) => .ok none
  | .error (.noValue digits) => .error (.noValue digits)

/-- Where a text starts makes no difference for its tokens. -/
theorem ofScan?_scanFrom (mode : LexMode) (p q : Position) (cs : List Char) :
    ofScan? (scanFrom mode p cs) = ofScan? (scanFrom mode q cs) := by
  have hlocated (fault : Fault) (p q : Position) (cs : List Char) :
      ofScan? (.error (fault.located p cs)) = ofScan? (.error (fault.located q cs)) := by
    cases fault <;> rfl
  induction hlength : cs.length using Nat.strongRecOn generalizing p q cs with
  | ind n ih =>
    subst hlength
    rw [scanFrom, scanFrom]
    cases hblank : blankLength cs with
    | error fault => exact hlocated ..
    | ok blank =>
      dsimp only
      split
      · rfl
      · rename_i hne
        cases hlex : lexemeAt mode (cs.drop blank) with
        | error fault => exact hlocated ..
        | ok lexeme =>
          obtain ⟨kind, n⟩ := lexeme
          dsimp only
          split
          · rfl
          · have hshort : ((cs.drop blank).drop n).length < cs.length := by
              simp only [List.isEmpty_iff, drop_eq_nil_iff, not_le] at hne
              simp only [length_drop]
              omega
            have hrest (p q : Position) := ih _ hshort p q _ rfl
            have hxy := hrest ((p.after (cs.take blank)).after ((cs.drop blank).take n))
              ((q.after (cs.take blank)).after ((cs.drop blank).take n))
            generalize scanFrom mode _ _ = x at hxy ⊢
            generalize scanFrom mode _ _ = y at hxy ⊢
            rcases x with (_ | _) | xs <;> rcases y with (_ | _) | ys <;> simp_all [ofScan?, filter_cons, isEnd]
            split <;> simp_all

theorem lexemeAt_comma (cs : List Char) : lexemeAt (.preprocessing false) (',' :: cs) = .ok (.punctuator, 1) := by
  have hliteral : literalPrefix? (',' :: cs) = none := by
    unfold literalPrefix?
    split <;> first
      | rfl
      | (rename_i heq; cases heq; try decide)
  have hnumber : startsNumber (',' :: cs) = false := by cases cs <;> rfl
  have hidentifier : startsIdentifier (',' :: cs) = false := by cases cs <;> rfl
  have hpunctuator : punctuatorLength (',' :: cs) = 1 := rfl
  simp [lexemeAt, hliteral, hnumber, hidentifier, hpunctuator]

theorem scanFrom_comma : scanFrom (.preprocessing false) p (',' :: cs) =
    (scanFrom (.preprocessing false) (p.after [',']) cs).map (⟨.punctuator, ",", p.line, p.column⟩ :: ·) := by
  rw [scanFrom, blankLength_zero (by decide) fun h => absurd h (by decide)]
  simp only [take_zero, drop_zero, isEmpty_cons, Bool.false_eq_true, if_false, lexemeAt_comma,
    one_ne_zero, take_succ_cons, drop_succ_cons, show p.after [] = p from rfl]
  rcases scanFrom (.preprocessing false) (p.after [',']) cs with _ | _ <;> rfl

end Token

/-- A comma before a token is a token of its own. -/
theorem MacroToken.ofText?_comma (h : MacroToken.ofText? t.text = .ok (some [t])) :
    MacroToken.ofText? ("," ++ t.text) = .ok (some [.comma, t]) := by
  have hplace := Token.ofScan?_scanFrom (.preprocessing false) (Position.start.after [',']) .start
    (Source.phaseTwo t.text.toList)
  have hscan : Token.ofScan? (Token.scan (.preprocessing false) t.text) = .ok (some [t]) := h
  have hcomma : Token.scan (.preprocessing false) ("," ++ t.text) =
      (Token.scanFrom (.preprocessing false) (Position.start.after [',']) (Source.phaseTwo t.text.toList)).map
        (⟨.punctuator, ",", 1, 1⟩ :: ·) := by
    rw [Token.scan, String.toList_append, show ",".toList ++ t.text.toList = ',' :: t.text.toList from rfl,
      Token.phaseTwo_cons (by decide), Token.scanFrom_comma]
    rfl
  rw [Token.scan] at hscan
  rw [hscan] at hplace
  show Token.ofScan? _ = _
  rw [hcomma]
  generalize Token.scanFrom _ _ _ = answer at hplace ⊢
  rcases answer with (_ | _) | ts
  · cases hplace
  · cases hplace
  · simp only [Token.ofScan?, Except.ok.injEq, Option.some.injEq] at hplace
    show Except.ok (some (MacroToken.comma :: List.map _ (ts.filter _))) = _
    rw [hplace]

namespace Macro

variable {ctx : Context} {b : Binding} {m : Macro} {params : List String} {args : List Argument}
  {u v rest : List MacroToken} {t : MacroToken}

/-- A token that is no parameter parts a replacement. -/
theorem substituteFrom_append (hget : b.get? t.text = none) (htext : t.text ≠ "##") :
    substituteFrom b isPasted (u ++ t :: rest) = substituteFrom b isPasted u ++ substituteFrom b false (t :: rest) := by
  have hstart (isPasted : Bool) : substituteFrom b isPasted (t :: rest) = substituteFrom b false (t :: rest) := by
    cases rest <;> simp [substituteFrom, substituteOne, hget]
  fun_induction substituteFrom b isPasted u with
  | case1 isPasted => exact hstart isPasted
  | case2 isPasted k =>
    show substituteFrom b isPasted (k :: t :: rest) = _
    rw [substituteFrom, hget, ite_self, hstart, beq_eq_false_iff_ne.mpr htext, Bool.or_false]
  | case3 isPasted k next more argument hargument ih =>
    rw [cons_append, cons_append, substituteFrom, hargument]
    exact congrArg (_ :: ·) ih
  | case4 isPasted k next more hargument ih =>
    rw [cons_append, cons_append, substituteFrom, hargument, append_assoc]
    exact congrArg (_ ++ ·) ih

/-- **What becomes of a comma before the variable arguments.** In the GNU dialect it vanishes with `##` if
    these arguments are empty: the replacement is what it is without that part. If they are not, the comma
    cannot be pasted with their first token, and the call is refused. -/
theorem variadic_comma (hgnu : ctx.standard = .gnu11) (hvariadic : m.isVariadic = true)
    (hparams : ∀ name ∈ [",", "##", "__VA_ARGS__"], name ∉ params)
    (hreplacement : m.replacement = u ++ .comma :: hashes :: ⟨.identifier, "__VA_ARGS__"⟩ :: v)
    (hb : b = .of m params args) (hu : ∀ t ∈ substituteFrom b false u, t.text ≠ "##") :
    (joinArguments ((args.drop params.length).map (·.raw)) = [] → replace ctx m params args =
      paste ctx.standard ctx.location (substituteFrom b false u ++ substituteFrom b false v)) ∧
    ∀ x xs, joinArguments ((args.drop params.length).map (·.raw)) = x :: xs →
      MacroToken.ofText? x.text = .ok (some [x]) →
      replace ctx m params args = .error (.at .invalidPasteResult ctx.location) := by
  have hcomma : b.get? "," = none := hb ▸ get?_of (by simpa using hparams "," (by simp))
  have hhashes : b.get? "##" = none := hb ▸ get?_of (by simpa using hparams "##" (by simp))
  have hreplace : replace ctx m params args = paste ctx.standard ctx.location (substituteFrom b false u ++
      (.comma :: hashes :: (substituteOne b true ⟨.identifier, "__VA_ARGS__"⟩ ++ substituteFrom b false v))) := by
    rw [replace, ← hb, hreplacement, substituteFrom_append (show b.get? MacroToken.comma.text = none from hcomma)
      (by decide), substituteFrom_cons (by decide), substituteFrom_cons (by decide), substituteFrom_cons (by decide)]
    simp only [substituteOne, show b.get? MacroToken.comma.text = none from hcomma,
      show b.get? hashes.text = none from hhashes, show (hashes.text == "##") = true from rfl, Bool.true_or]
    rfl
  obtain ⟨expanded, hget⟩ : ∃ expanded, b.get? "__VA_ARGS__" =
      some ⟨joinArguments ((args.drop params.length).map (·.raw)), expanded⟩ := by
    rw [hb, Binding.get?, lookup_of (hparams "__VA_ARGS__" (by simp))]
    simp only [Binding.of, hvariadic, if_true]
    exact ⟨_, rfl⟩
  have hfrom (right : MacroToken) (after : List MacroToken) :
      pasteFrom ctx.standard ctx.location [] (substituteFrom b false u ++ .comma :: hashes :: right :: after) =
        (pastePair .gnu11 ctx.location .comma right).bind fun pasted =>
          pasteFrom .gnu11 ctx.location (substituteFrom b false u).reverse (pasted.toList ++ after) := by
    rw [hgnu, pasteFrom_append hu, List.append_nil, pasteFrom_cons (by decide), pasteFrom_hashes]
  refine ⟨fun hnone => ?_, fun x xs hsome hx => ?_⟩
  · have hone : substituteOne b true ⟨.identifier, "__VA_ARGS__"⟩ = [.empty] := by
      rw [hnone] at hget
      simp [substituteOne, hget]
    rw [hreplace, hone, paste, paste, List.singleton_append, hfrom, pasteFrom_append hu, List.append_nil, hgnu]
    rfl
  · have hone : substituteOne b true ⟨.identifier, "__VA_ARGS__"⟩ = x :: xs := by
      rw [hsome] at hget
      simp [substituteOne, hget]
    have hne : x.text ≠ "" := fun htext => by simp [htext, ofText?_empty] at hx
    have hpair : pastePair .gnu11 ctx.location .comma x = .error (.at .invalidPasteResult ctx.location) := by
      rw [pastePair, if_neg (by decide), if_neg hne, show MacroToken.comma.text = "," from rfl,
        MacroToken.ofText?_comma hx]
    rw [hreplace, hone, paste, List.cons_append, hfrom, hpair]
    rfl

/-- A format and variable arguments behind a comma. -/
def logMacro : Macro :=
  ⟨"LOG", [⟨.identifier, "fmt"⟩, .comma, hashes, ⟨.identifier, "__VA_ARGS__"⟩], some ["fmt"], true⟩

/-- Without variable arguments the format is left alone. -/
theorem comma_vanishes :
    replace { mutualMacros with standard := .gnu11 } logMacro ["fmt"] [⟨[⟨.number, "0"⟩], [⟨.number, "0"⟩]⟩] =
      .ok [⟨.number, "0"⟩] :=
  ((variadic_comma (u := [⟨.identifier, "fmt"⟩]) rfl rfl (by decide) rfl rfl (by decide)).1 rfl).trans
    (by decide +kernel)

/-- With an argument behind the format the call is refused. -/
theorem comma_before_argument :
    replace { mutualMacros with standard := .gnu11 } logMacro ["fmt"]
        [⟨[⟨.number, "0"⟩], [⟨.number, "0"⟩]⟩, ⟨[⟨.number, "1"⟩], [⟨.number, "1"⟩]⟩] =
      .error (.at .invalidPasteResult mutualMacros.location) := by
  decide +kernel

end Macro

end CCompiler
