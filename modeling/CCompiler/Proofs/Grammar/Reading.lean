import CCompiler.Grammar.SourceUnit
import CCompiler.Proofs.Steps
import CCompiler.Proofs.Token.Spelling

/-!
# What parsing actions answer

A parsing action that succeeds answers something at a cursor and leaves another cursor. Everything that is
proved about the parser is put together from such facts.

* `Runs` -- an action answers at a cursor and leaves another;
* `Steps`, `Runs.repeatStep` -- steps of a loop that consume tokens, and the loop made of them.
-/
namespace CCompiler

namespace Token

theorem isPunct_eq {t : Token} (h : t.word = w) (text : String) : t.isPunct text = (w == punct text) := by
  subst h
  rfl

theorem isPunct_punct {t : Token} (h : t.word = punct s) (text : String) :
    t.isPunct text = (s == text) := by
  rw [isPunct_eq h]
  show (TokenKind.punctuator == TokenKind.punctuator && s == text) = (s == text)
  rw [beq_self_eq_true, Bool.true_and]

theorem isPunct_self {t : Token} (h : t.word = punct s) : t.isPunct s :=
  (isPunct_punct h s).trans (beq_self_eq_true s)

/-- Tokens that are no punctuators. -/
theorem isPunct_of_kind {t : Token} (h : t.kind ≠ .punctuator) (text : String) : t.isPunct text = false := by
  unfold isPunct
  rw [beq_eq_false_iff_ne.mpr h, Bool.false_and]

theorem kind_of_isPunct {t : Token} (h : t.isPunct text) : t.kind = .punctuator :=
  beq_iff_eq.mp (Bool.and_eq_true_iff.mp h).1

theorem word_of_isPunct {t : Token} (h : t.isPunct text) : t.word = punct text :=
  Prod.ext (kind_of_isPunct h) (beq_iff_eq.mp (Bool.and_eq_true_iff.mp h).2)

theorem isPunct_ne {t : Token} (h : t.isPunct text) (hne : text ≠ other) :
    t.isPunct other = false := by
  have htext : t.lexeme = text := beq_iff_eq.mp (Bool.and_eq_true_iff.mp h).2
  rw [isPunct, htext, beq_eq_false_iff_ne.mpr hne, Bool.and_false]

theorem isKeyword_of_kind {t : Token} (h : t.kind ≠ .keyword) (text : String) : t.isKeyword text = false := by
  unfold isKeyword
  rw [beq_eq_false_iff_ne.mpr h, Bool.false_and]

end Token

namespace Grammar

/-- An action answers at a cursor and leaves another. -/
def Runs {β : Type} (setting : Setting) (p : Parse β) (c : Cursor) (b : β) (c' : Cursor) : Prop :=
  p setting c = .ok (b, c')

/-- The token at a cursor, the end token if nothing is left. -/
def Setting.next (setting : Setting) (rest : List Token) : Token := rest.getD 0 setting.final

variable {β γ σ : Type} {setting : Setting} {c c1 c2 : Cursor}

variable {p : Parse β} {f : β → Parse γ} {a : β}

theorem Runs.bind (h : Runs setting p c a c1) (h' : Runs setting (f a) c1 b c2) :
    Runs setting (p >>= f) c b c2 := run_bind.mpr ⟨_, h, h'⟩

/-- An action in two parts succeeds only when both parts do. -/
theorem Runs.of_bind (h : Runs setting (p >>= f) c b c2) :
    ∃ a c1, Runs setting p c a c1 ∧ Runs setting (f a) c1 b c2 := by
  obtain ⟨r, hp, hf⟩ := run_bind.mp h
  exact ⟨r.1, r.2, hp, hf⟩

/-- What follows an action that succeeds. -/
theorem Runs.unbind (h : Runs setting p c a c1) (h' : Runs setting (p >>= f) c b c2) :
    Runs setting (f a) c1 b c2 := by
  obtain ⟨r, hp, hf⟩ := run_bind.mp h'
  cases h.symm.trans hp
  exact hf

theorem Runs.unique (h : Runs setting p c a c1) (h' : Runs setting p c b c2) : a = b ∧ c1 = c2 :=
  Prod.mk.inj (Except.ok.inj (h.symm.trans h'))

theorem Runs.pure (b : β) : Runs setting (pure b) c b c := rfl

theorem Runs.map (f : β → γ) (h : Runs setting p c a c1) : Runs setting (f <$> p) c (f a) c1 := by
  show (p setting c >>= fun r => Pure.pure (f r.1, r.2)) = _
  rw [h]
  rfl

theorem Runs.discard (h : Runs setting p c a c1) : Runs setting (discard p) c .unit c1 := h.map _

section Tokens

variable {t : Token} {rest : List Token} {names : Names} {text : String}

theorem runs_current : Runs setting current c (setting.next c.rest) c := rfl

theorem runs_names : Runs setting Grammar.names c c.names c := rfl

theorem runs_advance : Runs setting advance ⟨t :: rest, names⟩ t ⟨rest, names⟩ := rfl

theorem runs_atPunct (h : (setting.next c.rest).isPunct text = b) : Runs setting (atPunct text) c b c :=
  h ▸ rfl

theorem runs_atPuncts (h : texts.any (setting.next c.rest).isPunct = b) :
    Runs setting (atPuncts texts) c b c := h ▸ rfl

theorem runs_atKeyword (h : (setting.next c.rest).isKeyword text = b) : Runs setting (atKeyword text) c b c := h ▸ rfl

theorem runs_acceptPunct (h : t.word = punct text) :
    Runs setting (acceptPunct text) ⟨t :: rest, names⟩ true ⟨rest, names⟩ :=
  .bind (runs_atPunct (Token.isPunct_self h)) rfl

theorem runs_acceptPunct_not (h : (setting.next c.rest).isPunct text = false) :
    Runs setting (acceptPunct text) c false c := (runs_atPunct h).bind rfl

/-- A token that stands here is not the punctuator that is asked for. -/
theorem runs_acceptPunct_other (h : t.isPunct text = false) :
    Runs setting (acceptPunct text) ⟨t :: rest, names⟩ false ⟨t :: rest, names⟩ :=
  runs_acceptPunct_not h

theorem runs_expectPunct (h : t.word = punct text) :
    Runs setting (expectPunct text) ⟨t :: rest, names⟩ () ⟨rest, names⟩ :=
  .bind (runs_atPunct (Token.isPunct_self h)) rfl

theorem runs_expectIdentifier (h : t.kind = .identifier) :
    Runs setting expectIdentifier ⟨t :: rest, names⟩ t.lexeme ⟨rest, names⟩ := by
  have hkind : Runs setting (expectKind .identifier) ⟨t :: rest, names⟩ t ⟨rest, names⟩ := by
    refine runs_current.bind (b := t) ?_
    show Runs setting (if t.kind = .identifier then _ else _) _ _ _
    rw [if_pos h]
    rfl
  exact hkind.map _

end Tokens

/-- Some steps of a loop, each of which consumes a token. -/
inductive Steps (setting : Setting) (step : σ → Parse (σ ⊕ β)) : σ → Cursor → σ → Cursor → Prop where
  | refl (s : σ) (c : Cursor) : Steps setting step s c s c
  | head {s s1 s2 : σ} {c c1 c2 : Cursor} (h : Runs setting (step s) c (.inl s1) c1)
      (hlt : c1.rest.length < c.rest.length) (more : Steps setting step s1 c1 s2 c2) :
      Steps setting step s c s2 c2

section Loops

variable {step : σ → Parse (σ ⊕ β)} {s s1 s2 : σ} {b : β} (h : Steps setting step s c s1 c1)
include h

theorem Steps.trans (h' : Steps setting step s1 c1 s2 c2) : Steps setting step s c s2 c2 := by
  induction h with
  | refl => exact h'
  | head hstep hlt _ ih => exact .head hstep hlt (ih h')

theorem Steps.tail (hstep : Runs setting (step s1) c1 (.inl s2) c2) (hlt : c2.rest.length < c1.rest.length) :
    Steps setting step s c s2 c2 :=
  h.trans (.head hstep hlt (.refl _ _))

/-- A loop has enough rounds when it has one for each token that is left. -/
theorem Steps.iterate (hb : c.rest.length ≤ bound.length) (hdone : Runs setting (step s1) c1 (.inr b) c2) :
    Runs setting (iterate step bound s) c b c2 := by
  induction h generalizing bound with
  | refl =>
    cases bound <;> exact hdone.bind (.pure b)
  | head hstep hlt _ ih =>
    cases bound with
    | nil =>
      rw [List.length_nil] at hb
      omega
    | cons _ bound =>
      rw [List.length_cons] at hb
      exact hstep.bind (ih (by omega) hdone)

/-- **A loop answers what its last step answers.** -/
theorem Runs.repeatStep (hdone : Runs setting (step s1) c1 (.inr b) c2) : Runs setting (repeatStep s step) c b c2 :=
  h.iterate (Nat.le_refl _) hdone

end Loops

section Collecting

variable {test : Parse Bool} {action : Parse β} {results : List β} {b : β}

theorem runs_whileStep (ht : Runs setting test c true c1) (ha : Runs setting action c1 b c2) :
    Runs setting (whileStep test action results) c (.inl (b :: results)) c2 :=
  ht.bind (ha.bind (.pure _))

theorem Runs.whileTrue (h : Steps setting (whileStep test action) [] c results c1)
    (ht : Runs setting test c1 false c2) :
    Runs setting (whileTrue test action) c results.reverse c2 :=
  Runs.repeatStep h (ht.bind (.pure _))

end Collecting

end Grammar

end CCompiler
