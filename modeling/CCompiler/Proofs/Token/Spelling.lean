import CCompiler.Proofs.Source.Seams
import CCompiler.Token.Scan
import Mathlib

/-!
# Words between blanks

A text that is made of words with single blanks between them is scanned into just these words.

* `Whole` -- the scanner reads a word as one token;
* `lexemeAt_append` -- it still does so when a blank follows;
* `scanFrom_spelling` -- the tokens of words with blanks between them.
-/
namespace CCompiler

open List

variable {p : Position} {x : Except Fault Nat} {tokens : List Token}

/-! ## 1. Words -/

/-- What the parser sees of a token: its kind and its spelling. -/
abbrev Word := TokenKind × String

/-- A punctuator. -/
def punct (text : String) : Word := (.punctuator, text)

/-- The kind and the spelling of a token. -/
def Token.word (t : Token) : Word := (t.kind, t.lexeme)

/-- The scanner reads a word as one token of its kind. -/
def Whole (w : Word) : Prop :=
  Token.lexemeAt .parsing w.2.toList = .ok (w.1, w.2.toList.length) ∧ w.2.toList ≠ []

instance (w : Word) : Decidable (Whole w) := inferInstanceAs (Decidable (_ ∧ _))

namespace Token

open Text (isLetter isDigit Position)

variable {c : Char} {cs rest : List Char} {kind : TokenKind}

/-! ## 2. Identifiers and numbers -/

/-- Nothing follows, or a blank does. -/
def Apart : List Char → Prop
  | [] => True
  | c :: _ => c = ' '

theorem Apart.cases (h : Apart rest) : rest = [] ∨ ∃ cs, rest = ' ' :: cs := by
  cases rest with
  | nil => exact .inl rfl
  | cons c cs => exact .inr ⟨cs, congrArg (· :: cs) h⟩

/-- The characters that mean something before tokens are formed. -/
def earlyChars : List Char := ['\r', '\n', '?']

/-- None of these characters is among some others. -/
def Plain (cs : List Char) : Prop := ∀ c ∈ earlyChars, c ∉ cs

theorem Plain.cons (hc : c ∉ earlyChars) (h : Plain cs) : Plain (c :: cs) := by
  intro d hd hm
  rcases mem_cons.mp hm with rfl | hm
  · exact hc hd
  · exact h d hd hm

theorem Plain.append (h : Plain cs) (h' : Plain ds) : Plain (cs ++ ds) := by
  intro d hd hm
  rcases mem_append.mp hm with hm | hm
  · exact h d hd hm
  · exact h' d hd hm

theorem shifted_eq_ok (h : shifted n x = .ok m) : ∃ k, x = .ok k ∧ m = n + k := by
  cases x with
  | error fault => cases h
  | ok k =>
    cases h
    exact ⟨k, rfl, rfl⟩

theorem of_shifted (h : shifted n x = .ok m) (hm : m = n + k) : x = .ok k := by
  obtain ⟨j, rfl, hj⟩ := shifted_eq_ok h
  rw [Nat.add_left_cancel (hm.symm.trans hj)]

theorem shifted_of (h : x = .ok k) (hm : m = n + k) : shifted n x = .ok m := by
  rw [h, hm]
  rfl

theorem map_eq_ok {β : Type} {f : Nat → β} {b : β} (h : x.map f = .ok b) : ∃ n, x = .ok n ∧ f n = b := by
  cases x with
  | error fault => cases h
  | ok n =>
    cases h
    exact ⟨n, rfl, rfl⟩

theorem not_early (h : f c) (hf : earlyChars.any f = false) : c ∉ earlyChars :=
  fun hc => any_eq_false.mp hf c hc h

/-- The digits of a universal character name, when more follows. -/
theorem universalDigits_append {count n : Nat} (h : universalDigits count cs = .ok n)
    (rest : List Char) : n = count ∧ count ≤ cs.length ∧ Plain (cs.take count) ∧
      universalDigits count (cs ++ rest) = .ok n := by
  have hlen : count ≤ ((cs.take count).takeWhile isEscapeDigit).length := by
    unfold universalDigits at h
    dsimp only at h
    split_ifs at h with hlt
    exact Nat.not_lt.mp hlt
  have hle : ((cs.take count).takeWhile isEscapeDigit).length ≤ (cs.take count).length :=
    (takeWhile_sublist _).length_le
  have hcount : count ≤ cs.length := by
    rw [length_take] at hle
    omega
  have hall : (cs.take count).takeWhile isEscapeDigit = cs.take count := by
    refine (List.takeWhile_prefix isEscapeDigit).eq_of_length ?_
    rw [length_take] at hle ⊢
    omega
  have hn : n = count := by
    unfold universalDigits at h
    dsimp only at h
    split_ifs at h
    split at h
    · cases h
    · split_ifs at h
      cases h
      rfl
  refine ⟨hn, hcount, fun c hc hm => ?_, ?_⟩
  · rw [← hall] at hm
    exact not_early (mem_takeWhile_imp hm) (by decide) hc
  · unfold universalDigits at h ⊢
    rwa [take_append_of_le_length hcount]

/-- All characters are read over, also when a blank follows. -/
def ReadOver (tail : List Char → Except Fault Nat) (cs : List Char) : Prop :=
  Plain cs ∧ ∀ rest, Apart rest → tail (cs ++ rest) = .ok cs.length

/-- A universal character name is read over with what is behind it. -/
theorem ReadOver.universal {tail : List Char → Except Fault Nat} (hc : c ∉ earlyChars)
    (hd : d ∉ earlyChars) (hn : universalDigits (universalDigitCount d) cs = .ok n)
    (h : shifted (2 + n) (tail (cs.drop n)) = .ok (c :: d :: cs).length)
    (ih : tail (cs.drop n) = .ok (cs.drop n).length → ReadOver tail (cs.drop n))
    (hstep : ∀ rest, universalDigits (universalDigitCount d) (cs ++ rest) = .ok n →
      tail (c :: d :: (cs ++ rest)) = shifted (2 + n) (tail ((cs ++ rest).drop n))) :
    ReadOver tail (c :: d :: cs) := by
  have hdigits := fun rest => universalDigits_append hn rest
  obtain ⟨rfl, hle, hplain, -⟩ := hdigits []
  have hlen : (c :: d :: cs).length = 2 + universalDigitCount d + (cs.drop (universalDigitCount d)).length := by
    simp only [length_cons, length_drop]
    omega
  obtain ⟨hrest, htail⟩ := ih (of_shifted h hlen)
  refine ⟨?_, fun rest hr => ?_⟩
  · rw [← take_append_drop (universalDigitCount d) cs]
    exact .cons hc (.cons hd (hplain.append hrest))
  · refine (hstep rest (hdigits rest).2.2.2).trans ?_
    exact shifted_of (drop_append_of_le_length hle ▸ htail rest hr) hlen

/-- What is read over behind a word that ends. -/
theorem identifierTail_apart (h : Apart rest) : identifierTail rest = .ok 0 := by
  rcases h.cases with rfl | ⟨rest, rfl⟩
  · rw [identifierTail]
  · rw [identifierTail, if_neg (by decide)]
    intro d ds heq
    exact absurd heq (by decide)

theorem identifierTail_whole (h : identifierTail cs = .ok cs.length) : ReadOver identifierTail cs := by
  fun_induction identifierTail cs with
  | case1 => exact ⟨fun _ _ hm => (nomatch hm), fun rest hr => identifierTail_apart hr⟩
  | case2 => cases h
  | case3 c cs hc n hn ih =>
    have hu : c ∉ earlyChars := not_early (f := fun c => c = 'u' || c = 'U') hc (by decide)
    refine .universal (by decide) hu hn h ih fun rest hdigits => ?_
    rw [identifierTail, if_pos hc, hdigits]
  | case4 => cases h
  | case5 c cs hne hc ih =>
    obtain ⟨hrest, htail⟩ := ih (of_shifted h (Nat.add_comm cs.length 1))
    have hword : c ∉ earlyChars := not_early (f := fun c => c = '_' || isLetter c || isDigit c) hc (by decide)
    refine ⟨.cons hword hrest, fun rest hr => ?_⟩
    rw [cons_append, identifierTail, if_pos hc]
    · exact shifted_of (htail rest hr) (Nat.add_comm cs.length 1)
    · rintro d ds rfl
      exact absurd hc (by decide)
  | case6 => cases h

theorem numberTail_apart (h : Apart rest) : numberTail rest = .ok 0 := by
  rcases h.cases with rfl | ⟨_ | ⟨d, rest⟩, rfl⟩
  · rw [numberTail]
  · rw [numberTail, if_neg (by decide)]
  · rw [numberTail, if_neg (by simp), if_neg (by decide), if_neg (by simp)]

/-- A character of a number. -/
def isNumberChar (c : Char) : Bool := isDigit c || c = '.' || c = '_' || isLetter c

theorem numberTail_whole (h : numberTail cs = .ok cs.length) : ReadOver numberTail cs := by
  fun_induction numberTail cs with
  | case1 => exact ⟨fun _ _ hm => (nomatch hm), fun rest hr => numberTail_apart hr⟩
  | case2 c d cs hexp ih =>
    obtain ⟨hrest, htail⟩ := ih (of_shifted h (Nat.add_comm cs.length 2))
    refine ⟨?_, fun rest hr => ?_⟩
    · have hchars : c ∉ earlyChars ∧ d ∉ earlyChars := by
        simp only [Bool.and_eq_true, Bool.or_eq_true, decide_eq_true_eq] at hexp
        obtain ⟨((rfl | rfl) | rfl) | rfl, rfl | rfl⟩ := hexp <;> decide
      exact .cons hchars.1 (.cons hchars.2 hrest)
    · show numberTail (c :: d :: (cs ++ rest)) = _
      rw [numberTail, if_pos hexp]
      exact shifted_of (htail rest hr) (Nat.add_comm cs.length 2)
  | case3 c d cs hexp hc ih =>
    obtain ⟨hrest, htail⟩ := ih (of_shifted h (Nat.add_comm (cs.length + 1) 1))
    refine ⟨.cons (not_early (f := isNumberChar) hc (by decide)) hrest, fun rest hr => ?_⟩
    show numberTail (c :: d :: (cs ++ rest)) = _
    rw [numberTail, if_neg hexp, if_pos hc]
    exact shifted_of (htail rest hr) (Nat.add_comm (cs.length + 1) 1)
  | case4 => cases h
  | case5 c d cs hexp hc hname n hn ih =>
    obtain ⟨hslash, hu⟩ := Bool.and_eq_true_iff.mp hname
    have hd : d ∉ earlyChars := not_early (f := fun d => d = 'u' || d = 'U') hu (by decide)
    refine .universal (of_decide_eq_true hslash ▸ by decide) hd hn h ih fun rest hdigits => ?_
    rw [numberTail, if_neg hexp, if_neg hc, if_pos hname, hdigits]
  | case6 => cases h
  | case7 c hc =>
    refine ⟨.cons (not_early (f := isNumberChar) hc (by decide)) (fun _ _ hm => (nomatch hm)), fun rest hr => ?_⟩
    have hblank := numberTail_apart hr
    rcases hr.cases with rfl | ⟨rest, rfl⟩
    · rw [append_nil, numberTail, if_pos hc]
      exact h
    · rw [singleton_append, numberTail, if_neg (by simp), if_pos hc, hblank]
      rfl
  | case8 => cases h

/-! ## 3. Lexemes -/

theorem literalPrefix?_kind {p : TokenKind × Nat} (h : literalPrefix? cs = some p) :
    p.1 = .stringLiteral ∨ p.1 = .charConst := by
  unfold literalPrefix? at h
  split at h <;> (try split_ifs at h) <;> cases h <;> simp

/-- A literal is announced by a quote and what may stand before it. -/
theorem literalPrefix?_mark {p : TokenKind × Nat} (h : literalPrefix? cs = some p) :
    ∃ mark tail, cs = mark ++ tail ∧ ' ' ∉ mark ∧ ∀ other, literalPrefix? (mark ++ other) = some p := by
  have hencoding : ∀ {c : Char} {kind : TokenKind}, (if (c = 'u' || c = 'U' || c = 'L') = true then
      some (kind, 1) else none) = some p → (c = 'u' ∨ c = 'U' ∨ c = 'L') ∧ p = (kind, 1) := by
    intro c kind h
    split_ifs at h with hc
    simp only [Bool.or_eq_true, decide_eq_true_eq, or_assoc] at hc
    cases h
    exact ⟨hc, rfl⟩
  unfold literalPrefix? at h
  split at h
  · cases h
    exact ⟨['"'], _, rfl, by decide, fun _ => rfl⟩
  · cases h
    exact ⟨['\''], _, rfl, by decide, fun _ => rfl⟩
  · cases h
    exact ⟨['u', '8', '"'], _, rfl, by decide, fun _ => rfl⟩
  · obtain ⟨rfl | rfl | rfl, rfl⟩ := hencoding h <;> exact ⟨[_, '"'], _, rfl, by decide, fun _ => rfl⟩
  · obtain ⟨rfl | rfl | rfl, rfl⟩ := hencoding h <;> exact ⟨[_, '\''], _, rfl, by decide, fun _ => rfl⟩
  · cases h

theorem literalPrefix?_append (h : literalPrefix? cs = none)
    (hr : Apart rest) : literalPrefix? (cs ++ rest) = none := by
  cases hlit : literalPrefix? (cs ++ rest) with
  | none => rfl
  | some p =>
    exfalso
    obtain ⟨mark, tail, heq, hblank, hall⟩ := literalPrefix?_mark hlit
    rcases append_eq_append_iff.mp heq with ⟨more, rfl, hrest⟩ | ⟨more, rfl, -⟩
    · cases more with
      | nil =>
        rw [← append_nil cs, ← append_nil (cs ++ []), hall] at h
        cases h
      | cons c more =>
        rw [hrest] at hr
        cases (show c = ' ' from hr)
        exact hblank (by simp)
    · rw [hall] at h
      cases h

theorem startsNumber_cons (a b : Char) (cs : List Char) :
    startsNumber (a :: b :: cs) = if a = '.' then isDigit b else isDigit a := by
  by_cases ha : a = '.'
  · subst ha
    rfl
  · rw [if_neg ha, startsNumber]
    exact fun _ _ h _ => ha h

theorem startsIdentifier_cons (a b : Char) (cs : List Char) : startsIdentifier (a :: b :: cs) =
    if a = '\\' then (b = 'u' || b = 'U') else (a = '_' || isLetter a) := by
  by_cases ha : a = '\\'
  · subst ha
    rfl
  · rw [if_neg ha, startsIdentifier]
    exact fun _ _ h _ => ha h

/-- A test of the first character, or of the second behind a certain first one, does not see a blank behind a
    word. -/
theorem starts_append {f : List Char → Bool} {x : Char} {g h : Char → Bool}
    (htwo : ∀ a b cs, f (a :: b :: cs) = if a = x then g b else h a)
    (hone : ∀ a, f [a] = if a = x then g ' ' else h a) (hne : cs ≠ []) (hr : Apart rest) :
    f (cs ++ rest) = f cs := by
  rcases cs with _ | ⟨a, _ | ⟨b, cs⟩⟩
  · exact absurd rfl hne
  · rcases hr.cases with rfl | ⟨rest, rfl⟩
    · rfl
    · rw [singleton_append, htwo, hone]
  · rw [cons_append, cons_append, htwo, htwo]

theorem startsNumber_singleton (a : Char) : startsNumber [a] = if a = '.' then isDigit ' ' else isDigit a := by
  rw [startsNumber]
  · split_ifs with ha
    · subst ha
      decide
    · rfl
  · exact fun _ _ _ h => (nomatch h)

theorem startsIdentifier_singleton (a : Char) : startsIdentifier [a] =
    if a = '\\' then (' ' = 'u' || ' ' = 'U') else (a = '_' || isLetter a) := by
  rw [startsIdentifier]
  · split_ifs with ha
    · subst ha
      decide
    · rfl
  · exact fun _ _ _ h => (nomatch h)

/-- No punctuator has a blank in it. -/
theorem punctuatorLength_append (hr : Apart rest) : punctuatorLength (cs ++ rest) = punctuatorLength cs := by
  have hblank : ∀ p ∈ punctuators, ' ' ∉ p.toList := by decide
  have hprefix : ∀ p ∈ punctuators, p.toList.isPrefixOf (cs ++ rest) = p.toList.isPrefixOf cs := by
    intro p hp
    rw [Bool.eq_iff_iff, isPrefixOf_iff_prefix, isPrefixOf_iff_prefix]
    refine ⟨fun ⟨tail, heq⟩ => ?_, fun h => h.trans (prefix_append cs rest)⟩
    rcases append_eq_append_iff.mp heq with ⟨more, hmore, -⟩ | ⟨more, hmore, hrest⟩
    · exact ⟨more, hmore.symm⟩
    · cases more with
      | nil => exact ⟨[], by rw [hmore, append_nil, append_nil]⟩
      | cons c more =>
        rw [hrest] at hr
        cases (show c = ' ' from hr)
        exact absurd (hmore ▸ by simp) (hblank p hp)
  unfold punctuatorLength
  rw [find?_congr hprefix]

/-- A punctuator that is a whole word is one of the table. -/
theorem mem_punctuators (h : punctuatorLength cs = cs.length) (hne : cs ≠ []) : ∃ p ∈ punctuators, p.toList = cs := by
  unfold punctuatorLength at h
  cases hp : punctuators.find? (fun p => p.toList.isPrefixOf cs) with
  | none =>
    rw [hp] at h
    exact absurd (length_eq_zero_iff.mp h.symm) hne
  | some p =>
    rw [hp] at h
    have hfound := @find?_some _ (fun p => p.toList.isPrefixOf cs) p punctuators hp
    have hprefix := isPrefixOf_iff_prefix.mp hfound
    exact ⟨p, mem_of_find?_eq_some hp, hprefix.eq_of_length (by exact h)⟩

theorem blankLength_zero (hb : isBlank c = false)
    (h : c = '/' → cs.head? ≠ some '/' ∧ cs.head? ≠ some '*') : blankLength (c :: cs) = .ok 0 := by
  rw [blankLength, if_neg (by rw [hb]; decide)]
  · rintro ds rfl rfl
    exact (h rfl).1 rfl
  · rintro ds rfl rfl
    exact (h rfl).2 rfl

theorem first_of_startsNumber (h : startsNumber (c :: cs)) : isNumberChar c := by
  unfold isNumberChar
  cases cs <;> simp only [startsNumber_cons, startsNumber_singleton] at h <;> split_ifs at h with hc
  all_goals simp [*]

theorem first_of_startsIdentifier (h : startsIdentifier (c :: cs)) : c = '\\' ∨ isNumberChar c := by
  by_cases hc : c = '\\'
  · exact .inl hc
  · unfold isNumberChar
    cases cs <;> simp only [startsIdentifier_cons, startsIdentifier_singleton, if_neg hc, Bool.or_eq_true] at h <;>
      rcases h with h | h <;> simp [h]

/-- No blank and no comment begins with a character of a word. -/
theorem blankLength_word (h : c = '\\' ∨ isNumberChar c) : blankLength (c :: cs) = .ok 0 := by
  have hblank : isBlank c = false := by
    rcases h with rfl | h
    · decide
    · rw [Bool.eq_false_iff]
      intro hb
      unfold isBlank at hb
      simp only [Bool.or_eq_true, beq_iff_eq] at hb
      rcases hb with (((rfl | rfl) | rfl) | rfl) | rfl <;> exact absurd h (by decide)
  refine blankLength_zero hblank ?_
  rintro rfl
  rcases h with h | h
  · cases h
  · exact absurd h (by decide)

section Words

variable (h : lexemeAt .parsing cs = .ok (kind, cs.length)) (hs : kind ≠ .stringLiteral) (hc : kind ≠ .charConst)

include h hs hc

/-- What a text is that the scanner reads as one token, a literal aside. -/
theorem lexemeAt_cases : literalPrefix? cs = none ∧
      (startsNumber cs ∧ numberTail (cs.drop 1) = .ok (cs.drop 1).length ∧ kind = numberKind cs ∨
      startsNumber cs = false ∧ startsIdentifier cs ∧ identifierTail cs = .ok cs.length ∧
        kind = (if keywords.contains (String.ofList cs) then .keyword else .identifier) ∨
      startsNumber cs = false ∧ startsIdentifier cs = false ∧ kind = .punctuator ∧
        punctuatorLength cs = cs.length) := by
  unfold lexemeAt at h
  cases hlit : literalPrefix? cs with
  | some p =>
    rw [hlit] at h
    obtain ⟨n, -, heq⟩ := map_eq_ok h
    cases heq
    exact absurd (literalPrefix?_kind hlit) (not_or.mpr ⟨hs, hc⟩)
  | none =>
    rw [hlit] at h
    refine ⟨rfl, ?_⟩
    cases hnum : startsNumber cs with
    | true =>
      rw [hnum] at h
      obtain ⟨n, hn, heq⟩ := map_eq_ok h
      obtain ⟨k, hk, rfl⟩ := shifted_eq_ok hn
      obtain ⟨hkind, hlen⟩ := Prod.mk.inj heq
      refine .inl ⟨rfl, ?_, ?_⟩
      · rw [hk, length_drop, ← hlen, Nat.add_sub_cancel_left]
      · rw [← hkind, hlen, take_length]
        rfl
    | false =>
      rw [hnum] at h
      cases hid : startsIdentifier cs with
      | true =>
        rw [hid] at h
        obtain ⟨n, hn, heq⟩ := map_eq_ok h
        obtain ⟨hkind, rfl⟩ := Prod.mk.inj heq
        refine .inr (.inl ⟨rfl, rfl, hn, ?_⟩)
        rw [← hkind, take_length]
        rfl
      | false =>
        rw [hid] at h
        obtain ⟨hkind, hlen⟩ := Prod.mk.inj (Except.ok.inj h)
        exact .inr (.inr ⟨rfl, rfl, hkind.symm, hlen⟩)

variable (hne : cs ≠ [])

include hne

/-- **A token stays what it is when a blank follows.** -/
theorem lexemeAt_append (hr : Apart rest) : lexemeAt .parsing (cs ++ rest) = .ok (kind, cs.length) := by
  obtain ⟨hlit, hcases⟩ := lexemeAt_cases h hs hc
  unfold lexemeAt
  rw [if_neg (by decide), literalPrefix?_append hlit hr, starts_append startsNumber_cons startsNumber_singleton hne hr,
    starts_append startsIdentifier_cons startsIdentifier_singleton hne hr]
  have hlen : 1 + (cs.drop 1).length = cs.length := by
    have := length_pos_iff.mpr hne
    rw [length_drop]
    omega
  rcases hcases with ⟨hnum, htail, rfl⟩ | ⟨hnum, hid, htail, rfl⟩ | ⟨hnum, hid, rfl, hlength⟩
  · rw [if_pos hnum, drop_append_of_le_length (by omega), (numberTail_whole htail).2 rest hr]
    show Except.ok (_, 1 + (cs.drop 1).length) = _
    rw [hlen, take_left]
    rfl
  · rw [if_neg (by rw [hnum]; decide), if_pos hid, (identifierTail_whole htail).2 rest hr]
    show Except.ok (_, cs.length) = _
    rw [take_left]
    rfl
  · rw [if_neg (by rw [hnum]; decide), if_neg (by rw [hid]; decide), punctuatorLength_append hr, hlength]

/-- **No blank and no comment stands at the front of a word.** -/
theorem blankLength_append (hr : Apart rest) : blankLength (cs ++ rest) = .ok 0 := by
  obtain ⟨c, tail, rfl⟩ := exists_cons_of_ne_nil hne
  rcases (lexemeAt_cases h hs hc).2 with ⟨hnum, -⟩ | ⟨-, hid, -⟩ | ⟨-, -, -, hlength⟩
  · exact blankLength_word (.inr (first_of_startsNumber hnum))
  · exact blankLength_word (first_of_startsIdentifier hid)
  · obtain ⟨p, hp, hchars⟩ := mem_punctuators hlength hne
    have htable : ∀ p ∈ punctuators, p.toList.head?.all (fun c => !isBlank c) ∧
        (p.toList.head? = some '/' → p.toList = ['/'] ∨ p.toList = ['/', '=']) := by decide
    obtain ⟨hblank, hslash⟩ := htable p hp
    rw [hchars] at hblank hslash
    refine blankLength_zero (by simpa using hblank) ?_
    rintro rfl
    rcases hslash rfl with heq | heq
    · cases heq
      rcases hr.cases with rfl | ⟨rest, rfl⟩ <;> exact ⟨by simp, by simp⟩
    · cases heq
      exact ⟨by simp, by simp⟩

/-- Only the question mark is a word with an early character. -/
theorem lexemeAt_plain : Plain cs ∨ cs = ['?'] := by
  obtain ⟨c, tail, rfl⟩ := exists_cons_of_ne_nil hne
  rcases (lexemeAt_cases h hs hc).2 with ⟨hnum, htail, -⟩ | ⟨-, -, htail, -⟩ | ⟨-, -, -, hlength⟩
  · exact .inl (.cons (not_early (first_of_startsNumber hnum) (by decide)) (numberTail_whole htail).1)
  · exact .inl (identifierTail_whole htail).1
  · obtain ⟨p, hp, hchars⟩ := mem_punctuators hlength hne
    have htable : ∀ p ∈ punctuators, earlyChars.any (p.toList.contains ·) = false ∨ p.toList = ['?'] := by
      decide
    rw [← hchars]
    refine (htable p hp).imp_left fun hnone c hc hmem => ?_
    exact any_eq_false.mp hnone c hc (contains_iff_mem.mpr hmem)

/-- A word becomes a token. -/
theorem scanFrom_word (hr : Apart rest) (htokens : scanFrom .parsing (p.after cs) rest = .ok tokens) :
    scanFrom .parsing p (cs ++ rest) = .ok (⟨kind, String.ofList cs, p.line, p.column⟩ :: tokens) := by
  rw [scanFrom, blankLength_append h hs hc hne hr]
  have hempty : (cs ++ rest).isEmpty = false := by simp [hne]
  have hlength : cs.length ≠ 0 := by simp [hne]
  simp only [drop_zero, take_zero, Position.after_nil, hempty, Bool.false_eq_true, if_false,
    lexemeAt_append h hs hc hne hr, hlength, take_left, drop_left, htokens]

end Words

/-! ## 4. The phases before -/

section Phases

open Source

theorem spliceLines_append (h : '\n' ∉ cs) (hr : Apart rest) : spliceLines (cs ++ rest) = cs ++ spliceLines rest := by
  induction cs with
  | nil => rfl
  | cons c cs ih =>
    rw [mem_cons, not_or] at h
    rw [cons_append, spliceLines, ih h.2, cons_append]
    rintro ds - heq
    cases cs with
    | nil =>
      rw [nil_append] at heq
      rw [heq] at hr
      exact absurd (show '\n' = ' ' from hr) (by decide)
    | cons d cs =>
      cases heq
      exact h.2 mem_cons_self

theorem Apart.map {f : List Char → List Char} (h : Apart rest) (hnil : f [] = [])
    (hblank : ∀ cs, f (' ' :: cs) = ' ' :: f cs) : Apart (f rest) := by
  rcases h.cases with rfl | ⟨rest, rfl⟩
  · rwa [hnil]
  · rw [hblank]
    rfl

theorem phaseTwo_cons (h : c ∉ ['\r', '?', '\\']) (cs : List Char) : phaseTwo (c :: cs) = c :: phaseTwo cs := by
  simp only [mem_cons, not_mem_nil, or_false, not_or] at h
  unfold phaseTwo
  rw [unifyLineEnds_cons h.1, replaceTrigraphs_cons h.2.1, spliceLines]
  exact fun ds hc => absurd hc h.2.2

/-- The phases before leave a word alone. -/
theorem phaseTwo_append (h : Plain cs ∨ cs = ['?']) (hr : Apart rest) :
    phaseTwo (cs ++ rest) = cs ++ phaseTwo rest := by
  have hends : '\r' ∉ cs ∧ '\n' ∉ cs := by
    rcases h with h | rfl
    · exact ⟨h _ (by decide), h _ (by decide)⟩
    · decide
  have hunify : Apart (unifyLineEnds rest) := hr.map rfl (unifyLineEnds_cons (by decide))
  have htri : replaceTrigraphs (cs ++ unifyLineEnds rest) = cs ++ replaceTrigraphs (unifyLineEnds rest) := by
    rcases h with h | rfl
    · exact append_of_cons replaceTrigraphs_cons (h '?' (by decide)) _
    · rw [singleton_append, replaceTrigraphs, singleton_append]
      intro d ds _ heq
      rw [heq] at hunify
      exact absurd (show '?' = ' ' from hunify) (by decide)
  unfold phaseTwo
  rw [append_of_cons unifyLineEnds_cons hends.1, htri,
    spliceLines_append hends.2 (hunify.map (by rw [replaceTrigraphs]) (replaceTrigraphs_cons (by decide)))]

end Phases

/-! ## 5. Scanning -/

/-- A blank between words is read over. -/
theorem scanFrom_blank
    (h : scanFrom .parsing (p.next ' ') cs = .ok tokens) : scanFrom .parsing p (' ' :: cs) = .ok tokens := by
  have hblank : blankLength (' ' :: cs) = shifted 1 (blankLength cs) := by
    rw [blankLength, if_pos (by decide)]
    · intro ds heq
      exact absurd heq (by decide)
    · intro ds heq
      exact absurd heq (by decide)
  rw [scanFrom] at h ⊢
  rw [hblank]
  cases hb : blankLength cs with rw [hb] at h
  | error fault => cases h
  | ok n =>
    have htake : (' ' :: cs).take (1 + n) = ' ' :: cs.take n := by rw [Nat.add_comm, take_succ_cons]
    have hdrop : (' ' :: cs).drop (1 + n) = cs.drop n := by rw [Nat.add_comm, drop_succ_cons]
    simp only [shifted, htake, hdrop, Position.after_cons]
    exact h

/-- A word of some kind that is no literal. -/
def IsPlainWord (w : Word) : Prop := Whole w ∧ w.1 ≠ .stringLiteral ∧ w.1 ≠ .charConst

/-- Words with single blanks between them. -/
def spelling : List Word → List Char
  | [] => []
  | [w] => w.2.toList
  | w :: v :: ws => w.2.toList ++ ' ' :: spelling (v :: ws)

theorem phaseTwo_spelling (h : ∀ w ∈ ws, IsPlainWord w)
    (hr : Apart rest) : Source.phaseTwo (spelling ws ++ rest) = spelling ws ++ Source.phaseTwo rest := by
  have hword : ∀ {w : Word}, IsPlainWord w → Plain w.2.toList ∨ w.2.toList = ['?'] :=
    fun hw => lexemeAt_plain hw.1.1 hw.2.1 hw.2.2 hw.1.2
  fun_induction spelling ws with
  | case1 => rfl
  | case2 w => exact phaseTwo_append (hword (h w mem_cons_self)) hr
  | case3 w v ws ih =>
    rw [append_assoc, phaseTwo_append (hword (h w mem_cons_self)) (by exact rfl),
      cons_append, phaseTwo_cons (by decide), ih (forall_mem_cons.mp h).2, append_assoc]
    rfl

/-- **Words with blanks between them are scanned into tokens with their kinds and spellings.** -/
theorem scanFrom_spelling (h : ∀ w ∈ ws, IsPlainWord w) (hr : Apart rest) : ∃ ts, ts.map Token.word = ws ∧ ∀ tokens,
      scanFrom .parsing (p.after (spelling ws)) rest = .ok tokens →
        scanFrom .parsing p (spelling ws ++ rest) = .ok (ts ++ tokens) := by
  fun_induction spelling ws generalizing p with
  | case1 => exact ⟨[], rfl, fun tokens h => h⟩
  | case2 w =>
    obtain ⟨⟨hlex, hne⟩, hs, hc⟩ := h w mem_cons_self
    refine ⟨[_], ?_, fun tokens ht => scanFrom_word hlex hs hc hne hr ht⟩
    show [(w.1, String.ofList w.2.toList)] = [w]
    rw [String.ofList_toList]
  | case3 w v ws ih =>
    obtain ⟨⟨hlex, hne⟩, hs, hc⟩ := h w mem_cons_self
    obtain ⟨ts, hts, hscan⟩ := ih (forall_mem_cons.mp h).2
    refine ⟨⟨w.1, String.ofList w.2.toList, p.line, p.column⟩ :: ts, ?_, fun tokens ht => ?_⟩
    · rw [map_cons, hts]
      show (w.1, String.ofList w.2.toList) :: _ = _
      rw [String.ofList_toList]
    · rw [Position.after_append] at ht
      rw [append_assoc]
      exact scanFrom_word hlex hs hc hne rfl (scanFrom_blank (hscan tokens ht))

end Token

end CCompiler
