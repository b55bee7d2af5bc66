import CCompiler.Proofs.Token.Spelling

/-!
# Tokens tile their text

Nothing of a text is lost when it is scanned: it is cut into the spellings of the tokens and the gaps
between them, and a gap holds white space and complete comments only.

* `Gap` -- what may stand between two tokens, in front of what follows it;
* `Tiled` -- tokens cover a text from some place on, each where it says it stands;
* `scan_tiles` -- the tokens of a source cover it from its first character to its end.
-/
namespace CCompiler

open List
open Text (Position)

variable {cs : List Char} {n : Nat} {mode : LexMode} {tokens : List Token}

/-- Where a token says it stands. -/
def Token.place (token : Token) : Position := ⟨token.line, token.column⟩

/-- The place behind so many characters of a text: its line counts the newlines before it, its column the
    characters behind the last of them. -/
def placeAt (t : List Char) (i : Nat) : Position :=
  ⟨(t.take i).count '\n' + 1, ((t.take i).reverse.takeWhile (· ≠ '\n')).length + 1⟩

/-- Counting character by character leads to the same place. -/
theorem after_start (cs : List Char) :
    Position.start.after cs = ⟨cs.count '\n' + 1, (cs.reverse.takeWhile (· ≠ '\n')).length + 1⟩ := by
  induction cs using List.reverseRecOn with
  | nil => rfl
  | append_singleton cs c ih =>
    rw [Position.after_append, ih, Position.after_cons, Position.after_nil, Position.next,
      reverse_concat, count_append]
    by_cases hc : c = '\n'
    · rw [hc]
      simp
    · rw [if_neg hc, takeWhile_cons_of_pos (by simpa using hc), length_cons,
        count_singleton, if_neg (by simpa using hc)]

theorem after_append_eq_placeAt (pre cs : List Char) : Position.start.after pre = placeAt (pre ++ cs) pre.length := by
  rw [after_start, placeAt, take_left]

namespace Token

/-- The white space of C between tokens. -/
def whiteSpace : List Char := [' ', '\t', '\x0b', '\x0c', '\n']

/-- White space and complete comments, in front of what follows. A comment of the first form runs to the
    end of its line, one of the second form to the first end mark in it. -/
inductive Gap : List Char → List Char → Prop
  | nil (rest : List Char) : Gap [] rest
  | blank {c : Char} {gap rest : List Char} (hc : c ∈ whiteSpace) (h : Gap gap rest) : Gap (c :: gap) rest
  | line {body gap rest : List Char} (hbody : '\n' ∉ body)
      (hend : ∀ c ∈ (gap ++ rest).head?, c = '\n') (h : Gap gap rest) :
      Gap ('/' :: '/' :: (body ++ gap)) rest
  | block {body gap rest : List Char} (hbody : ¬ ['*', '/'] <:+: body ++ ['*']) (h : Gap gap rest) :
      Gap ('/' :: '*' :: (body ++ '*' :: '/' :: gap)) rest

theorem mem_whiteSpace (h : isBlank c) : c ∈ whiteSpace := by
  unfold isBlank at h
  simp only [Bool.or_eq_true, beq_iff_eq] at h
  rcases h with (((rfl | rfl) | rfl) | rfl) | rfl <;> decide

/-- A comment is read up to its first end mark. -/
theorem commentLength?_eq_some (h : commentLength? cs = some n) :
    ∃ body rest, cs = body ++ '*' :: '/' :: rest ∧ n = body.length + 2 ∧ ¬ ['*', '/'] <:+: body ++ ['*'] := by
  fun_induction commentLength? cs generalizing n with
  | case1 => cases h
  | case2 rest =>
    cases h
    exact ⟨[], rest, rfl, rfl, by decide⟩
  | case3 c cs hmark ih =>
    obtain ⟨k, hk, rfl⟩ := Option.map_eq_some_iff.mp h
    obtain ⟨body, rest, rfl, rfl, hbody⟩ := ih hk
    refine ⟨c :: body, rest, rfl, rfl, fun hin => ?_⟩
    rcases infix_cons_iff.mp hin with hpre | hin
    · -- a mark that begins with the first character would have ended the comment there
      obtain ⟨hc, hslash⟩ := cons_prefix_cons.mp hpre
      cases body with
      | nil => exact absurd hslash (by decide)
      | cons d body =>
        obtain ⟨hd, -⟩ := cons_prefix_cons.mp hslash
        exact hmark (body ++ '*' :: '/' :: rest) hc.symm (by rw [← hd]; rfl)
    · exact hbody hin

/-- The rest of a line and what follows it. -/
theorem exists_line (cs : List Char) : ∃ body rest, cs = body ++ rest ∧ '\n' ∉ body ∧
    (cs.takeWhile (· != '\n')).length = body.length ∧ ∀ c ∈ rest.head?, c = '\n' := by
  refine ⟨cs.takeWhile (· != '\n'), cs.dropWhile (· != '\n'), takeWhile_append_dropWhile.symm,
    fun hmem => absurd (mem_takeWhile_imp hmem) (by decide), rfl, fun c hc => ?_⟩
  have hnot := head?_dropWhile_not (· != '\n') cs
  rw [Option.mem_def.mp hc] at hnot
  simpa using hnot

/-- **What is read over in front of a token is a gap.** -/
theorem gap_of_blankLength (h : blankLength cs = .ok n) :
    ∃ gap rest, cs = gap ++ rest ∧ n = gap.length ∧ Gap gap rest := by
  fun_induction blankLength cs generalizing n with
  | case1 =>
    cases h
    exact ⟨[], [], rfl, rfl, .nil []⟩
  | case2 cs line =>
    rename_i ih
    obtain ⟨k, hk, rfl⟩ := shifted_eq_ok h
    obtain ⟨body, tail, rfl, hbody, hlength, hend⟩ := exists_line cs
    rw [show line = body.length from hlength, drop_left] at hk ih
    obtain ⟨gap, rest, rfl, rfl, hgap⟩ := ih hk
    refine ⟨'/' :: '/' :: (body ++ gap), rest, by simp, ?_, .line hbody hend hgap⟩
    rw [length_cons, length_cons, length_append]
    omega
  | case3 cs m hm ih =>
    obtain ⟨k, hk, rfl⟩ := shifted_eq_ok h
    obtain ⟨body, tail, rfl, rfl, hbody⟩ := commentLength?_eq_some hm
    have htail : (body ++ '*' :: '/' :: tail).drop (body.length + 2) = tail := by
      rw [← drop_drop, drop_left]
      rfl
    rw [htail] at hk ih
    obtain ⟨gap, rest, rfl, rfl, hgap⟩ := ih hk
    refine ⟨'/' :: '*' :: (body ++ '*' :: '/' :: gap), rest, by simp, ?_, .block hbody hgap⟩
    simp only [length_cons, length_append]
    omega
  | case4 => cases h
  | case5 c cs _ _ hc ih =>
    obtain ⟨k, hk, rfl⟩ := shifted_eq_ok h
    obtain ⟨gap, rest, rfl, rfl, hgap⟩ := ih hk
    exact ⟨c :: gap, rest, rfl, Nat.add_comm 1 _, .blank (mem_whiteSpace hc) hgap⟩
  | case6 c cs =>
    cases h
    exact ⟨[], c :: cs, rfl, rfl, .nil _⟩

/-- Tokens cover a text from some place on: a gap, a token with its characters, and so on up to a gap that
    ends the text. Each token says where it stands, and only the last one is an end. -/
inductive Tiled (t : List Char) : Nat → List Token → Prop
  | token {reached start stop : Nat} {token : Token} {tokens : List Token}
      (horder : reached ≤ start ∧ start < stop ∧ stop ≤ t.length)
      (hgap : Gap (t.extract reached start) (t.drop start))
      (hlexeme : token.lexeme = String.ofList (t.extract start stop))
      (hplace : token.place = placeAt t start) (hkind : token.kind ≠ .endOfFile)
      (h : Tiled t stop tokens) : Tiled t reached (token :: tokens)
  | finish {reached : Nat} {token : Token} (horder : reached ≤ t.length)
      (hgap : Gap (t.drop reached) []) (hlexeme : token.lexeme = "")
      (hplace : token.place = placeAt t t.length) (hkind : token.kind = .endOfFile) :
      Tiled t reached [token]

theorem numberKind_ne (cs : List Char) : numberKind cs ≠ .endOfFile := by
  unfold numberKind
  split_ifs <;> decide

/-- No lexeme is the end of a text. -/
theorem lexemeAt_kind {kind : TokenKind} (h : lexemeAt mode cs = .ok (kind, n)) : kind ≠ .endOfFile := by
  unfold lexemeAt at h
  split at h
  · obtain ⟨m, -, heq⟩ := map_eq_ok h
    cases heq
    decide
  · split at h
    · rename_i hliteral
      obtain ⟨m, -, heq⟩ := map_eq_ok h
      cases heq
      rcases literalPrefix?_kind hliteral with hkind | hkind <;>
        exact fun hend => absurd (hkind.symm.trans hend) (by decide)
    · split at h
      · obtain ⟨m, -, heq⟩ := map_eq_ok h
        obtain ⟨rfl, -⟩ := Prod.mk.inj heq
        split_ifs
        · exact numberKind_ne _
        · decide
      · split at h
        · obtain ⟨m, -, heq⟩ := map_eq_ok h
          obtain ⟨rfl, -⟩ := Prod.mk.inj heq
          split_ifs <;> decide
        · cases h
          decide

/-- What scanning a text gives: behind a gap the end, or a token and the tokens behind its characters. -/
theorem scanFrom_eq_ok {p : Position} (h : scanFrom mode p cs = .ok tokens) :
    ∃ gap rest start, cs = gap ++ rest ∧ Gap gap rest ∧ start = p.after gap ∧
      (rest = [] ∧ tokens = [⟨.endOfFile, "", start.line, start.column⟩] ∨
        ∃ kind lexeme more later, rest = lexeme ++ more ∧ lexeme ≠ [] ∧ kind ≠ .endOfFile ∧
          scanFrom mode (start.after lexeme) more = .ok later ∧
          tokens = ⟨kind, String.ofList lexeme, start.line, start.column⟩ :: later) := by
  rw [scanFrom] at h
  cases hblank : blankLength cs with rw [hblank] at h
  | error fault => cases h
  | ok n =>
    obtain ⟨gap, rest, rfl, rfl, hgap⟩ := gap_of_blankLength hblank
    simp only [take_left, drop_left] at h
    refine ⟨gap, rest, p.after gap, rfl, hgap, rfl, ?_⟩
    split_ifs at h with hempty
    · cases h
      exact .inl ⟨List.isEmpty_iff.mp hempty, rfl⟩
    · right
      cases hlexeme : lexemeAt mode rest with rw [hlexeme] at h
      | error fault => cases h
      | ok found =>
        obtain ⟨kind, m⟩ := found
        dsimp only at h
        split_ifs at h with hm
        cases hlater : scanFrom mode ((p.after gap).after (rest.take m)) (rest.drop m) with rw [hlater] at h
        | error error => cases h
        | ok later =>
          cases h
          refine ⟨kind, rest.take m, rest.drop m, later, (take_append_drop m rest).symm, ?_,
            lexemeAt_kind hlexeme, hlater, rfl⟩
          rw [Ne, take_eq_nil_iff, not_or]
          exact ⟨hm, fun hnil => hempty (List.isEmpty_iff.mpr hnil)⟩

/-- The characters between two places of a text that is given in three parts. -/
theorem extract_middle (front middle back : List Char) :
    (front ++ middle ++ back).extract front.length (front ++ middle).length = middle := by
  rw [extract_eq_take_drop, append_assoc, drop_left, length_append, Nat.add_sub_cancel_left, take_left]

/-- **The tokens of a text cover it**, from the place where scanning begins. -/
theorem scanFrom_tiles (pre : List Char) (h : scanFrom mode (Position.start.after pre) cs = .ok tokens) :
    Tiled (pre ++ cs) pre.length tokens := by
  -- every token takes at least one character, so what is left gets shorter
  induction hlength : cs.length using Nat.strongRecOn generalizing pre cs tokens with
  | ind length ih =>
    obtain ⟨gap, rest, start, rfl, hgap, rfl, hend | hmore⟩ := scanFrom_eq_ok h
    · obtain ⟨rfl, rfl⟩ := hend
      rw [append_nil]
      refine .finish (by simp) (by rwa [drop_left]) rfl ?_ rfl
      show Position.after _ gap = _
      rw [← Position.after_append, after_append_eq_placeAt _ [], append_nil]
    · obtain ⟨kind, lexeme, more, later, rfl, hne, hkind, hlater, rfl⟩ := hmore
      rw [← Position.after_append _ pre gap, ← Position.after_append] at hlater
      have hpos := length_pos_iff.mpr hne
      have htiles := ih more.length (by simp only [length_append] at hlength; omega) _ hlater rfl
      have htext : pre ++ (gap ++ (lexeme ++ more)) = pre ++ gap ++ lexeme ++ more := by simp
      rw [htext]
      have horder : pre.length ≤ (pre ++ gap).length ∧ (pre ++ gap).length < (pre ++ gap ++ lexeme).length ∧
          (pre ++ gap ++ lexeme).length ≤ (pre ++ gap ++ lexeme ++ more).length := by
        simp only [length_append]
        omega
      refine .token horder ?_ ?_ ?_ hkind htiles
      · rw [append_assoc (pre ++ gap), extract_middle, drop_left]
        exact hgap
      · rw [extract_middle]
      · show Position.after _ gap = _
        rw [← Position.after_append, append_assoc (pre ++ gap), ← after_append_eq_placeAt]

/-- **The tokens of a source cover its text from the first character to the end.** -/
theorem scan_tiles {mode : LexMode} {source : String} {tokens : List Token}
    (h : scan mode source = .ok tokens) : Tiled (Source.phaseTwo source.toList) 0 tokens :=
  scanFrom_tiles [] h

/-- A comment over two lines, a token over two lines joined, a string with a quote in it, and a comment that
    ends with the text. -/
theorem scan_tiles_commented :
    let tokens : List Token := [⟨.identifier, "a", 1, 1⟩, ⟨.punctuator, "+=", 2, 8⟩,
      ⟨.stringLiteral, "\"\\\"\"", 2, 11⟩, ⟨.endOfFile, "", 2, 20⟩]
    scan .parsing "a/* b\n * c */+\\\n= \"\\\"\" // d" = .ok tokens ∧
      Tiled (Source.phaseTwo "a/* b\n * c */+\\\n= \"\\\"\" // d".toList) 0 tokens := by
  intro tokens
  have h : scan .parsing "a/* b\n * c */+\\\n= \"\\\"\" // d" = .ok tokens := by cbv
  exact ⟨h, scan_tiles h⟩

end Token

end CCompiler
