import CCompiler.Literal.Typed
import CCompiler.Macro.Expand
import CCompiler.Proofs.Token.Spelling

/-!
# Arguments as strings

An argument becomes a string literal: its spelling between quotes, with a backslash before every quote and every
backslash in it. Scanning gives the literal back as one token, and its units are the characters of the spelling, as
long as the phases before scanning find nothing to replace in it.

* `quotedLength_escaped`, `decode_escaped` -- escapes are read back, by the scanner and by the analysis;
* `scan_stringize` -- a stringized argument stands for its spelling.
-/
namespace CCompiler.MacroToken

open List Token

variable {cs : List Char} {mode : LexMode}

/-- A text with a backslash before every backslash and every quote. -/
def escaped (cs : List Char) : List Char := cs.flatMap fun c => if c == '\\' || c == '"' then ['\\', c] else [c]

theorem escaped_cons (c : Char) (cs : List Char) :
    escaped (c :: cs) = if c = '\\' ∨ c = '"' then '\\' :: c :: escaped cs else c :: escaped cs := by
  by_cases h : c = '\\' ∨ c = '"' <;> simp [escaped, h]

theorem toList_quote (text : String) : (quote text).toList = '"' :: (escaped text.toList ++ ['"']) := by
  simp [quote, escape, escaped]

/-- **The body of the literal ends where it does.** -/
theorem quotedLength_escaped (hcs : '\n' ∉ cs) :
    quotedLength '"' .unterminatedString (escaped cs ++ ['"']) = .ok ((escaped cs).length + 1) := by
  induction cs with
  | nil => simp [escaped, quotedLength]
  | cons c cs ih =>
    rw [mem_cons, not_or] at hcs
    rw [escaped_cons]
    split
    · next hc =>
      have hescape : ∀ rest, escapeLength (c :: rest) = .ok 1 := by
        intro rest
        rcases hc with rfl | rfl <;> rfl
      rw [cons_append, cons_append, quotedLength, if_neg (by decide), if_neg (by decide), if_pos rfl, hescape]
      exact shifted_of (ih hcs.2) (by simp only [length_cons]; omega)
    · next hc =>
      rw [not_or] at hc
      rw [cons_append, quotedLength, if_neg hc.2, if_neg (Ne.symm hcs.1), if_neg hc.1]
      exact shifted_of (ih hcs.2) (by simp only [length_cons]; omega)

/-- **The units of the body are the characters before they were escaped.** -/
theorem decode_escaped : Literal.decode (escaped cs) = .ok (cs.map fun c => (c.toNat : Int)) := by
  suffices h : ∀ n, (escaped cs).length ≤ n →
      Literal.decodeWithin n (escaped cs) = .ok (cs.map fun c => (c.toNat : Int)) from h _ (Nat.le_refl _)
  induction cs with
  | nil => rintro (_ | n) _ <;> rfl
  | cons c cs ih =>
    rw [escaped_cons]
    split
    · next hc =>
      rintro (_ | n) hn
      · cases hn
      · have hunit : Literal.simpleEscape? c = some c.toNat := by
          rcases hc with rfl | rfl <;> rfl
        simp only [length_cons] at hn
        rw [Literal.decodeWithin, hunit, ih n (by omega)]
        rfl
    · next hc =>
      rintro (_ | n) hn
      · cases hn
      · simp only [length_cons] at hn
        rw [Literal.decodeWithin, ih n (by omega)]
        · rfl
        · exact fun heq => absurd (.inl heq) hc

theorem lexemeAt_quote {text : String} (h : '\n' ∉ text.toList) (hmode : mode ≠ .preprocessing true) :
    lexemeAt mode (quote text).toList = .ok (.stringLiteral, (quote text).toList.length) := by
  rw [lexemeAt, if_neg hmode, toList_quote]
  show ((shifted 1 (quotedLength '"' _ (escaped text.toList ++ ['"']))).map _) = _
  rw [quotedLength_escaped h]
  simp [shifted, Except.map, Nat.add_comm]

/-- **A quoted text is one token.** -/
theorem scan_quote {text : String} (h : '\n' ∉ text.toList)
    (hphases : Source.phaseTwo (quote text).toList = (quote text).toList) (hmode : mode ≠ .preprocessing true) :
    let stop := Text.Position.start.after (quote text).toList
    scan mode (quote text) = .ok [⟨.stringLiteral, quote text, 1, 1⟩, ⟨.endOfFile, "", stop.line, stop.column⟩] := by
  have hblank : blankLength (quote text).toList = .ok 0 := by
    rw [toList_quote]
    exact blankLength_zero rfl fun heq => absurd heq (by decide)
  have hne : (quote text).toList ≠ [] := by simp [toList_quote]
  rw [scan, hphases, scanFrom, hblank]
  simp only [drop_zero, take_zero, lexemeAt_quote h hmode, take_length, drop_length, List.isEmpty_iff, hne, if_false,
    length_eq_zero_iff, String.ofList_toList]
  rw [scanFrom, blankLength]
  simp only [drop_nil, List.isEmpty_nil, take_nil, if_true, Text.Position.after_nil]
  rfl

theorem stringBody?_quote (text : String) : Literal.stringBody? (quote text) = some (escaped text.toList) := by
  simp [Literal.stringBody?, toList_quote, Literal.between?, getLast?_cons]

end CCompiler.MacroToken
