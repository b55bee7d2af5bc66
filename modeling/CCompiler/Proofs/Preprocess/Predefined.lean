import CCompiler.Preprocess.State
import CCompiler.Proofs.Steps
import CCompiler.Proofs.Token.Tiling

/-!
# Predefined macros can be defined

Scanning may stop without a refusal at a universal character name, and only a backslash begins one. The
definitions before a source is read hold none, and each has a name.

* `scan_valued` -- a text without backslashes is scanned or refused at a place;
* `initialMacros_ok` -- without macros of options the predefined ones are always there.
-/
namespace CCompiler.Token

open List
open Text (Position)

variable {cs : List Char} {mode : LexMode} {digits : String}

/-- A measure does not fail for digits without a value. -/
def Valued {α : Type} (x : Except Fault α) : Prop := ∀ digits, x ≠ .error (.noValue digits)

theorem valued_ok {α : Type} (a : α) : Valued (.ok a) := fun _ h => by cases h

theorem valued_after {α : Type} (cause : LexCause) (n : Nat) : Valued (.error (.after cause n) : Except Fault α) :=
  fun _ h => by cases h

theorem Valued.shifted (h : Valued x) (n : Nat) : Valued (shifted n x) := by
  rcases x with (⟨cause, m⟩ | digits) | m
  · exact valued_after cause (n + m)
  · exact absurd rfl (h digits)
  · exact valued_ok (n + m)

theorem Valued.map {α β : Type} {x : Except Fault α} (h : Valued x) (f : α → β) : Valued (x.map f) := by
  rcases x with fault | a
  · exact fun digits heq => h digits (by cases heq; rfl)
  · exact valued_ok (f a)

theorem blankLength_valued (cs : List Char) : Valued (blankLength cs) := by
  fun_induction blankLength cs with
  | case1 => exact valued_ok 0
  | case2 => rename_i ih; exact ih.shifted _
  | case3 cs n hn ih => exact ih.shifted _
  | case4 => exact valued_after _ _
  | case5 c cs _ _ hc ih => exact ih.shifted _
  | case6 => exact valued_ok 0

theorem headerTail_valued (close : Char) (cs : List Char) : Valued (headerTail close cs) := by
  fun_induction headerTail close cs with
  | case1 | case2 | case4 | case5 => exact valued_after _ _
  | case3 => exact valued_ok 1
  | case6 => rename_i ih; exact ih.shifted _

theorem quotedLength_valued (h : '\\' ∉ cs) : Valued (quotedLength quote cause cs) := by
  fun_induction quotedLength quote cause cs with
  | case1 | case3 => exact valued_after _ _
  | case2 => exact valued_ok 1
  | case4 | case5 => exact absurd mem_cons_self h
  | case6 c rest hquote hnewline hback ih => exact (ih fun hmem => h (mem_cons_of_mem c hmem)).shifted 1

theorem numberTail_valued (h : '\\' ∉ cs) : Valued (numberTail cs) := by
  fun_induction numberTail cs with
  | case1 => exact valued_ok 0
  | case2 c d more hsign ih =>
    exact (ih fun hmem => h (mem_cons_of_mem c (mem_cons_of_mem d hmem))).shifted 2
  | case3 c d more hsign hplain ih => exact (ih fun hmem => h (mem_cons_of_mem c hmem)).shifted 1
  | case4 c d more hsign hplain hname | case5 c d more hsign hplain hname =>
    simp only [Bool.and_eq_true, decide_eq_true_eq] at hname
    rw [hname.1] at h
    exact absurd mem_cons_self h
  | case6 | case8 => exact valued_ok 0
  | case7 => exact valued_ok 1

theorem identifierTail_valued (h : '\\' ∉ cs) : Valued (identifierTail cs) := by
  fun_induction identifierTail cs with
  | case1 => exact valued_ok 0
  | case2 | case3 | case4 => exact absurd mem_cons_self h
  | case5 c rest hpair hplain ih => exact (ih fun hmem => h (mem_cons_of_mem c hmem)).shifted 1
  | case6 => exact valued_ok 0

theorem lexemeAt_valued (h : '\\' ∉ cs) : Valued (lexemeAt mode cs) := by
  have hdrop : ∀ n, '\\' ∉ cs.drop n := fun n hmem => h (mem_of_mem_drop hmem)
  have hheader : ∀ x, headerLength? cs = some x → Valued x := by
    intro x hx
    unfold headerLength? at hx
    split at hx
    · cases hx
      exact (headerTail_valued _ _).shifted 1
    · cases hx
      exact (headerTail_valued _ _).shifted 1
    · cases hx
  have hliteral : ∀ kind n, Valued (literalLength kind n cs) := by
    intro kind n
    unfold literalLength
    dsimp only
    split
    · split
      · exact valued_after _ _
      · exact (quotedLength_valued (hdrop _)).shifted _
    · exact (quotedLength_valued (hdrop _)).shifted _
  unfold lexemeAt
  split
  · rename_i header hmode
    split at hmode
    · exact (hheader header hmode).map _
    · cases hmode
  · split
    · exact (hliteral _ _).map _
    · split
      · exact ((numberTail_valued (hdrop 1)).shifted 1).map _
      · split
        · exact (identifierTail_valued h).map _
        · exact valued_ok _

theorem Fault.located_ne {fault : Fault} {p : Position}
    (h : ∀ digits, fault ≠ .noValue digits) : fault.located p cs ≠ .noValue digits := by
  cases fault with
  | after cause n => exact fun heq => by cases heq
  | noValue digits => exact absurd rfl (h digits)

theorem scanFrom_valued {p : Position} (h : '\\' ∉ cs) : scanFrom mode p cs ≠ .error (.noValue digits) := by
  have hdrop : ∀ {cs : List Char} n, '\\' ∉ cs → '\\' ∉ cs.drop n :=
    fun n h hmem => h (mem_of_mem_drop hmem)
  fun_induction scanFrom mode p cs with
  | case1 p cs fault hblank =>
    intro heq
    refine Fault.located_ne (fun digits hfault => ?_) (Except.error.inj heq)
    exact blankLength_valued cs digits (by rw [hblank, hfault])
  | case3 =>
    rename_i hlexeme
    intro heq
    refine Fault.located_ne (fun digits hfault => ?_) (Except.error.inj heq)
    exact lexemeAt_valued (hdrop _ h) digits (by rw [hlexeme, hfault])
  | case5 =>
    rename_i hlater ih
    rw [← hlater]
    exact ih (hdrop _ (hdrop _ h))
  | case2 | case4 | case6 => exact fun heq => by cases heq

/-- A text of plain characters without a backslash is scanned, or it is refused at a place. -/
theorem scan_valued (hplain : Plain text)
    (hback : '\\' ∉ text) : scan mode (String.ofList text) ≠ .error (.noValue digits) := by
  have hphase : Source.phaseTwo text = text := by
    have h := phaseTwo_append (.inl hplain) (show Apart [] from trivial)
    rw [append_nil] at h
    exact h.trans (append_nil text)
  unfold scan
  rw [String.toList_ofList, hphase]
  exact scanFrom_valued hback

end CCompiler.Token

namespace CCompiler.Preprocess

open List Text

/-- The text of an option has a name, and nothing is special in its replacement. -/
def definable (text : List Char) : Bool :=
  let (head, replacement) := Macro.optionParts text
  ((Macro.optionHead? head).isSome || isName (trimSpace head)) &&
    (trimSpace replacement).all fun c => !('\\' :: Token.earlyChars).contains c

theorem ofReplacement_ok (h : (text.all fun c => !('\\' :: Token.earlyChars).contains c)) :
    ∃ tokens, MacroToken.ofReplacement (String.ofList text) = .ok tokens := by
  have hnone : ∀ c ∈ '\\' :: Token.earlyChars, c ∉ text := by
    intro c hc hmem
    have hfree := all_eq_true.mp h c hmem
    rw [contains_iff_mem.mpr hc] at hfree
    cases hfree
  have hplain : Token.Plain text := (forall_mem_cons.mp hnone).2
  unfold MacroToken.ofReplacement MacroToken.ofText?
  split
  · exact ⟨_, rfl⟩
  · exact ⟨_, rfl⟩
  · rename_i hscan
    exact absurd hscan (Token.scan_valued hplain (hnone '\\' mem_cons_self))

theorem ofOption?_ok (h : definable text.toList) : ∃ m, Macro.ofOption? text = .ok (some m) := by
  unfold definable at h
  unfold Macro.ofOption?
  rcases hparts : Macro.optionParts text.toList with ⟨head, replacement⟩
  rw [hparts] at h
  simp only [Bool.and_eq_true, Bool.or_eq_true] at h
  obtain ⟨tokens, htokens⟩ := ofReplacement_ok h.2
  dsimp only
  rw [htokens]
  cases hhead : Macro.optionHead? head with
  | some parts => exact ⟨_, rfl⟩
  | none =>
    rw [hhead] at h
    have hname := h.1.resolve_left Bool.false_ne_true
    rw [if_pos hname]
    exact ⟨_, rfl⟩

theorem defineOption_ok (h : definable text.toList) (table : MacroTable) :
    ∃ table', defineOption table text = .ok table' := by
  obtain ⟨m, hm⟩ := ofOption?_ok h
  unfold defineOption
  rw [hm]
  exact ⟨_, rfl⟩

theorem foldlM_defineOption_ok {texts : List String} (h : ∀ text ∈ texts, definable text.toList)
    (table : MacroTable) : ∃ table', texts.foldlM defineOption table = .ok table' := by
  induction texts generalizing table with
  | nil => exact ⟨table, rfl⟩
  | cons text texts ih =>
    obtain ⟨htext, htexts⟩ := forall_mem_cons.mp h
    obtain ⟨next, hnext⟩ := defineOption_ok htext table
    obtain ⟨last, hlast⟩ := ih htexts next
    refine ⟨last, ?_⟩
    rw [foldlM_cons, hnext]
    exact hlast

/-- A text is spelled out before it is looked at. -/
theorem definable_of_eq (htext : text = String.ofList cs)
    (h : definable cs) : definable text.toList := by
  rwa [htext, String.toList_ofList]

theorem listed_definable : (∀ text ∈ languageDefinitions, definable text.toList) ∧
    (∀ text ∈ strictDefinitions, definable text.toList) ∧
    (∀ text ∈ gnuDefinitions, definable text.toList) ∧
    ∀ entry ∈ machineDefinitions, definable entry.2.toList := by
  refine ⟨?_, ?_, ?_, ?_⟩
  all_goals
    repeat refine forall_mem_cons.mpr ⟨definable_of_eq rfl (by decide +kernel), ?_⟩
    exact nofun

theorem definitions_definable (standard : Standard) (isHosted : Bool) (machine : String) :
    ∀ text ∈ definitions standard isHosted machine, definable text.toList := by
  obtain ⟨hlanguage, hstrict, hgnu, hmachine⟩ := listed_definable
  intro text htext
  unfold definitions at htext
  rw [mem_append, mem_append, mem_cons] at htext
  rcases htext with (htext | rfl | htext) | htext
  · exact hlanguage text htext
  · cases isHosted <;> exact definable_of_eq rfl (by decide +kernel)
  · cases standard
    exacts [hstrict text htext, hgnu text htext]
  · exact hmachine (machine, text) (mem_of_lookup (Option.mem_toList.mp htext))

/-- **The predefined macros are always there**, where options define and remove none. -/
theorem initialMacros_ok {setting : Setting} (hdefines : setting.options.defines = [])
    (hundefs : setting.options.undefs = []) : ∃ macros, initialMacros setting = .ok macros := by
  unfold initialMacros
  obtain ⟨table, htable⟩ := foldlM_defineOption_ok (definitions_definable setting.options.standard
    setting.options.isHosted setting.world.platform.machine) []
  dsimp only
  rw [htable, hdefines, hundefs]
  exact ⟨_, rfl⟩

end CCompiler.Preprocess
