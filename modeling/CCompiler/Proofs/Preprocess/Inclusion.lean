import CCompiler.Proofs.Macro.Expansion
import CCompiler.Proofs.Preprocess.Document
import CCompiler.Proofs.Steps

/-!
# Conditional inclusion

Preprocessing keeps a stack of open groups with flags. It keeps of a document what `Doc.select` selects.

* `processDirectiveLines_eq`, `processTextLine_agrees` -- what one line does to the open groups and what it
  leaves;
* `processLines_agrees` -- the same over all lines;
* `effects_doc`, `effects_branches` -- the flags of the open groups follow the tree;
* `nest_effect`, `effect_of_fault` -- the open groups follow how the lines nest;
* `conditional_inclusion` -- a text is preprocessed as its document says, and lines that do not nest are
  refused where they do not;
* `processLines_wantsMore` -- a line whose expansion wants more lines takes directives from behind it.
-/
namespace CCompiler.Preprocess

open List Text
open AnyLine (chars)

variable {test : Test} {line : AnyLine}

/-! ## 1. Actions -/

section Actions

variable {α β : Type} {setting : Setting} {x y : Preprocess α} {f g : α → Preprocess β}

variable {state state' : State} {failure : Failure}

/-- A failure of an expansion that wants more lines. -/
def Failure.WantsMore (failure : Failure) : Prop :=
  ∃ place, failure = .refused ⟨.unterminatedInvocation, place⟩

/-- Two actions do the same, unless an expansion in the second wants more lines. -/
def Agrees (setting : Setting) (x y : Preprocess α) : Prop :=
  ∀ state, (∃ failure, (y setting state).1 = .error failure ∧ failure.WantsMore) ∨ x setting state = y setting state

/-- All values that an action may have. -/
def Yields (setting : Setting) (x : Preprocess α) (P : α → Prop) : Prop :=
  ∀ state a state', x setting state = (.ok a, state') → P a

theorem Agrees.of_eq (h : x setting = y setting) : Agrees setting x y := by
  intro state
  rw [h]
  exact .inr rfl

theorem bind_left (h : x setting = y setting) : (x >>= f) setting = (y >>= f) setting :=
  congrArg (· >>= fun a => f a setting) h

/-- One action after another. -/
theorem Agrees.bind {γ : Type} {z : Preprocess γ} {h : γ → α} {k : γ → Preprocess β}
    (hx : Agrees setting x (z >>= fun c => pure (h c)))
    (hf : ∀ c, Agrees setting (f (h c)) (k c)) : Agrees setting (x >>= f) (z >>= k) := by
  intro state
  rcases hrun : z setting state with ⟨failure | c, state'⟩
  · have hz : (z >>= fun c => pure (h c)) setting state = (.error failure, state') := bind_of_error hrun
    rcases hx state with ⟨failure', hfail, hmore⟩ | heq
    · rw [hz] at hfail
      cases hfail
      exact .inl ⟨failure, by rw [bind_of_error hrun], hmore⟩
    · exact .inr (by rw [bind_of_error (heq.trans hz), bind_of_error hrun])
  · have hz : (z >>= fun c => pure (h c)) setting state = (.ok (h c), state') := bind_of_ok hrun
    rcases hx state with ⟨failure', hfail, -⟩ | heq
    · rw [hz] at hfail
      cases hfail
    · rw [bind_of_ok (heq.trans hz), bind_of_ok hrun]
      exact hf c state'

variable {P : α → Prop} {content : List Char} {name : String} {d : Directive}

theorem Yields.bind {Q : β → Prop} (h : Yields setting x P) (hf : ∀ a, P a → Yields setting (f a) Q) :
    Yields setting (x >>= f) Q := by
  intro state b state' hrun
  rcases hx : x setting state with ⟨failure | a, state1⟩
  · rw [bind_of_error hx] at hrun
    cases hrun
  · rw [bind_of_ok hx] at hrun
    exact hf a (h state a state1 hx) state1 b state' hrun

theorem Yields.pure (h : P a) : Yields setting (Pure.pure a) P := by
  intro state b state' hrun
  cases hrun
  exact h

theorem Yields.trivial : Yields setting x fun _ => True := fun _ _ _ _ => ⟨⟩

/-- Actions that go on in the same way from all values that there may be. -/
theorem Yields.bind_congr (h : Yields setting x P) (hf : ∀ a, P a → f a setting = g a setting) :
    (x >>= f) setting = (x >>= g) setting := by
  funext state
  rcases hx : x setting state with ⟨failure | a, state1⟩
  · rw [bind_of_error hx, bind_of_error hx]
  · rw [bind_of_ok hx, bind_of_ok hx, hf a (h state a state1 hx)]

end Actions

/-! ## 2. What a line does -/

/-- What a line leaves, and the open groups behind it. -/
def effect (base : Option Path) (cursor : Cursor) (frames : List Frame) : AnyLine → Preprocess (String × List Frame)
  | ⟨.text, line⟩ => do
    let kept ← line.keep (isActive frames) cursor.location
    return (kept, frames)
  | ⟨.define body, _⟩ => do
    carryOut (isActive frames) (define body)
    return ("\n", frames)
  | ⟨.undef body, _⟩ => do
    carryOut (isActive frames) (undefine body (cursor.directivePlace 0))
    return ("\n", frames)
  | ⟨.opening test, _⟩ => do
    let holds ← test.ask (isActive frames) (cursor.directivePlace 0) base
    return ("\n", ⟨isActive frames, holds, holds, false⟩ :: frames)
  | ⟨.branch test, _⟩ =>
    match frames with
    | [] => refuseAt (cursor.directivePlace 0) (.group (.outside test.branch.name))
    | frame :: outer => do
      carryOut frame.sawElse (refuseAt (cursor.directivePlace 0) (.group (.afterElse test.branch.name)))
      let holds ← test.ask (frame.parentActive && !frame.branchTaken) (cursor.directivePlace 0) base
      return ("\n", { frame with active := holds, branchTaken := frame.branchTaken || holds } :: outer)
  | ⟨.else_, _⟩ =>
    match frames with
    | [] => refuseAt (cursor.directivePlace 0) (.group (.outside "else"))
    | frame :: outer => do
      carryOut frame.sawElse (refuseAt (cursor.directivePlace 0) (.group .duplicateElse))
      return ("\n", { frame with
        sawElse := true, active := frame.parentActive && !frame.branchTaken, branchTaken := true } :: outer)
  | ⟨.endif, _⟩ =>
    match frames with
    | [] => refuseAt (cursor.directivePlace 0) (.group (.outside "endif"))
    | _ :: outer => return ("\n", outer)

/-- What lines leave, and the open groups behind them. -/
def effects (base : Option Path) (cursor : Cursor) (frames : List Frame) :
    List AnyLine → Preprocess (List String × List Frame)
  | [] => return ([], frames)
  | line :: rest => do
    let first ← effect base cursor frames line
    let others ← effects base (cursor.advance 1) first.2 rest
    return (first.1 :: others.1, others.2)

/-- The progress behind a line that leaves a text. -/
def Progress.put (p : Progress) (text : String) : Progress :=
  { p with out := p.out.push text p.cursor.location, cursor := p.cursor.advance 1 }

/-- The progress behind a line by what it leaves and the open groups behind it. -/
def Progress.after (p : Progress) (e : String × List Frame) : Progress := { p.put e.1 with frames := e.2 }

/-- An output with lines behind it that come from a place on. -/
def Output.putLines (out : Output) (cursor : Cursor) : List String → Output
  | [] => out
  | text :: texts => (out.push text cursor.location).putLines (cursor.advance 1) texts

/-- The progress behind lines. -/
def Progress.afterAll (p : Progress) (e : List String × List Frame) : Progress :=
  { p with
    out := p.out.putLines p.cursor e.1, cursor := p.cursor.advance e.1.length, frames := e.2 }

theorem Cursor.advance_advance (cursor : Cursor) (m n : Nat) :
    (cursor.advance m).advance n = cursor.advance (m + n) := by
  unfold Cursor.advance
  rw [Nat.add_assoc]

theorem Progress.after_afterAll (p : Progress) (e : String × List Frame) (es : List String × List Frame) :
    (p.after e).afterAll es = p.afterAll (e.1 :: es.1, es.2) := by
  unfold Progress.afterAll
  have hcursor : (p.after e).cursor = p.cursor.advance 1 := rfl
  rw [hcursor, Cursor.advance_advance, Nat.add_comm]
  rfl

/-! ## 3. Directives -/

section Directives

variable {setting : Setting} {run : Job → Preprocess Output} {job : Job} {p : Progress}
  {location : Location} {base : Option Path}
variable {kind : Kind} {body : List Char}

theorem blankLine_chars (line : Line kind) : blankLine line.chars = ['\n'] := by
  unfold blankLine Line.chars
  rw [getLast?_append]
  rfl

theorem isContinued_backslash (content : List Char) : isContinued (content ++ ['\\'] ++ ['\n']) := by
  unfold isContinued trimEnd
  rw [reverse_append, reverse_append]
  simp only [reverse_singleton, singleton_append]
  rw [dropWhile_cons_of_pos (by decide), dropWhile_cons_of_neg (by decide)]
  simp

/-- A line that goes on in no other line is left as it is. -/
theorem joinContinued_line (hunbroken : content.any isLineBoundary = false)
    (h : isContinued (content ++ ['\n']) = false) :
    joinContinued (content ++ ['\n']) = content ++ ['\n'] := by
  have hlast : content.getLast? ≠ some '\\' := by
    intro hlast
    obtain ⟨front, rfl⟩ := getLast?_eq_some_iff.mp hlast
    rw [isContinued_backslash] at h
    cases h
  clear h
  induction content with
  | nil => rfl
  | cons c content ih =>
    rw [any_cons, Bool.or_eq_false_iff] at hunbroken
    have hpair : ∀ rest, c :: (content ++ ['\n']) ≠ '\\' :: '\n' :: rest := by
      intro rest heq
      cases content with
      | nil =>
        cases heq
        exact hlast rfl
      | cons d content =>
        cases heq
        exact absurd hunbroken.2 (by simp [isLineBoundary])
    have htail : joinContinued (content ++ ['\n']) = content ++ ['\n'] := by
      refine ih hunbroken.2 fun hl => hlast ?_
      rw [getLast?_cons, hl]
      rfl
    rw [cons_append, joinContinued.eq_def]
    split
    · rename_i heq
      exact absurd heq (hpair _)
    · rename_i heq
      cases heq
      rw [htail]
    · rename_i heq
      cases heq

/-- The lines of a directive leave an empty line. -/
theorem passDirective_eq (line : Line kind) (hin : p.inComment = false)
    (hline : endsInComment line.chars false = false) : passDirective p [line.chars] = p.put "\n" := by
  unfold passDirective Progress.put
  simp only [pushBlank, blankLine_chars, scanComments, foldl_cons, foldl_nil, hin, hline, length_singleton]
  rfl

theorem macroName_eq (h : words (Condition.withoutComments body) = [name.toList] ∧ isName name.toList) :
    macroName body location = pure name := by
  unfold macroName
  rw [h.1]
  dsimp only
  rw [if_pos h.2, String.ofList_toList]

theorem namedIsDefined_eq (h : words (Condition.withoutComments body) = [name.toList] ∧ isName name.toList) :
    namedIsDefined body location = isDefined name := by
  unfold namedIsDefined
  rw [macroName_eq h, pure_bind]

theorem openGroup_eq (h : test.OperandIs body) (frames : List Frame) :
    openGroup test.opening body location base frames = (do
      let holds ← test.ask (isActive frames) location base
      return ⟨isActive frames, holds, holds, false⟩ :: frames) := by
  cases test with
  | condition asked =>
    cases h
    unfold openGroup Test.opening Test.ask
    cases isActive frames <;> rfl
  | defined name | undefined name =>
    unfold openGroup Test.opening Test.ask
    rw [namedIsDefined_eq h]
    cases isActive frames <;> rfl

theorem nextBranch_eq (h : test.OperandIs body)
    (hknown : test.branch = .elif ∨ setting.options.standard = .gnu11) (frame : Frame) :
    nextBranch test.branch body location base frame setting = (do
      carryOut frame.sawElse (refuseAt location (.group (.afterElse test.branch.name)))
      let holds ← test.ask (frame.parentActive && !frame.branchTaken) location base
      return { frame with active := holds, branchTaken := frame.branchTaken || holds } : Preprocess Frame)
      setting := by
  have hstandard : ∀ f : Standard → Preprocess Frame,
      (standard >>= f) setting = f setting.options.standard setting := fun _ => rfl
  unfold nextBranch
  rw [hstandard, if_neg (by rintro ⟨hne, hc11⟩; rcases hknown with hk | hk <;> simp_all)]
  obtain ⟨parentActive, active, branchTaken, sawElse⟩ := frame
  cases sawElse with
  | true => rfl
  | false =>
    cases parentActive <;> cases branchTaken
    · rfl
    · rfl
    · cases test with
      | condition asked =>
        cases h
        rfl
      | defined name | undefined name =>
        rw [namedIsDefined_eq h]
        rfl
    · rfl

theorem requireEmpty_eq (h : NoOperand body) : requireEmpty directive body location = pure () := by
  unfold requireEmpty
  rw [h]
  rfl

theorem lastBranch_eq (h : NoOperand body) (frame : Frame) : lastBranch body location frame = (do
      carryOut frame.sawElse (refuseAt location (.group .duplicateElse))
      return { frame with
        sawElse := true, active := frame.parentActive && !frame.branchTaken, branchTaken := true }) := by
  unfold lastBranch carryOut
  rw [requireEmpty_eq h]
  cases frame.sawElse <;> rfl

theorem joinContinued_chars (line : Line kind) (hcont : isContinued line.chars = false) :
    joinContinued [line.chars].flatten = line.chars := by
  rw [flatten_singleton]
  exact joinContinued_line line.unbroken hcont

section Directive

variable (line : Line kind) (hd : Directive.ofLine? line.chars = some d) (hcont : isContinued line.chars = false)
  (hcomment : endsInComment line.chars false = false) (hin : p.inComment = false)

include hd hcont hcomment hin

/-- A directive that belongs to a group acts on the open groups and leaves an empty line. -/
theorem processDirectiveLines_group (hgroup : GroupDirective.ofName? d.name = some group) :
    processDirectiveLines run job p [line.chars] = (do
      let frames ← handleGroup group d.body (p.cursor.directivePlace 0) job.base p.frames
      return { p.put "\n" with frames }) := by
  unfold processDirectiveLines
  rw [joinContinued_chars line hcont, hd]
  dsimp only
  rw [hgroup]
  rw [passDirective_eq line hin hcomment]

/-- A definition is carried out in selected text and leaves an empty line. -/
theorem processDirectiveLines_definition (hgroup : GroupDirective.ofName? d.name = none)
    (haction : processDirective run job p d [line.chars] = (do action return passDirective p [line.chars])) :
    processDirectiveLines run job p [line.chars] = (do
      carryOut (isActive p.frames) action
      return p.put "\n") := by
  unfold processDirectiveLines carryOut
  rw [joinContinued_chars line hcont, hd]
  dsimp only
  rw [hgroup]
  rw [haction, passDirective_eq line hin hcomment]
  cases isActive p.frames <;> rfl

end Directive

/-- **A directive does to the open groups what its kind says.** -/
theorem processDirectiveLines_eq (line : AnyLine) (hkind : line.1 ≠ .text) (hin : p.inComment = false)
    (hknown : line.Known setting.options.standard) :
    processDirectiveLines run job p [line.chars] setting =
      (effect job.base p.cursor p.frames line >>= fun e => pure (p.after e)) setting := by
  obtain ⟨kind, line⟩ := line
  cases kind with
  | text => exact absurd rfl hkind
  | define body | undef body =>
    obtain ⟨d, hd, rfl, hcont, hcomment⟩ := line.reads
    refine congrFun ((processDirectiveLines_definition line hd hcont hcomment hin rfl rfl).trans ?_) setting
    simp only [effect, bind_assoc, pure_bind]
    rfl
  | opening test =>
    obtain ⟨⟨name, body⟩, hd, ⟨rfl, hoperand⟩, hcont, hcomment⟩ := line.reads
    have hgroup : GroupDirective.ofName? test.opening.name = some test.opening := by
      cases test <;> rfl
    have hhandle : handleGroup test.opening body (p.cursor.directivePlace 0) job.base p.frames =
        openGroup test.opening body (p.cursor.directivePlace 0) job.base p.frames := by
      cases test <;> rfl
    refine congrFun ((processDirectiveLines_group line hd hcont hcomment hin hgroup).trans ?_) setting
    simp only [hhandle, openGroup_eq hoperand, effect, bind_assoc, pure_bind]
    rfl
  | branch test =>
    obtain ⟨⟨name, body⟩, hd, ⟨rfl, hoperand⟩, hcont, hcomment⟩ := line.reads
    have hgroup : GroupDirective.ofName? test.branch.name = some test.branch := by
      cases test <;> rfl
    refine (congrFun (processDirectiveLines_group line hd hcont hcomment hin hgroup) setting).trans ?_
    cases hframes : p.frames with
    | nil => cases test <;> rfl
    | cons frame outer =>
      have hhandle : handleGroup test.branch body (p.cursor.directivePlace 0) job.base (frame :: outer) =
          (nextBranch test.branch body (p.cursor.directivePlace 0) job.base frame >>= fun frame =>
            pure (frame :: outer)) := by
        cases test <;> rfl
      rw [hhandle, bind_assoc, bind_left (nextBranch_eq hoperand hknown frame)]
      simp only [effect, bind_assoc, pure_bind]
      rfl
  | else_ | endif =>
    obtain ⟨⟨name, body⟩, hd, ⟨rfl, hoperand⟩, hcont, hcomment⟩ := line.reads
    refine congrFun ((processDirectiveLines_group line hd hcont hcomment hin rfl).trans ?_) setting
    cases hframes : p.frames with
    | nil => rfl
    | cons frame outer =>
      simp only [handleGroup, lastBranch_eq hoperand, requireEmpty_eq hoperand, effect, bind_assoc, pure_bind]
      rfl

end Directives

/-! ## 4. Text and whole texts -/

section Texts

variable {setting : Setting} {run : Job → Preprocess Output} {job : Job} {p : Progress}

theorem Line.plain (line : Line .text) (hc : specialChars.contains c) : c ∉ line.chars := by
  intro hmem
  have h : line.chars.any specialChars.contains = false := line.reads
  rw [any_eq_false] at h
  exact h c hmem hc

/-- Plain text is no directive. -/
theorem Line.ofLine?_eq_none (line : Line .text) : Directive.ofLine? line.chars = none := by
  unfold Directive.ofLine?
  split
  · rename_i rest htrim
    refine absurd ?_ (line.plain (c := '#') (by decide))
    have hmem : '#' ∈ trimFront line.chars := htrim ▸ mem_cons_self
    exact (dropWhile_sublist _).mem hmem
  · rfl

theorem scanRegion_plain (h : ∀ c ∈ cs, specialChars.contains c = false) : scanRegion .code cs = .code := by
  induction cs with
  | nil => rfl
  | cons c cs ih =>
    obtain ⟨hc, hcs⟩ := forall_mem_cons.mp h
    have hspecial : ∀ d ∈ ['/', '"', '\''], c ≠ d := by
      rintro d hd rfl
      simp only [mem_cons, not_mem_nil, or_false] at hd
      rcases hd with rfl | rfl | rfl <;> exact absurd hc (by decide)
    rw [scanRegion.eq_def]
    all_goals simp_all

theorem Line.endsInComment_eq (line : Line .text) : endsInComment line.chars false = false := by
  have h : scanRegion .code line.chars = .code := by
    refine scanRegion_plain fun c hc => ?_
    rw [Bool.eq_false_iff]
    exact fun hspecial => line.plain hspecial hc
  unfold endsInComment
  rw [if_neg Bool.false_ne_true, h]
  rfl

/-- An action that goes on with its failure as a value. -/
theorem tryCatch_bind {α β : Type} (x : Preprocess α) (f : Except Failure α → Preprocess β) (state : State) :
    ((tryCatch (do return Except.ok (← x)) fun failure => return Except.error failure) >>= f)
        setting state =
      f (x setting state).1 setting (x setting state).2 := by
  refine bind_of_ok ?_
  rcases hrun : x setting state with ⟨failure | a, state'⟩
  · exact tryCatch_of_error (bind_of_error hrun)
  · exact tryCatch_of_ok (bind_of_ok hrun)

section Across

variable {cursor : Cursor} {base : Option Path} {text expanded : String} {frames : List Frame}
  {taken rest : List (List Char)} {state state' : State} {failure : Failure}

/-- A text whose expansion succeeds takes no more lines. -/
theorem expandAcross_of_ok (h : expandLine text cursor.location setting state = (.ok expanded, state')) :
    expandAcross cursor base text frames taken rest setting state = (.ok (expanded, taken.reverse), state') := by
  cases rest with
  | nil => exact bind_of_ok h
  | cons next rest =>
    rw [expandAcross, tryCatch_bind, h]
    rfl

/-- A text whose expansion fails, and not because it wants more lines, is refused. -/
theorem expandAcross_of_error (h : expandLine text cursor.location setting state = (.error failure, state'))
    (hmore : ¬failure.WantsMore) :
    expandAcross cursor base text frames taken rest setting state = (.error failure, state') := by
  cases rest with
  | nil => exact bind_of_error h
  | cons next rest =>
    rw [expandAcross, tryCatch_bind, h]
    dsimp only
    split
    · exact absurd ⟨_, rfl⟩ hmore
    · rfl

end Across

/-- A line is expanded alone, unless its expansion wants more lines. -/
theorem expandAcross_agrees (cursor : Cursor) (base : Option Path) (text : String) (rest : List (List Char)) :
    Agrees setting (expandAcross cursor base text [] [] rest)
      (expandLine text cursor.location >>= fun expanded => pure (expanded, [])) := by
  intro state
  rcases hrun : expandLine text cursor.location setting state with ⟨failure | expanded, state'⟩
  · rw [bind_of_error hrun]
    by_cases hmore : failure.WantsMore
    · exact .inl ⟨failure, rfl, hmore⟩
    · exact .inr (expandAcross_of_error hrun hmore)
  · rw [bind_of_ok hrun]
    exact .inr (expandAcross_of_ok hrun)

/-- **A line of text is kept or not by the open groups.** -/
theorem processTextLine_agrees (line : Line .text) (hin : p.inComment = false) (base : Option Path)
    (rest : List (List Char)) :
    Agrees setting (processTextLine base p line.chars rest)
      (effect base p.cursor p.frames ⟨_, line⟩ >>= fun e => pure (p.after e, 0)) := by
  have hscan : scanComments [line.chars] p.inComment = false := by
    rw [hin]
    exact line.endsInComment_eq
  unfold processTextLine
  simp only [effect, Line.keep, hin, Bool.not_false, Bool.and_true, bind_assoc, pure_bind]
  cases hactive : isActive p.frames with
  | true =>
    refine (expandAcross_agrees p.cursor base _ rest).bind fun expanded => .of_eq ?_
    rw [hin] at hscan
    simp only [hscan, pushBlank, length_nil]
    unfold Progress.after Progress.put
    simp only [hin]
  | false =>
    refine .of_eq ?_
    simp only [Bool.false_eq_true, if_false, pure_bind, line.endsInComment_eq, blankLine_chars line]
    unfold Progress.after Progress.put
    simp only [hin]

theorem AnyLine.directive (line : AnyLine) (hkind : line.1 ≠ .text) :
    (∃ d, Directive.ofLine? line.chars = some d) ∧ isContinued line.chars = false := by
  obtain ⟨kind, line⟩ := line
  cases kind with
  | text => exact absurd rfl hkind
  | _ =>
    obtain ⟨d, hd, -, hcont, -⟩ := line.reads
    exact ⟨⟨d, hd⟩, hcont⟩

/-- A directive does to the open groups what its kind says, and then the other lines follow. -/
theorem processLines_directive (hkind : line.1 ≠ .text)
    (hin : p.inComment = false) (hknown : line.Known setting.options.standard) :
    processLines run job p 0 ((line :: ls).map chars) setting = (effect job.base p.cursor p.frames line >>= fun e =>
        processLines run job (p.after e) 0 (ls.map chars)) setting := by
  obtain ⟨⟨d, hd⟩, hcont⟩ := line.directive hkind
  have hmore : continuation line.chars (ls.map chars) = [] := by
    cases ls with
    | nil => rfl
    | cons next ls => rw [map_cons, continuation, hcont, if_neg Bool.false_ne_true]
  rw [map_cons, processLines, hin, hd, if_neg (by simp), hmore,
    bind_left (processDirectiveLines_eq line hkind hin hknown)]
  simp only [bind_assoc, pure_bind, length_nil]

theorem processLines_text (line : Line .text) (rest : List (List Char)) (hin : p.inComment = false) :
    processLines run job p 0 (line.chars :: rest) = (do
      let (p, used) ← processTextLine job.base p line.chars rest
      processLines run job p used rest) := by
  rw [processLines, hin, Bool.false_or, line.ofLine?_eq_none, Option.isNone_none, if_pos rfl]

/-- **Lines do to the open groups what their kinds say**, one after another. -/
theorem processLines_agrees (ls : List AnyLine) (hin : p.inComment = false)
    (hknown : ∀ line ∈ ls, line.Known setting.options.standard) :
    Agrees setting (processLines run job p 0 (ls.map chars))
      (effects job.base p.cursor p.frames ls >>= fun e => pure (p.afterAll e)) := by
  induction ls generalizing p with
  | nil =>
    refine .of_eq ?_
    rfl
  | cons line ls ih =>
    obtain ⟨hline, hls⟩ := forall_mem_cons.mp hknown
    have hrest : ∀ e, Agrees setting (processLines run job (p.after e) 0 (ls.map chars))
        (effects job.base (p.cursor.advance 1) e.2 ls >>= fun es =>
          pure (p.afterAll (e.1 :: es.1, es.2))) := by
      intro e
      have h := ih (p := p.after e) hin hls
      simp only [Progress.after_afterAll] at h
      exact h
    have hright : (effects job.base p.cursor p.frames (line :: ls) >>= fun es => pure (p.afterAll es)) =
        (effect job.base p.cursor p.frames line >>= fun e =>
          effects job.base (p.cursor.advance 1) e.2 ls >>= fun es =>
            pure (p.afterAll (e.1 :: es.1, es.2))) := by
      rw [effects]
      simp only [bind_assoc, pure_bind]
    rw [hright]
    by_cases hkind : line.1 = .text
    · obtain ⟨kind, line⟩ := line
      cases hkind
      rw [map_cons, chars, processLines_text line _ hin]
      exact (processTextLine_agrees line hin job.base _).bind hrest
    · intro state
      rw [processLines_directive hkind hin hline]
      have hline : Agrees setting (effect job.base p.cursor p.frames line)
          (effect job.base p.cursor p.frames line >>= fun e => pure e) := .of_eq (by rw [bind_pure])
      exact hline.bind hrest state

end Texts

/-! ## 5. Open groups and the tree -/

section Tree

variable {base : Option Path}

theorem effects_append (ls rest : List AnyLine) (cursor : Cursor) (frames : List Frame) :
    effects base cursor frames (ls ++ rest) = (do
      let front ← effects base cursor frames ls
      let behind ← effects base (cursor.advance ls.length) front.2 rest
      return (front.1 ++ behind.1, behind.2)) := by
  induction ls generalizing cursor frames with
  | nil =>
    exact (bind_pure _).symm
  | cons line ls ih =>
    simp only [cons_append, effects, ih, bind_assoc, pure_bind, length_cons, Cursor.advance_advance, Nat.add_comm 1]

/-- A test holds only where it counts. -/
theorem Test.ask_congr {α : Type} {counts : Bool} {location : Location}
    {f g : Bool → Preprocess α} (h : ∀ holds : Bool, (holds → counts) → f holds = g holds) :
    (test.ask counts location base >>= f) = (test.ask counts location base >>= g) := by
  cases counts with
  | true => rw [funext fun holds => h holds fun _ => rfl]
  | false =>
    exact h false nofun

/-- In an open group text is kept where its branch is, if a branch is kept only in text that is. -/
theorem isActive_cons {frame : Frame} {frames : List Frame}
    (h : frame.active → isActive frames) : isActive (frame :: frames) = frame.active := by
  show (frame.active && isActive frames) = frame.active
  cases hactive : frame.active with
  | true => rw [h hactive, Bool.and_true]
  | false => rw [Bool.false_and]

mutual

/-- **Of a document the open groups keep what the tree selects**, and they are the same behind it. -/
theorem effects_doc (base : Option Path) (doc : Doc) (cursor : Cursor) (frames : List Frame) :
    effects base cursor frames doc.lines = (do
      let texts ← doc.select base (isActive frames) cursor
      return (texts, frames)) := by
  cases doc with
  | done => simp only [Doc.lines, Doc.select, effects, pure_bind]
  | text line next | define body line next | undef body line next =>
    simp only [Doc.lines, Doc.select, effects, effect, effects_doc base next, bind_assoc, pure_bind]
  | group test line branch more next =>
    simp only [Doc.lines, Doc.select, effects, effect, effects_append, effects_doc base branch,
      effects_doc base next, bind_assoc, pure_bind]
    refine Test.ask_congr fun holds hholds => ?_
    rw [isActive_cons hholds]
    rw [effects_branches base more _ _ _ rfl rfl]
    simp only [bind_assoc, pure_bind, Cursor.advance_advance, append_assoc, length_append, Nat.add_assoc]

/-- **Of the branches of a group the open groups keep what the tree selects.** The innermost group tells
    whether the text around it is selected and whether a branch was taken. -/
theorem effects_branches (base : Option Path) (more : Branches) (cursor : Cursor) (frame : Frame) (outer : List Frame)
    (hparent : frame.parentActive = isActive outer) (helse : frame.sawElse = false) :
    effects base cursor (frame :: outer) more.lines = (do
      let texts ← more.select base (isActive outer) frame.branchTaken cursor
      return (texts, outer)) := by
  cases more with
  | endif line => simp only [Branches.lines, Branches.select, effects, effect, pure_bind]
  | branch test line body more =>
    simp only [Branches.lines, Branches.select, effects, effect, effects_append, effects_doc base body,
      bind_assoc, helse, carryOut, Bool.false_eq_true, if_false, pure_bind, hparent]
    refine Test.ask_congr fun holds hholds => ?_
    rw [isActive_cons fun h => (Bool.and_eq_true_iff.mp (hholds h)).1]
    rw [effects_branches base more _ _ _ rfl rfl]
    simp only [bind_assoc, pure_bind, Cursor.advance_advance]
  | else_ line body last =>
    simp only [Branches.lines, Branches.select, effects, effect, effects_append, effects_doc base body,
      bind_assoc, helse, carryOut, Bool.false_eq_true, if_false, pure_bind, hparent]
    rw [isActive_cons fun h => (Bool.and_eq_true_iff.mp h).1]

end

end Tree

/-! ## 6. Open groups and nesting -/

section Nesting

variable {setting : Setting} {base : Option Path} {cursor : Cursor} {frames : List Frame}

/-- Which open groups had their `#else`. -/
def elses (frames : List Frame) : List Bool := frames.map (·.sawElse)

/-- **The open groups follow how a line nests.** -/
theorem nest_effect (line : AnyLine) : Yields setting (effect base cursor frames line) fun e =>
      line.1.nest (elses frames) = .ok (elses e.2) := by
  obtain ⟨kind, line⟩ := line
  cases kind with
  | text | define body | undef body | opening test => exact Yields.trivial.bind fun _ _ => .pure rfl
  | branch test =>
    rcases frames with _ | ⟨⟨parentActive, active, branchTaken, _ | _⟩, outer⟩
    · exact nofun
    · exact Yields.trivial.bind fun _ _ => Yields.trivial.bind fun _ _ => .pure rfl
    · exact nofun
  | else_ =>
    rcases frames with _ | ⟨⟨parentActive, active, branchTaken, _ | _⟩, outer⟩
    · exact nofun
    · exact Yields.trivial.bind fun _ _ => .pure rfl
    · exact nofun
  | endif =>
    rcases frames with _ | ⟨⟨parentActive, active, branchTaken, _ | _⟩, outer⟩
    · exact nofun
    · exact .pure rfl
    · exact .pure rfl

/-- A line that does not nest is refused. -/
theorem effect_of_fault (h : line.1.nest (elses frames) = .error fault) :
    effect base cursor frames line = refuseAt (cursor.directivePlace 0) (.group fault) := by
  obtain ⟨kind, line⟩ := line
  cases kind with
  | text | define body | undef body | opening test => cases h
  | branch | else_ =>
    rcases frames with _ | ⟨⟨parentActive, active, branchTaken, _ | _⟩, outer⟩ <;> cases h <;> rfl
  | endif =>
    rcases frames with _ | ⟨frame, outer⟩
    · cases h
      rfl
    · cases h

/-- **The open groups follow how lines nest.** -/
theorem nest_effects (h : nestAll (elses frames) ls = .ok groups) :
    Yields setting (effects base cursor frames ls) fun e =>
      e.1.length = ls.length ∧ elses e.2 = groups := by
  induction ls generalizing cursor frames with
  | nil =>
    cases h
    exact .pure ⟨rfl, rfl⟩
  | cons line ls ih =>
    obtain ⟨behind, hline, hls⟩ := nestAll_cons.mp h
    refine (nest_effect line).bind fun e he => ?_
    rw [hline] at he
    cases he
    exact (ih hls).bind fun es hes => .pure ⟨congrArg (· + 1) hes.1, hes.2⟩

/-- Lines that end the open groups leave none open and nothing but empty lines. -/
theorem effects_ends (hends : ∀ line ∈ ends, line.1 = .endif) (h : fault? (elses frames) number ends = none) :
    effects base cursor frames ends = pure (ends.map fun _ => "\n", []) := by
  induction ends generalizing cursor frames number with
  | nil =>
    cases frames with
    | nil => rfl
    | cons frame frames => cases h
  | cons line ends ih =>
    obtain ⟨hline, hothers⟩ := forall_mem_cons.mp hends
    obtain ⟨kind, line⟩ := line
    cases hline
    cases frames with
    | nil => cases h
    | cons frame frames =>
      simp only [effects, effect, pure_bind, ih hothers h]
      rfl

end Nesting

/-! ## 7. Conditional inclusion -/

section Inclusion

variable {setting : Setting} {job : Job} {ls : List AnyLine}

theorem linesFrom_line (h : content.any isLineBoundary = false) : linesFrom begun (content ++ '\n' :: rest) =
      (begun.reverse ++ content ++ ['\n']) :: linesFrom [] rest := by
  induction content generalizing begun with
  | nil =>
    rw [linesFrom.eq_def]
    simp [isLineBoundary]
  | cons c content ih =>
    rw [any_cons, Bool.or_eq_false_iff] at h
    have hreturn : c ≠ '\r' := fun heq => by rw [heq] at h; exact absurd h.1 (by decide)
    have hstep : linesFrom begun (c :: (content ++ '\n' :: rest)) =
        linesFrom (c :: begun) (content ++ '\n' :: rest) := by
      rw [linesFrom.eq_def]
      split
      · rename_i heq
        cases heq
      · rename_i heq
        exact absurd (cons.inj heq).1 hreturn
      · rename_i heq
        obtain ⟨rfl, rfl⟩ := cons.inj heq
        rw [h.1, if_neg Bool.false_ne_true]
    rw [cons_append, hstep, ih h.2, reverse_cons]
    simp only [append_assoc, cons_append, nil_append]

/-- A text of lines is cut into these lines. -/
theorem lines_flatMap (ls : List AnyLine) : lines (ls.flatMap chars) = ls.map chars := by
  induction ls with
  | nil => rfl
  | cons line ls ih =>
    have hchars : chars line ++ ls.flatMap chars = line.2.content ++ '\n' :: ls.flatMap chars := by
      simp only [chars, Line.chars, append_assoc, cons_append, nil_append]
    rw [flatMap_cons, hchars, lines, linesFrom_line line.2.unbroken, map_cons, ← ih]
    rfl

/-- Where a text begins. -/
def Job.start (job : Job) : Cursor := { file := job.file, level := job.stack.length - 1 }

/-- A document stands for lines: it has all of them, or those before the first fault and ends for the groups
    that are open there. -/
def Doc.StandsFor (doc : Doc) (ls : List AnyLine) : Prop :=
  match fault? [] 1 ls with
  | none => doc.lines = ls
  | some (number, _) => ∃ ends : List AnyLine, (∀ line ∈ ends, line.1 = .endif) ∧
      doc.lines = ls.take (number - 1) ++ ends

/-- What preprocessing answers for lines that nest or not. -/
def outcome (file : String) (fault : Option (Nat × GroupFault)) (out : Output) : Except Failure Output :=
  match fault with
  | none => .ok out
  | some (number, fault) => .error (.refused ⟨.group fault, some (file, number)⟩)

/-- For all lines there is a document that stands for them. -/
theorem exists_standsFor (ls : List AnyLine) : ∃ doc : Doc, doc.StandsFor ls := by
  unfold Doc.StandsFor
  cases hfault : fault? [] 1 ls with
  | none => exact exists_doc hfault
  | some found =>
    obtain ⟨number, fault⟩ := found
    obtain ⟨front, rest, groups, rfl, hfront, rfl, -⟩ := exists_front hfault
    have hclosed : fault? [] 1 (front ++ replicate groups.length ⟨_, endifLine⟩) = none := by
      rw [fault?_append hfront]
      exact fault?_replicate endifLine groups _
    obtain ⟨doc, hdoc⟩ := exists_doc hclosed
    refine ⟨doc, replicate groups.length ⟨_, endifLine⟩, ?_, ?_⟩
    · intro line hline
      rw [eq_of_mem_replicate hline]
    · rw [hdoc, Nat.add_sub_cancel_left, take_left]

/-- The answer once all lines are passed. -/
def finish (p : Progress) : Preprocess Output := do
  if !p.frames.isEmpty then refuseAt p.cursor.location (.group .unterminated)
  return p.out

theorem finish_of_open (h : p.frames ≠ []) : finish p = refuseAt p.cursor.location (.group .unterminated) := by
  unfold finish
  rw [Bool.eq_false_iff.mpr (mt List.isEmpty_iff.mp h)]
  rfl

/-- The progress before a text. -/
def Job.progress (job : Job) : Progress := ⟨{}, job.start, [], false⟩

/-- A text is preprocessed as its lines are. -/
theorem process_eq (htext : job.text.toList = ls.flatMap chars) : process job setting =
      (processLines (processWithin (setting.world.files.length + 1)) job job.progress 0
        (ls.map chars) >>= finish) setting := by
  rw [← lines_flatMap, ← htext]
  rfl

/-- **What the open groups make of lines is what the document that stands for them says.** -/
theorem finish_standsFor {doc : Doc} (hdoc : doc.StandsFor ls) :
    (effects job.base job.progress.cursor job.progress.frames ls >>= fun e => finish (job.progress.afterAll e))
      setting = (doc.select job.base true job.start >>= fun texts =>
        ofExcept (outcome job.file (fault? [] 1 ls) (Output.putLines {} job.start texts))) setting := by
  unfold Doc.StandsFor at hdoc
  cases hfault : fault? [] 1 ls with
  | none =>
    rw [hfault] at hdoc
    rw [← hdoc, effects_doc]
    simp only [bind_assoc, pure_bind]
    rfl
  | some found =>
    obtain ⟨number, fault⟩ := found
    rw [hfault] at hdoc
    obtain ⟨ends, hends, hlines⟩ := hdoc
    obtain ⟨front, rest, groups, rfl, hfront, rfl, hwhy⟩ := exists_front hfault
    rw [Nat.add_sub_cancel_left, take_left] at hlines
    have hclosed : fault? groups (1 + front.length) ends = none := by
      rw [← fault?_append hfront, ← hlines]
      exact fault?_lines doc 1
    -- the document goes the same way up to the fault and then only ends groups
    have hright : ∀ x : Preprocess Output, (doc.select job.base true job.start >>= fun _ => x) =
        (effects job.base job.start [] front >>= fun e =>
          effects job.base (job.start.advance front.length) e.2 ends >>= fun _ => x) := by
      intro x
      have htree := effects_doc job.base doc job.start []
      rw [hlines, effects_append] at htree
      have hx := congrArg (· >>= fun _ => x) htree
      simp only [bind_assoc, pure_bind] at hx
      exact hx.symm
    simp only [outcome, hright, effects_append, bind_assoc, pure_bind]
    have hshape : Yields setting (effects job.base job.start [] front) fun e =>
        e.1.length = front.length ∧ elses e.2 = groups := nest_effects hfront
    refine hshape.bind_congr fun e he => ?_
    obtain ⟨hlength, helses⟩ := he
    rw [effects_ends hends (helses ▸ hclosed)]
    rcases hwhy with ⟨rfl, hopen, rfl⟩ | ⟨line, rest, rfl, hline⟩
    · have hframes : e.2 ≠ [] := fun hnone => hopen (by rw [← helses, hnone]; rfl)
      rw [effects, pure_bind, finish_of_open hframes]
      simp only [Progress.afterAll, append_nil, hlength]
      rfl
    · rw [effects, effect_of_fault (helses ▸ hline)]
      rfl

/-- **Conditional inclusion.** Lines of plain text, definitions and directives of groups are preprocessed as
    the document says that stands for them. If every operand that counts has a value and every line that is
    kept can be expanded, then lines that do not nest are refused at the first fault, and of lines that nest
    the selected text is left, expanded, and an empty line for every other line. Else the first failure is
    the answer, unless the expansion of a line wants more lines. -/
theorem conditional_inclusion (setting : Setting) (state : State) (job : Job) (ls : List AnyLine)
    (htext : job.text.toList = ls.flatMap chars)
    (hknown : ∀ line ∈ ls, line.Known setting.options.standard) :
    (∃ doc : Doc, doc.StandsFor ls) ∧ ∀ doc : Doc, doc.StandsFor ls →
      (∀ texts state', doc.select job.base true job.start setting state = (.ok texts, state') →
        process job setting state =
          (outcome job.file (fault? [] 1 ls) (Output.putLines {} job.start texts), state')) ∧
      ∀ failure state', doc.select job.base true job.start setting state = (.error failure, state') →
        ¬ failure.WantsMore → process job setting state = (.error failure, state') := by
  refine ⟨exists_standsFor ls, fun doc hdoc => ?_⟩
  have hagrees := (@processLines_agrees _ (processWithin (setting.world.files.length + 1)) job job.progress ls rfl
    hknown).bind (f := finish) (fun e => .of_eq rfl) state
  rw [← process_eq htext, finish_standsFor hdoc] at hagrees
  constructor
  · intro texts state' hselect
    have hrun : (doc.select job.base true job.start >>= fun texts =>
          ofExcept (outcome job.file (fault? [] 1 ls) (Output.putLines {} job.start texts))) setting state =
        (outcome job.file (fault? [] 1 ls) (Output.putLines {} job.start texts), state') := by
      rw [bind_of_ok hselect]
      cases outcome job.file (fault? [] 1 ls) (Output.putLines {} job.start texts) <;> rfl
    rw [hrun] at hagrees
    rcases hagrees with ⟨failure, hfailure, place, rfl⟩ | heq
    · cases hfault : fault? [] 1 ls <;> rw [hfault] at hfailure <;> cases hfailure
    · exact heq
  · intro failure state' hselect hmore
    rw [bind_of_error hselect] at hagrees
    rcases hagrees with ⟨failure', hfailure, hwants⟩ | heq
    · cases hfailure
      exact absurd hwants hmore
    · exact heq

end Inclusion

/-- A line that opens a group if `A` is defined. -/
def ifdefLine : Line (.opening (.defined "A")) where
  content := "#ifdef A".toList
  unbroken := by decide
  reads := ⟨⟨"ifdef", " A".toList⟩, by decide, ⟨rfl, by decide, by decide⟩, by decide, by decide⟩

/-- A line that opens a group if `A` is not defined. -/
def ifndefLine : Line (.opening (.undefined "A")) where
  content := "#ifndef A".toList
  unbroken := by decide
  reads := ⟨⟨"ifndef", " A".toList⟩, by decide, ⟨rfl, by decide, by decide⟩, by decide, by decide⟩

/-- A line that begins the last branch of a group. -/
def elseLine : Line .else_ where
  content := "#else".toList
  unbroken := by decide
  reads := ⟨⟨"else", []⟩, by decide, ⟨rfl, by unfold NoOperand; decide⟩, by decide, by decide⟩

/-- Plain text. -/
def textLine (name : Char) (h : (isLineBoundary name || specialChars.contains name) = false) : Line .text where
  content := [name]
  unbroken := by
    rw [any_cons, (Bool.or_eq_false_iff.mp h).1]
    rfl
  reads := by
    show [name, '\n'].any specialChars.contains = false
    rw [any_cons, (Bool.or_eq_false_iff.mp h).2]
    rfl

/-- A text in a group that asks for a name, and in its `#else` a group that asks for the contrary. -/
def choice : Doc :=
  .group (.defined "A") ifdefLine (.text (textLine 'x' (by decide)) .done)
    (.else_ elseLine
      (.group (.undefined "A") ifndefLine (.text (textLine 'y' (by decide)) .done) (.endif endifLine) .done)
      endifLine)
    .done

/-- The text of `choice`. -/
def choiceJob : Job :=
  ⟨"#ifdef A\nx\n#else\n#ifndef A\ny\n#endif\n#endif\n", "<input>", none, ["<input>"]⟩

theorem choice_selected : process choiceJob default { macros := [] } =
      (.ok ⟨"\n\n\n\ny\n\n\n", #[("<input>", 1), ("<input>", 2), ("<input>", 3), ("<input>", 4),
        ("<input>", 5), ("<input>", 6), ("<input>", 7)]⟩, { macros := [] }) := by
  have htext : choiceJob.text.toList = choice.lines.flatMap chars := by
    decide
  have hknown : ∀ line ∈ choice.lines, line.Known (default : Setting).options.standard := by
    simp [choice, Doc.lines, Branches.lines, AnyLine.Known]
  have hfault : fault? [] 1 choice.lines = none := fault?_lines choice 1
  have hstands : choice.StandsFor choice.lines := by
    unfold Doc.StandsFor
    rw [hfault]
  have hselect : choice.select choiceJob.base true choiceJob.start default { macros := [] } =
      (.ok ["\n", "\n", "\n", "\n", "y\n", "\n", "\n"], { macros := [] }) := rfl
  have h := ((conditional_inclusion default _ _ _ htext hknown).2 choice hstands).1 _ _ hselect
  exact h.trans (by rfl)

/-! ## 8. An end that is lost -/

/-- Where a line that is kept wants more lines, it takes the end of a group from behind it, and in its own
    count of the groups that are open none is. -/
theorem processLines_wantsMore {setting : Setting} {run : Job → Preprocess Output} {job : Job} {p : Progress}
    {state state' : State} {failure : Failure} (line : Line .text) (last : Line .endif)
    (rest : List (List Char)) (hin : p.inComment = false) (hactive : isActive p.frames)
    (hrun : expandLine (String.ofList line.chars) p.cursor.location setting state = (.error failure, state'))
    (hmore : failure.WantsMore) :
    processLines run job p 0 (line.chars :: last.chars :: rest) setting state =
      (.error (.at (.group (.outside "endif")) (p.cursor.ahead 1)), state') := by
  obtain ⟨⟨name, body⟩, hd, ⟨rfl, -⟩, -⟩ := last.reads
  obtain ⟨place, rfl⟩ := hmore
  have hacross : expandAcross p.cursor job.base (String.ofList line.chars) [] [] (last.chars :: rest)
      setting state = (.error (.at (.group (.outside "endif")) (p.cursor.ahead 1)), state') := by
    unfold expandAcross
    rw [tryCatch_bind, hrun]
    rw [Line.chars, hd]
    rfl
  rw [processLines_text line _ hin]
  refine bind_of_error ?_
  unfold processTextLine
  simp only [hactive, hin, Bool.not_false, Bool.and_true, if_true]
  exact bind_of_error hacross

/-- Lines behind a directive. -/
theorem processLines_of_effect (heffect : effect job.base p.cursor p.frames line setting state = (.ok e, state'))
    (hkind : line.1 ≠ .text) (hin : p.inComment = false) (hknown : line.Known setting.options.standard) :
    processLines run job p 0 ((line :: ls).map chars) setting state =
      processLines run job (p.after e) 0 (ls.map chars) setting state' := by
  rw [processLines_directive hkind hin hknown, bind_of_ok heffect]

section Expansion

variable {setting : Setting} {state : State} {location : Location} {text : String}

theorem expandText_eq (h : Macro.expandText ⟨state.macros, setting.options.standard, location, state.baseFile, Macro.dynamicNames⟩
      text state.counter = (result, n)) :
    expandText text location setting state = (result, { state with counter := n }) := by
  have hstandard : standard setting state = (.ok setting.options.standard, state) := rfl
  have hget : (get : Preprocess State) setting state = (.ok state, state) := rfl
  unfold expandText expandAt
  rw [bind_of_ok hstandard, bind_of_ok hget]
  simp only [ExceptT.run, h]
  cases result <;> rfl

/-- A line that names a macro is expanded. -/
theorem expandLine_eq {line newline : String} (hsome : state.macros.isEmpty = false)
    (hline : cutNewline line = (text, newline)) (hnames : namesMacro state.macros text = .ok true) :
    expandLine line location setting state =
      (do return (← expandText text location) ++ newline : Preprocess String) setting state := by
  have hget : (get : Preprocess State) setting state = (.ok state, state) := rfl
  unfold expandLine
  rw [bind_of_ok hget]
  dsimp only
  rw [hsome, hline, if_neg Bool.false_ne_true]
  rw [hnames]
  split <;> rfl

end Expansion

/-- A function-like macro. -/
def wrapper : Macro := ⟨"__INT64_C", [⟨.identifier, "value"⟩], some ["value"], false⟩

/-- An object-like macro that begins an invocation of it. -/
def opener : Macro := { name := "A", replacement := [⟨.identifier, "__INT64_C"⟩, ⟨.punctuator, "("⟩] }

/-- The line that defines `opener`. -/
def openerLine : Line (.define " A __INT64_C(".toList) where
  content := "#define A __INT64_C(".toList
  unbroken := by decide
  reads := ⟨⟨"define", " A __INT64_C(".toList⟩, by decide, rfl, by decide, by decide⟩

/-- Lines that nest, of which one begins an invocation that no line ends. -/
def lostEnd : Doc :=
  .group (.undefined "A") ifndefLine
    (.define _ openerLine (.text (textLine 'A' (by decide)) .done)) (.endif endifLine) .done

/-- The text of `lostEnd`. -/
def lostEndJob : Job :=
  ⟨"#ifndef A\n#define A __INT64_C(\nA\n#endif\n", "<input>", none, ["<input>"]⟩

theorem expandTokens_opener (standard : Standard) (location : Location) (base : String) :
    Macro.expandTokens ⟨[wrapper, opener], standard, location, base, Macro.dynamicNames⟩ []
        [⟨.identifier, "A"⟩] 0 =
      (.error (.at .unterminatedInvocation location), 0) := by
  have hopened : Macro.expandTokens ⟨[wrapper, opener], standard, location, base, Macro.dynamicNames⟩
      ["A"] opener.replacement 0 = (.error (.at .unterminatedInvocation location), 0) := by
    rw [opener, Macro.expandTokens_cons]
    rfl
  rw [Macro.expandTokens_cons]
  exact Macro.bind_of_error hopened

theorem expandText_opener (setting : Setting) (location : Location) :
    expandText "A" location setting { macros := [wrapper, opener] } =
      (.error (.at .unterminatedInvocation location), { macros := [wrapper, opener] }) := by
  have htokens : MacroToken.ofText? "A" = .ok (some [⟨.identifier, "A"⟩]) := by cbv
  refine expandText_eq ?_
  simp only [Macro.expandText, Macro.expand, htokens]
  exact Macro.bind_of_error (expandTokens_opener _ location _)

/-- **Lines may nest and be refused for an end without a group**: the line in the group begins an invocation,
    and the end of the group is looked at for it. -/
theorem end_in_invocation : lostEndJob.text.toList = lostEnd.lines.flatMap chars ∧ fault? [] 1 lostEnd.lines = none ∧
      (process lostEndJob default { macros := [wrapper] }).1 =
        .error (.refused ⟨.group (.outside "endif"), some ("<input>", 4)⟩) := by
  have htext : lostEndJob.text.toList = lostEnd.lines.flatMap chars := by decide
  refine ⟨htext, fault?_lines lostEnd 1, ?_⟩
  have hdefine : Macro.ofDirective? " A __INT64_C(".toList = .ok (some opener) := by cbv
  have hnames : namesMacro [wrapper, opener] "A" = .ok true := by cbv
  have hline : expandLine (String.ofList (textLine 'A' (by decide)).chars) ⟨"<input>", 3, 0⟩ default
      { macros := [wrapper, opener] } =
        (.error (.at .unterminatedInvocation ⟨"<input>", 3, 0⟩), { macros := [wrapper, opener] }) :=
    (expandLine_eq rfl (by cbv) hnames).trans (bind_of_error (expandText_opener default _))
  have hopened : effect lostEndJob.base lostEndJob.progress.cursor lostEndJob.progress.frames
      ⟨_, ifndefLine⟩ default { macros := [wrapper] } =
        (.ok ("\n", [⟨true, true, true, false⟩]), { macros := [wrapper] }) := rfl
  have hdefined : effect lostEndJob.base
      (lostEndJob.progress.after ("\n", [⟨true, true, true, false⟩])).cursor
      (lostEndJob.progress.after ("\n", [⟨true, true, true, false⟩])).frames ⟨_, openerLine⟩ default
      { macros := [wrapper] } =
        (.ok ("\n", [⟨true, true, true, false⟩]), { macros := [wrapper, opener] }) := by
    simp only [effect, carryOut, define, hdefine]
    rfl
  have hrun : processLines (processWithin ((default : Setting).world.files.length + 1)) lostEndJob
      lostEndJob.progress 0 (lostEnd.lines.map chars) default { macros := [wrapper] } =
        (.error (.at (.group (.outside "endif")) ⟨"<input>", 4, 0⟩), { macros := [wrapper, opener] }) := by
    simp only [lostEnd, Doc.lines, Branches.lines, List.cons_append, List.nil_append]
    rw [processLines_of_effect hopened (by simp) rfl trivial, processLines_of_effect hdefined (by simp) rfl trivial]
    exact processLines_wantsMore _ _ _ rfl rfl hline ⟨_, rfl⟩
  rw [process_eq htext, bind_of_error hrun]
  rfl

end CCompiler.Preprocess
