import CCompiler.Proofs.Preprocess.Inclusion

/-!
# Where the lines of the output come from

The output of preprocessing is made of pieces. Each line of a file that is read leaves one, with the file
and the number that the line goes by; a header leaves its own in place of the line that includes it.

* `Leaves` -- what the lines of a file leave, from a line on;
* `processTextLine_passes`, `processDirectiveLines_passes` -- what is put out for one line and for a directive;
* `processLines_passes`, `process_made` -- what is put out for lines and for a whole text;
* `processSource_made` -- what is put out for a source and the files that options put before it.
-/
namespace CCompiler.Preprocess

open List Text

/-! ## 1. Pieces -/

/-- A stretch of the output, with the file and the line that it came from. -/
structure Piece where
  text : List Char
  place : String × Nat

/-- What is left of a line: a piece, or nothing. -/
def leave (text : List Char) (place : String × Nat) : List Piece :=
  if text = [] then [] else [⟨text, place⟩]

/-- What lines leave of which only the ends stay, where the first goes by a number. -/
def blanks (file : String) (number : Nat) : List (List Char) → List Piece
  | [] => []
  | line :: rest => leave (blankLine line) (file, number) ++ blanks file (number + 1) rest

namespace Output

/-- The output that pieces make. -/
def ofPieces (pieces : List Piece) : Output :=
  ⟨String.ofList (pieces.flatMap Piece.text), (pieces.map Piece.place).toArray⟩

@[simp] theorem append_ofPieces_nil (out : Output) : out.append (ofPieces []) = out := by
  simp [append, ofPieces]

@[simp] theorem nil_append (out : Output) : append {} out = out := by
  simp [append]

theorem append_assoc (a b c : Output) : (a.append b).append c = a.append (b.append c) := by
  simp [append, String.append_assoc]

theorem ofPieces_append (ps qs : List Piece) : ofPieces (ps ++ qs) = (ofPieces ps).append (ofPieces qs) := by
  simp [append, ofPieces]

/-- A line that is put out is what it leaves. -/
theorem push_eq (out : Output) (text : String) (location : Location) :
    out.push text location = out.append (ofPieces (leave text.toList (location.file, location.line))) := by
  unfold push leave
  by_cases h : text = ""
  · rw [if_pos h, if_pos (by rw [h]; rfl), append_ofPieces_nil]
  · rw [if_neg h, if_neg (by simpa using h)]
    simp [append, ofPieces]

end Output

theorem pushBlank_eq (hplace : ∀ k, ((place k).file, (place k).line) = (file, start + k)) (out : Output) (number : Nat)
    (ls : List (List Char)) :
    pushBlank out place number ls = out.append (.ofPieces (blanks file (start + number) ls)) := by
  induction ls generalizing out number with
  | nil => rw [pushBlank, blanks, Output.append_ofPieces_nil]
  | cons line rest ih =>
    rw [pushBlank, ih, Output.push_eq, hplace, String.toList_ofList, Output.append_assoc,
      ← Output.ofPieces_append, blanks, Nat.add_assoc]

/-! ## 2. What lines leave -/

/-- A directive with one of some names, over lines. -/
def IsDirective (names : List String) (ls : List (List Char)) (directive : Directive) : Prop :=
  Directive.ofLine? (joinContinued ls.flatten) = some directive ∧ directive.name ∈ names

/-- What the lines of a file leave, from a line on that goes by a number. -/
inductive Leaves (setting : Setting) : String → Nat → List (List Char) → List Piece → Prop
  | finish {file number} : Leaves setting file number [] []
  /-- A line that is not kept, or that a directive stands in, leaves its end. -/
  | blank {file number line rest pieces} (h : Leaves setting file (number + 1) rest pieces) :
      Leaves setting file number (line :: rest) (leave (blankLine line) (file, number) ++ pieces)
  /-- A line inside a comment is kept as it is. -/
  | kept {file number line rest pieces} (h : Leaves setting file (number + 1) rest pieces) :
      Leaves setting file number (line :: rest) (leave line (file, number) ++ pieces)
  /-- A line leaves its expansion, with lines behind it that an invocation in it took. -/
  | expanded {file number level line} {taken chosen : List (List Char)} {rest} {text : String} {pieces state state'}
      (hchosen : chosen.Sublist taken)
      (hexpand : expandLine (String.ofList (line ++ chosen.flatten)) ⟨file, number, level⟩ setting state =
        (.ok text, state')) (h : Leaves setting file (number + 1 + taken.length) rest pieces) :
      Leaves setting file number (line :: (taken ++ rest))
        (leave text.toList (file, number) ++ (blanks file (number + 1) taken ++ pieces))
  /-- The lines behind `#line` go by the number and the file name that it gives. -/
  | renumbered {file number next name directive ls rest pieces state state'}
      (hdirective : IsDirective ["line"] ls directive)
      (hline : lineDirective directive.body ⟨file, number, 0⟩ setting state = (.ok (next, name), state'))
      (h : Leaves setting (name.getD file) next rest pieces) :
      Leaves setting file number (ls ++ rest) (blanks file number ls ++ pieces)
  /-- In place of the first line of `#include` stands what the lines of a header leave. -/
  | included {file number directive path text line more rest header pieces}
      (hdirective : IsDirective ["include", "include_next"] (line :: more) directive)
      (hread : setting.world.files.read path = .ok text)
      (hheader : Leaves setting path.text 1 (lines text.toList) header)
      (h : Leaves setting file (number + 1 + more.length) rest pieces) :
      Leaves setting file number (line :: (more ++ rest)) (header ++ (blanks file (number + 1) more ++ pieces))
  /-- A header that was to be included once leaves nothing the next time. -/
  | passed {file number directive line more rest pieces}
      (hdirective : IsDirective ["include", "include_next"] (line :: more) directive)
      (h : Leaves setting file (number + 1 + more.length) rest pieces) :
      Leaves setting file number (line :: (more ++ rest)) (blanks file (number + 1) more ++ pieces)

variable {base : Option Path} {file expanded : String} {number : Nat} {ls : List (List Char)}
  {directive : Directive} {names : List String}

theorem Leaves.blanks (h : Leaves setting file (number + ls.length) rest pieces) :
    Leaves setting file number (ls ++ rest) (Preprocess.blanks file number ls ++ pieces) := by
  induction ls generalizing number with
  | nil => exact h
  | cons line ls ih =>
    rw [Preprocess.blanks, append_assoc]
    refine .blank (ih ?_)
    rwa [length_cons, Nat.add_comm ls.length, ← Nat.add_assoc] at h

/-- From one progress to another, lines are passed over: what they leave is put out, and some lines are
    left to be read. -/
def Passes (setting : Setting) (p q : Progress) (ls rest : List (List Char)) : Prop :=
  ∃ pieces, q.out = p.out.append (.ofPieces pieces) ∧ ∀ more, Leaves setting q.cursor.file q.cursor.line rest more →
      Leaves setting p.cursor.file p.cursor.line ls (pieces ++ more)

theorem Passes.refl (setting : Setting) (p : Progress) (ls : List (List Char)) : Passes setting p p ls ls :=
  ⟨[], (Output.append_ofPieces_nil _).symm, fun _ h => h⟩

theorem Passes.trans (h1 : Passes setting p q ls rest) (h2 : Passes setting q r rest behind) :
    Passes setting p r ls behind := by
  obtain ⟨ps, hq, hps⟩ := h1
  obtain ⟨qs, hr, hqs⟩ := h2
  refine ⟨ps ++ qs, ?_, fun more hmore => ?_⟩
  · rw [hr, hq, Output.append_assoc, Output.ofPieces_append]
  · rw [append_assoc]
    exact hps _ (hqs _ hmore)

/-! ## 3. Lines of text -/

section Lines

variable {setting : Setting} {α β : Type}

variable {text : String} {location : Location} {rest : List (List Char)}

/-- An action has the values that its runs have. -/
theorem Yields.self (x : Preprocess α) :
    Yields setting x fun a => ∃ state state', x setting state = (.ok a, state') :=
  fun state _ state' h => ⟨state, state', h⟩

theorem Yields.throw {failure : Failure} {P : α → Prop} : Yields setting (throw failure : Preprocess α) P := by
  intro state a state' h
  cases h

theorem Yields.refuseAt {P : α → Prop} : Yields setting (refuseAt location cause : Preprocess α) P :=
  Yields.throw

theorem Yields.mono {P Q : α → Prop} (h : Yields setting x P) (hpq : ∀ a, P a → Q a) : Yields setting x Q :=
  fun state a state' hrun => hpq a (h state a state' hrun)

/-- The expansion of a text takes some of the lines that follow, the first ones, and puts some of these
    behind the text. -/
def Takes (setting : Setting) (location : Location) (text : String) (rest more : List (List Char))
    (expanded : String) : Prop :=
  ∃ behind chosen, rest = more ++ behind ∧ List.Sublist chosen more ∧
    ∃ state state', expandLine (text ++ String.ofList chosen.flatten) location setting state = (.ok expanded, state')

theorem Takes.nil (h : expandLine text location setting state = (.ok expanded, state')) :
    Takes setting location text rest [] expanded := by
  refine ⟨rest, [], rfl, .slnil, state, state', ?_⟩
  rw [flatten_nil, String.append_empty]
  exact h

/-- A line that stands between an invocation and its end is taken, and perhaps put behind the text. -/
theorem Takes.cons {next : List Char} {more : List (List Char)} (joins : Bool)
    (h : Takes setting location (if joins then text ++ String.ofList next else text) rest more expanded) :
    Takes setting location text (next :: rest) (next :: more) expanded := by
  obtain ⟨behind, chosen, rfl, hchosen, state, state', hrun⟩ := h
  cases joins with
  | true =>
    refine ⟨behind, next :: chosen, rfl, hchosen.cons_cons next, state, state', ?_⟩
    rwa [flatten_cons, String.ofList_append, ← String.append_assoc]
  | false => exact ⟨behind, chosen, rfl, hchosen.cons next, state, state', hrun⟩

theorem expandAcross_takes {cursor : Cursor} {frames : List Frame} {taken : List (List Char)} :
    Yields setting (expandAcross cursor base text frames taken rest) fun (expanded, ls) =>
      ∃ more, ls = taken.reverse ++ more ∧ Takes setting cursor.location text rest more expanded := by
  induction rest generalizing text frames taken with
  | nil =>
    refine (Yields.self _).bind fun expanded ⟨state, state', hrun⟩ => .pure ⟨[], ?_, .nil hrun⟩
    rw [append_nil]
  | cons next rest ih =>
    have hnext : ∀ (joins : Bool) frames, Yields setting
        (expandAcross cursor base (if joins then text ++ String.ofList next else text) frames
          (next :: taken) rest) fun (expanded, ls) =>
        ∃ more, ls = taken.reverse ++ more ∧ Takes setting cursor.location text (next :: rest) more expanded := by
      intro joins frames
      refine ih.mono fun (expanded, ls) ⟨more, hls, htakes⟩ => ⟨next :: more, ?_, htakes.cons joins⟩
      rw [hls, reverse_cons, append_assoc]
      rfl
    intro state result state' hrun
    rcases hline : expandLine text cursor.location setting state with ⟨failure | expanded, state1⟩
    · -- only an invocation that wants more lines goes on
      by_cases hmore : failure.WantsMore
      · obtain ⟨place, rfl⟩ := hmore
        rw [expandAcross, tryCatch_bind, hline] at hrun
        rcases hd : Directive.ofLine? next with _ | directive <;> rw [hd] at hrun
        · exact hnext (isActive frames) frames _ _ _ hrun
        · dsimp only at hrun
          rcases hgroup : GroupDirective.ofName? directive.name with _ | group <;> rw [hgroup] at hrun
          · cases hrun
          · exact (Yields.trivial.bind fun frames _ => hnext false frames) _ _ _ hrun
      · rw [expandAcross_of_error hline hmore] at hrun
        cases hrun
    · rw [expandAcross_of_ok hline] at hrun
      cases hrun
      exact ⟨[], (append_nil _).symm, .nil hline⟩

/-- A line that is no directive leaves its end, itself or its expansion. -/
theorem processTextLine_passes : Yields setting (processTextLine base p line rest) fun (q, used) =>
      Passes setting p q (line :: rest) (rest.drop used) := by
  unfold processTextLine
  split
  · refine expandAcross_takes.bind fun (expanded, taken) h => .pure ?_
    obtain ⟨more, hmore, behind, chosen, rfl, hchosen, state, state', hrun⟩ := h
    obtain rfl : taken = more := hmore
    have hplace : ∀ k, ((p.cursor.ahead k).file, (p.cursor.ahead k).line) =
        (p.cursor.file, p.cursor.line + k) := fun _ => rfl
    refine ⟨leave expanded.toList (p.cursor.file, p.cursor.line) ++
      blanks p.cursor.file (p.cursor.line + 1) taken, ?_, fun pieces hpieces => ?_⟩
    · rw [pushBlank_eq hplace, Output.push_eq, Output.append_assoc, ← Output.ofPieces_append]
      rfl
    · rw [drop_left] at hpieces
      rw [append_assoc]
      rw [← String.ofList_append] at hrun
      refine .expanded hchosen hrun ?_
      rwa [Nat.add_assoc, Nat.add_comm 1]
  · refine .pure ⟨leave (if isActive p.frames then line else blankLine line)
      (p.cursor.file, p.cursor.line), ?_, fun pieces hpieces => ?_⟩
    · rw [Output.push_eq, String.toList_ofList]
      rfl
    · cases isActive p.frames with
      | true => exact .kept hpieces
      | false => exact .blank hpieces

end Lines

/-! ## 4. Directives -/

section Directives

variable {setting : Setting} {run : Job → Preprocess Output} {job : Job} {p : Progress}

variable {line : List Char} {more rest : List (List Char)}

/-- An output is what the lines of a text leave. -/
def Made (setting : Setting) (job : Job) (out : Output) : Prop :=
  ∃ pieces, out = .ofPieces pieces ∧ Leaves setting job.file 1 (lines job.text.toList) pieces

theorem pushBlank_directivePlace (out : Output) (cursor : Cursor) (number : Nat) (ls : List (List Char)) :
    pushBlank out cursor.directivePlace number ls =
      out.append (.ofPieces (blanks cursor.file (cursor.line + number) ls)) :=
  pushBlank_eq (fun _ => rfl) out number ls

/-- Whatever else changes, lines of a directive that leave only their ends are passed over. -/
theorem passes_of_blank (hout : q.out = (passDirective p ls).out)
    (hcursor : q.cursor = p.cursor.advance ls.length) : Passes setting p q (ls ++ rest) rest := by
  refine ⟨blanks p.cursor.file p.cursor.line ls, ?_, fun more hmore => ?_⟩
  · rw [hout, passDirective, pushBlank_directivePlace, Nat.add_zero]
  · rw [hcursor] at hmore
    exact hmore.blanks

theorem Yields.read : Yields setting (read : Preprocess Setting) (· = setting) := by
  intro state a state' h
  cases h
  rfl

/-- Pieces are what the lines of a file leave; or there are none, where the file is passed over. -/
def FromHeader (setting : Setting) (pieces : List Piece) : Prop :=
  pieces = [] ∨ ∃ path text, setting.world.files.read path = .ok text ∧
    Leaves setting path.text 1 (lines text.toList) pieces

/-- A header stands in place of the first line of the directive that includes it. -/
theorem passes_of_included (hdirective : IsDirective ["include", "include_next"] (line :: more) directive)
    (hheader : FromHeader setting header)
    (hq : q.out = pushBlank (p.out.append (.ofPieces header)) p.cursor.directivePlace 1 more)
    (hcursor : q.cursor = p.cursor.advance (line :: more).length) :
    Passes setting p q (line :: more ++ rest) rest := by
  have hnumber : (p.cursor.advance (line :: more).length).line = p.cursor.line + 1 + more.length := by
    rw [Nat.add_assoc, Nat.add_comm 1]
    rfl
  unfold Passes
  rw [hcursor, hnumber]
  refine ⟨header ++ blanks p.cursor.file (p.cursor.line + 1) more, ?_, fun pieces hpieces => ?_⟩
  · rw [hq, pushBlank_directivePlace, Output.append_assoc, ← Output.ofPieces_append]
  · rcases hheader with rfl | ⟨path, text, hread, hleaves⟩
    · exact .passed hdirective hpieces
    · rw [append_assoc]
      exact .included hdirective hread hleaves hpieces

theorem continuation_append (line : List Char) (rest : List (List Char)) :
    ∃ behind, rest = continuation line rest ++ behind := by
  induction rest generalizing line with
  | nil => exact ⟨[], rfl⟩
  | cons next rest ih =>
    unfold continuation
    split
    · obtain ⟨behind, hbehind⟩ := ih next
      exact ⟨behind, by rw [cons_append, ← hbehind]⟩
    · exact ⟨next :: rest, rfl⟩

variable (hrun : ∀ job, Yields setting (run job) (Made setting job))

include hrun

/-- A header that is included leaves what its lines leave, or nothing. -/
theorem includeHeader_made : Yields setting (includeHeader run kind header location base stack) fun out =>
      ∃ pieces, out = .ofPieces pieces ∧ FromHeader setting pieces := by
  refine Yields.read.bind fun _ hsetting => ?_
  subst hsetting
  dsimp only
  split
  · exact .refuseAt
  · rename_i path _
    refine Yields.trivial.bind fun state _ => ?_
    split
    · exact .pure ⟨[], rfl, .inl rfl⟩
    · refine Yields.trivial.bind fun _ _ => ?_
      split
      · exact Yields.refuseAt.bind fun _ h => h
      · split
        · exact .throw
        · exact .refuseAt
        · rename_i text hread
          refine (hrun _).mono fun out ⟨pieces, hout, hleaves⟩ => ⟨pieces, hout, .inr ?_⟩
          exact ⟨path, text, hread, hleaves⟩

/-- A directive leaves the ends of its lines, but for the first line of one that includes a header. -/
theorem processDirective_passes
    (hdirective : Directive.ofLine? (joinContinued (line :: more).flatten) = some directive) :
    Yields setting (processDirective run job p directive (line :: more)) fun q =>
      Passes setting p q (line :: more ++ rest) rest := by
  unfold processDirective
  dsimp only
  split
  case h_3 hname | h_4 hname =>
    refine Yields.trivial.bind fun _ _ => (includeHeader_made hrun).bind fun _ hout => .pure ?_
    obtain ⟨header, rfl, hheader⟩ := hout
    exact passes_of_included ⟨hdirective, by simp [hname]⟩ hheader rfl rfl
  case h_1 | h_2 => exact Yields.trivial.bind fun _ _ => .pure (passes_of_blank rfl rfl)
  · exact .refuseAt
  · exact .pure (passes_of_blank rfl rfl)
  · rename_i hname
    refine (Yields.self _).bind fun (next, name) ⟨state, state', hline⟩ => .pure ?_
    refine ⟨blanks p.cursor.file p.cursor.line (line :: more), ?_, fun pieces hpieces => ?_⟩
    · rw [passDirective, pushBlank_directivePlace, Nat.add_zero]
    · exact .renumbered ⟨hdirective, by simp [hname]⟩ hline hpieces
  · split
    · exact Yields.trivial.bind fun _ _ => .pure (passes_of_blank rfl rfl)
    · split
      · exact Yields.refuseAt.bind fun _ h => h
      · exact .pure (passes_of_blank rfl rfl)
  · refine Yields.trivial.bind fun _ _ => ?_
    split
    · exact Yields.refuseAt.bind fun _ h => h
    · exact .pure (passes_of_blank rfl rfl)

theorem processDirectiveLines_passes (rest : List (List Char)) :
    Yields setting (processDirectiveLines run job p (line :: more)) fun q =>
      Passes setting p q (line :: more ++ rest) rest := by
  unfold processDirectiveLines
  split
  · exact .pure (passes_of_blank rfl rfl)
  · rename_i directive hdirective
    split
    · exact Yields.trivial.bind fun frames _ => .pure (passes_of_blank rfl rfl)
    · split
      · exact .pure (passes_of_blank rfl rfl)
      · exact processDirective_passes hrun hdirective

/-! ## 5. Texts and sources -/

/-- **Lines are read one step after another**, and what they leave is put out in their order. -/
theorem processLines_passes :
    Yields setting (processLines run job p skip ls) fun q => Passes setting p q (ls.drop skip) [] := by
  induction ls generalizing p skip with
  | nil =>
    rw [drop_nil]
    exact .pure (.refl setting p [])
  | cons line rest ih =>
    cases skip with
    | succ skip =>
      exact ih
    | zero =>
      rw [processLines]
      split
      · refine processTextLine_passes.bind fun result hresult => ?_
        exact ih.mono fun _ => Passes.trans hresult
      · obtain ⟨behind, hbehind⟩ := continuation_append line rest
        have hdrop : rest.drop (continuation line rest).length = behind := by
          conv => lhs; arg 2; rw [hbehind]
          exact drop_left
        refine (processDirectiveLines_passes hrun behind).bind fun q hq => ih.mono fun _ hr => ?_
        rw [cons_append, ← hbehind] at hq
        rw [hdrop] at hr
        exact hq.trans hr

theorem processWith_made : Yields setting (processWith run job) (Made setting job) := by
  refine (processLines_passes hrun).bind fun p ⟨pieces, hout, hleaves⟩ => ?_
  have hmade : Made setting job p.out := by
    refine ⟨pieces, ?_, ?_⟩
    · rw [hout, Output.nil_append]
    · rw [← append_nil pieces]
      exact hleaves [] .finish
  split
  · exact Yields.refuseAt.bind fun _ h => h
  · exact .pure hmade

end Directives

section Texts

variable {setting : Setting} {job : Job}

/-- **The output for a text is what its lines leave.** -/
theorem process_made : Yields setting (process job) (Made setting job) := by
  have hwithin : ∀ depth job, Yields setting (processWithin depth job) (Made setting job) := by
    intro depth
    induction depth with
    | zero => exact fun _ => .throw
    | succ depth ih => exact fun _ => processWith_made ih
  exact Yields.trivial.bind fun _ _ => hwithin _ _

theorem includeOptions_macros :
    Yields setting (includeOptionsBy process .macros base file out number names) (· = out) := by
  induction names generalizing number with
  | nil => exact .pure rfl
  | cons name names ih => exact Yields.trivial.bind fun _ _ => ih

/-- The files of options leave what their lines leave, in order. -/
theorem includeOptions_forced :
    Yields setting (includeOptionsBy process .forced base file out number names) fun result =>
      ∃ headers : List (List Piece), headers.length = names.length ∧ (∀ header ∈ headers, FromHeader setting header) ∧
        result = out.append (.ofPieces headers.flatten) := by
  induction names generalizing out number with
  | nil => exact .pure ⟨[], rfl, by simp, by simp⟩
  | cons name names ih =>
    refine (includeHeader_made fun _ => process_made).bind fun _ ⟨header, hout, hheader⟩ => ?_
    refine ih.mono fun result ⟨headers, hlength, hall, hresult⟩ => ⟨header :: headers, ?_, ?_, ?_⟩
    · rw [length_cons, hlength, length_cons]
    · exact forall_mem_cons.mpr ⟨hheader, hall⟩
    · rw [hresult, if_neg (by decide), hout, Output.append_assoc, ← Output.ofPieces_append, flatten_cons]

/-- Pieces of a source: what the files leave that options put before it, and what its own lines leave. -/
def LeftBySource (setting : Setting) (source file : String) (pieces : List Piece) : Prop :=
  ∃ (headers : List (List Piece)) (own : List Piece), headers.length = setting.options.forcedIncludes.length ∧
    (∀ header ∈ headers, FromHeader setting header) ∧ Leaves setting file 1 (lines source.toList) own ∧
    pieces = headers.flatten ++ own

/-- **The output for a source is what its files leave.** -/
theorem processSource_made : Yields setting (processSource source file) fun out =>
      ∃ pieces, out = .ofPieces pieces ∧ LeftBySource setting source file pieces := by
  refine Yields.trivial.bind fun _ _ => Yields.read.bind fun _ hsetting => ?_
  subst hsetting
  refine includeOptions_macros.bind fun _ hmacros => includeOptions_forced.bind fun _ hforced => ?_
  obtain ⟨headers, hlength, hall, rfl⟩ := hforced
  refine process_made.bind fun _ ⟨own, hown, hleaves⟩ => .pure ?_
  refine ⟨headers.flatten ++ own, ?_, headers, own, hlength, hall, hleaves, rfl⟩
  rw [hmacros, hown, Output.nil_append, Output.ofPieces_append]

end Texts

end CCompiler.Preprocess
