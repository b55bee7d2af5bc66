import CCompiler.Compile.Source
import CCompiler.Proofs.Preprocess.Places
import CCompiler.Proofs.Preprocess.Predefined

/-!
# Places of the lines of the output

The output of preprocessing comes with a list of places, one for each piece. A stage behind preprocessing
counts lines and takes the entry with the number of its line.

* `count_dropAssembler` -- assembler is removed without a newline;
* `standsIn_count` -- the newlines before a character number the piece that it stands in;
* `preprocess_places` -- each entry is the place that its piece came from, and entries and lines go together
  if, and only if, each piece is one line;
* `unended_header_misplaces` -- a header that does not end its last line is a piece that is none.
-/
namespace CCompiler.Preprocess

open List Source
open Text (trimSpace)

variable {cs line : List Char} {text content newline : String} {texts : List (List Char)}

/-! ## 1. Assembler is removed line by line -/

theorem flatten_linesFrom (begun cs : List Char) : (Text.linesFrom begun cs).flatten = begun.reverse ++ cs := by
  fun_induction Text.linesFrom begun cs <;> simp_all

/-- A newline stands at the end of a line only. -/
theorem newline_of_mem_linesFrom (hbegun : '\n' ∉ begun)
    (h : line ∈ Text.linesFrom begun cs) : '\n' ∉ line.dropLast := by
  fun_induction Text.linesFrom begun cs with
  | case1 begun hempty => cases h
  | case2 begun hempty =>
    rw [mem_singleton.mp h]
    exact fun hmem => hbegun (mem_reverse.mp (mem_of_mem_dropLast hmem))
  | case3 begun rest ih =>
    rcases mem_cons.mp h with rfl | h
    · rw [reverse_cons, dropLast_concat, mem_reverse, mem_cons, not_or]
      exact ⟨by decide, hbegun⟩
    · exact ih (by simp) h
  | case4 begun c rest hpair hc ih =>
    rcases mem_cons.mp h with rfl | h
    · rwa [reverse_cons, dropLast_concat, mem_reverse]
    · exact ih (by simp) h
  | case5 begun c rest hpair hc ih =>
    refine ih ?_ h
    rw [mem_cons, not_or]
    exact ⟨fun heq => hc (by rw [← heq]; decide), hbegun⟩

theorem throughLastParen_le (cs : List Char) : throughLastParen cs ≤ cs.length := by
  refine (dropWhile_suffix _).length_le.trans ?_
  rw [length_reverse]

/-- An assembler label holds no newline. -/
theorem newline_notMem_label (h : '\n' ∉ cs.dropLast) : '\n' ∉ cs.take (labelLength cs) := by
  unfold labelLength
  split
  · simp
  · rename_i word behind hword
    have hbehind : behind <:+ cs := by
      obtain ⟨found, -, heq⟩ := Option.map_eq_some_iff.mp hword
      cases heq
      exact drop_suffix _ cs
    split
    · rename_i rest hrest
      have hsuffix : rest <:+ cs := by
        refine ((suffix_cons '(' rest).trans ?_).trans hbehind
        rw [← hrest]
        exact dropWhile_suffix _
      obtain ⟨front, rfl⟩ := hsuffix
      split
      · simp
      · rename_i n hn
        have hle := throughLastParen_le (rest.takeWhile fun c => c ≠ ';' && c ≠ '\n')
        rw [hn] at hle
        have hne : rest ≠ [] := by
          rintro rfl
          simp at hle
        rw [dropLast_append_of_ne_nil hne, mem_append, not_or] at h
        rw [length_append, Nat.add_sub_cancel, take_length_add_append, mem_append, not_or]
        refine ⟨h.1, fun hmem => ?_⟩
        -- what follows the parenthesis ends before a newline
        rw [← takeWhile_append_dropWhile (l := rest), take_append_of_le_length hle] at hmem
        have hchar := mem_takeWhile_imp (mem_of_mem_take hmem)
        simp at hchar
    · simp

theorem dropLabelsFrom_sublist (before : Option Char) (skip : Nat) (cs : List Char) :
    (dropLabelsFrom before skip cs).Sublist cs := by
  fun_induction dropLabelsFrom before skip cs with
  | case1 => exact .slnil
  | case2 before skip c rest ih => exact ih.cons c
  | case3 before c rest hlabel ih => exact ih.cons_cons c
  | case4 before c rest n hlabel ih => exact ih.cons c

theorem newline_notMem_tail (h : '\n' ∉ (c :: cs).dropLast) : '\n' ∉ cs.dropLast := by
  cases cs with
  | nil => simp
  | cons d cs => exact fun hmem => h (mem_cons_of_mem c hmem)

/-- Labels are removed without a newline. -/
theorem count_dropLabelsFrom (h : '\n' ∉ cs.dropLast)
    (hskip : '\n' ∉ cs.take skip) : (dropLabelsFrom before skip cs).count '\n' = cs.count '\n' := by
  fun_induction dropLabelsFrom before skip cs with
  | case1 => rfl
  | case2 before skip c rest ih =>
    rw [take_succ_cons, mem_cons, not_or] at hskip
    rw [ih (newline_notMem_tail h) hskip.2, count_cons_of_ne (Ne.symm hskip.1)]
  | case3 before c rest hlabel ih =>
    rw [count_cons, count_cons, ih (newline_notMem_tail h) (by simp)]
  | case4 before c rest n hlabel ih =>
    have hlength : labelLength (c :: rest) = n + 1 := by
      split at hlabel
      · cases hlabel
      · exact hlabel
    have hnone := newline_notMem_label h
    rw [hlength, take_succ_cons, mem_cons, not_or] at hnone
    rw [ih (newline_notMem_tail h) hnone.2, count_cons_of_ne (Ne.symm hnone.1)]

theorem count_line (h : '\n' ∉ line.dropLast) :
    (if line.getLast? = some '\n' then ['\n'] else []).count '\n' = line.count '\n' := by
  rcases eq_nil_or_concat line with rfl | ⟨front, c, rfl⟩
  · rfl
  · rw [concat_eq_append, dropLast_concat] at h
    rw [concat_eq_append, count_append, count_eq_zero.mpr h]
    by_cases hc : c = '\n' <;> simp [hc]

theorem dropAssemblerLines_sublist (inStatement : Bool) (ls : List (List Char)) :
    (dropAssemblerLines inStatement ls).flatten.Sublist ls.flatten := by
  induction ls generalizing inStatement with
  | nil => exact .slnil
  | cons line rest ih =>
    unfold dropAssemblerLines
    split
    · refine List.Sublist.append ?_ (ih _)
      split
      · rename_i hlast
        obtain ⟨front, rfl⟩ := getLast?_eq_some_iff.mp hlast
        exact sublist_append_right front _
      · exact nil_sublist line
    · exact (dropLabelsFrom_sublist none 0 line).append (ih false)

theorem count_dropAssemblerLines (inStatement : Bool) (h : ∀ line ∈ ls, '\n' ∉ line.dropLast) :
    (dropAssemblerLines inStatement ls).flatten.count '\n' = ls.flatten.count '\n' := by
  induction ls generalizing inStatement with
  | nil => rfl
  | cons line rest ih =>
    obtain ⟨hline, hrest⟩ := forall_mem_cons.mp h
    unfold dropAssemblerLines
    split <;> rw [flatten_cons, flatten_cons, count_append, count_append, ih _ hrest]
    · rw [count_line hline]
    · rw [count_dropLabelsFrom hline (by simp)]

theorem dropAssembler_sublist (text : List Char) : (dropAssembler text).Sublist text := by
  have h := dropAssemblerLines_sublist false (Text.lines text)
  rwa [Text.lines, flatten_linesFrom] at h

/-- **Assembler is removed without a newline.** -/
theorem count_dropAssembler (text : List Char) : (dropAssembler text).count '\n' = text.count '\n' := by
  have h : ∀ line ∈ Text.lines text, '\n' ∉ line.dropLast := fun _ => newline_of_mem_linesFrom (by simp)
  have hcount := count_dropAssemblerLines false h
  rwa [Text.lines, flatten_linesFrom] at hcount

/-- What is left of a text: all of it in strict C; in the GNU dialect perhaps less, but every newline. -/
def Remains (standard : Standard) (left text : List Char) : Prop :=
  left.Sublist text ∧ left.count '\n' = text.count '\n' ∧ (standard = .c11 → left = text)

/-- What is left of texts that are put one behind another is left of each. -/
theorem exists_lefts (hsub : left.Sublist texts.flatten) (hcount : left.count '\n' = texts.flatten.count '\n') :
    ∃ lefts, Forall₂ (Remains .gnu11) lefts texts ∧ left = lefts.flatten := by
  induction texts generalizing left with
  | nil => exact ⟨[], .nil, eq_nil_of_sublist_nil hsub⟩
  | cons text texts ih =>
    rw [flatten_cons, sublist_append_iff] at hsub
    obtain ⟨first, rest, rfl, hfirst, hrest⟩ := hsub
    rw [flatten_cons, count_append, count_append] at hcount
    have hle := hfirst.count_le '\n'
    have hle' := hrest.count_le '\n'
    obtain ⟨lefts, hlefts, rfl⟩ := ih hrest (by omega)
    refine ⟨first :: lefts, .cons ⟨hfirst, by omega, fun h => by cases h⟩ hlefts, rfl⟩

/-! ## 2. Places -/

/-- A character of the text that is scanned, by the number of characters before it, stands in the line that
    one of some texts leaves. -/
def StandsIn (texts : List (List Char)) (k i : Nat) : Prop :=
  ((texts.take k).map phaseTwo).flatten.length ≤ i ∧ i < ((texts.take (k + 1)).map phaseTwo).flatten.length

theorem count_newline_take (h : '\n' ∉ line.dropLast) (hi : i < line.length) : (line.take i).count '\n' = 0 := by
  refine count_eq_zero.mpr fun hmem => h ?_
  rw [dropLast_eq_take]
  exact take_subset_take_left line (by omega) hmem

theorem count_newline_whole (hne : line ≠ []) (h : '\n' ∉ line.dropLast)
    (hend : EndsLine line) : line.count '\n' = 1 := by
  obtain ⟨front, c, rfl⟩ := (eq_nil_or_concat line).resolve_left hne
  rw [concat_eq_append] at *
  rw [dropLast_concat] at h
  have hc : c = '\n' := hend c (by simp)
  rw [count_append, count_eq_zero.mpr h, hc]
  rfl

/-- The newlines before a character number the text that it stands in. -/
theorem standsIn_count (h : Lined texts) (hi : i < (texts.map phaseTwo).flatten.length) :
    (((texts.map phaseTwo).flatten.take i).count '\n') < texts.length ∧
      StandsIn texts (((texts.map phaseTwo).flatten.take i).count '\n') i := by
  induction texts generalizing i with
  | nil => simp at hi
  | cons text texts ih =>
    obtain ⟨hne, hnewline⟩ := h.line text mem_cons_self
    rw [map_cons, flatten_cons] at hi ⊢
    by_cases hfirst : i < (phaseTwo text).length
    · rw [take_append_of_le_length (by omega), count_newline_take hnewline hfirst]
      exact ⟨by simp, by simp [StandsIn, hfirst]⟩
    · rw [length_append] at hi
      obtain ⟨j, rfl⟩ := Nat.exists_eq_add_of_le (Nat.le_of_not_lt hfirst)
      have hj : j < (texts.map phaseTwo).flatten.length := by omega
      have hend : EndsLine (phaseTwo text) := by
        cases texts with
        | nil => simp at hj
        | cons next texts => exact (isChain_cons_cons.mp h.next).1.1
      obtain ⟨hlt, hlow, hhigh⟩ := ih h.tail hj
      rw [take_length_add_append, count_append, count_newline_whole hne hnewline hend]
      refine ⟨by rw [length_cons]; omega, ?_⟩
      unfold StandsIn
      rw [Nat.add_comm 1, take_succ_cons, take_succ_cons, map_cons, map_cons,
        flatten_cons, flatten_cons, length_append, length_append]
      omega

theorem preprocess_eq_ok (h : preprocess setting source file = .ok r) :
    ∃ state out state', processSource source file setting state = (.ok out, state') ∧ r.places = out.places.toList ∧
      (setting.options.standard = .c11 ∧ r.text = out.text ∨
        setting.options.standard = .gnu11 ∧ r.text = String.ofList (dropAssembler out.text.toList)) := by
  obtain ⟨state, -, h⟩ := bind_ok h
  rcases hrun : ((processSource source file).run setting).run state with ⟨failure | out, state'⟩ <;> rw [hrun] at h
  · cases h
  refine ⟨state, out, state', hrun, ?_⟩
  cases hstandard : setting.options.standard with rw [hstandard] at h
  | gnu11 =>
    cases h
    exact ⟨rfl, .inr ⟨rfl, rfl⟩⟩
  | c11 =>
    simp only [bind, Except.bind] at h
    split at h <;> cases h
    exact ⟨rfl, .inl ⟨rfl, rfl⟩⟩

/-- A result is made of pieces: its text is what is left of them, and its entries are their places. The lines
    that are scanned are what is left of the pieces if, and only if, each of them is a line; and then every
    character is reported at the place of its piece. -/
structure Pieced (setting : Setting) (source file : String) (r : Result) (pieces : List Piece)
    (lefts : List (List Char)) : Prop where
  origin : LeftBySource setting source file pieces
  remains : Forall₂ (Remains setting.options.standard) lefts (pieces.map Piece.text)
  text : r.text.toList = lefts.flatten
  places : r.places = pieces.map Piece.place
  aligned : scanLines r.text.toList = lefts.map phaseTwo ↔ Lined lefts
  reported : Lined lefts → ∀ i < (phaseTwo r.text.toList).length, ∃ k piece, pieces[k]? = some piece ∧
    StandsIn lefts k i ∧ ∀ column,
      Compilation.sourcePlace r.places file (placeAt (phaseTwo r.text.toList) i).line column =
        (piece.place.1, piece.place.2, column)

/-- **Each entry is the place that a piece of the output came from**, and entries and lines go together if,
    and only if, each piece is a line. -/
theorem preprocess_places {setting : Setting} {source file : String} {r : Result}
    (h : preprocess setting source file = .ok r) :
    ∃ pieces lefts, Pieced setting source file r pieces lefts := by
  obtain ⟨state, out, state', hrun, hplaces, htext⟩ := preprocess_eq_ok h
  obtain ⟨pieces, rfl, hpieces⟩ := processSource_made state out state' hrun
  have hlefts : ∃ lefts, List.Forall₂ (Remains setting.options.standard) lefts (pieces.map Piece.text) ∧
      r.text.toList = lefts.flatten := by
    have hout : (Output.ofPieces pieces).text.toList = (pieces.map Piece.text).flatten :=
      String.toList_ofList.trans List.flatMap_def
    rcases htext with ⟨hstandard, htext⟩ | ⟨hstandard, htext⟩
    · refine ⟨pieces.map Piece.text, List.forall₂_same.mpr fun text _ => ?_, by rw [htext, hout]⟩
      exact ⟨.refl text, rfl, fun _ => rfl⟩
    · rw [hstandard, htext, hout, String.toList_ofList]
      exact exists_lefts (dropAssembler_sublist _) (count_dropAssembler _)
  obtain ⟨lefts, hremains, hflatten⟩ := hlefts
  have hplaces : r.places = pieces.map Piece.place := by
    rw [hplaces]
    rfl
  refine ⟨pieces, lefts, hpieces, hremains, hflatten, hplaces, ?_, fun hlined i hi => ?_⟩
  · rw [hflatten]
    exact scanLines_eq_iff
  · rw [hflatten, phaseTwo_flatten hlined] at hi ⊢
    obtain ⟨hk, hstands⟩ := standsIn_count hlined hi
    have hlength : lefts.length = pieces.length := by
      rw [hremains.length_eq, List.length_map]
    rw [hlength] at hk
    refine ⟨_, pieces[_], List.getElem?_eq_getElem hk, hstands, fun column => ?_⟩
    unfold Compilation.sourcePlace placeAt
    rw [Nat.add_sub_cancel, hplaces, List.getElem?_map, List.getElem?_eq_getElem hk]
    rfl

/-! ## 3. A header that does not end its last line -/

section Unlexed

variable {setting : Setting} {run : Job → Preprocess Output} {job : Job} {p : Progress} {state : State}

/-- A line that cannot be scanned alone, that is no directive and that opens no comment. -/
structure Unlexed (line content newline : String) : Prop where
  whole : line = content ++ newline
  cut : cutNewline line = (content, newline)
  refused : MacroToken.ofText? content = .ok none
  directive : Directive.ofLine? line.toList = none
  comment : endsInComment line.toList false = false

/-- Such a line is left as it is, whatever macros there are. -/
theorem Unlexed.expandLine_eq {line content newline : String} (h : Unlexed line content newline)
    (location : Location) : expandLine line location setting state = (.ok line, state) := by
  have hget : (get : Preprocess State) setting state = (.ok state, state) := rfl
  have hexpand : expandText content location setting state = (.ok content, state) := by
    unfold expandText expandAt Macro.expandText
    rw [h.refused]
    rfl
  have hnames : namesMacro state.macros content = .ok false := by
    unfold namesMacro
    rw [h.refused]
    rfl
  unfold expandLine
  rw [bind_of_ok hget]
  dsimp only
  rw [h.cut]
  split
  · rfl
  · rw [hnames]
    split
    · rfl
    · rw [bind_of_ok hexpand, h.whole]
      rfl

theorem Unlexed.processLines_eq {line content newline : String} (h : Unlexed line content newline)
    (hp : p.inComment = false ∧ isActive p.frames) (rest : List (List Char)) :
    processLines run job p 0 (line.toList :: rest) setting state =
      processLines run job (p.put line) 0 rest setting state := by
  have hexpand : expandLine (String.ofList line.toList) p.cursor.location setting state = (.ok line, state) := by
    rw [String.ofList_toList]
    exact h.expandLine_eq _
  have hput : processTextLine job.base p line.toList rest setting state = (.ok (p.put line, 0), state) := by
    unfold processTextLine
    simp only [hp.1, hp.2, Bool.not_false, Bool.and_true, if_true]
    rw [bind_of_ok (expandAcross_of_ok hexpand)]
    simp only [scanComments, foldl_cons, h.comment]
    unfold Progress.put
    rw [hp.1]
    rfl
  rw [processLines, h.directive, Option.isNone_none, Bool.or_true, if_pos rfl, bind_of_ok hput]

/-- A text of one such line leaves the line. -/
theorem Unlexed.process_eq (h : Unlexed text content newline)
    (hlines : Text.lines text.toList = [text.toList]) (htext : job.text = text) :
    process job setting state = (.ok (.ofPieces [⟨text.toList, (job.file, 1)⟩]), state) := by
  have hempty : text ≠ "" := by
    rintro rfl
    cases hlines
  have hrun : processLines (processWithin (setting.world.files.length + 1)) job
      { cursor := { file := job.file, level := job.stack.length - 1 } } 0 [text.toList] setting state =
        (.ok (Progress.put { cursor := { file := job.file, level := job.stack.length - 1 } } text), state) :=
    h.processLines_eq ⟨rfl, rfl⟩ []
  refine .trans (bind_of_ok rfl) ?_
  rw [processWithin, processWith, htext, hlines]
  refine (bind_of_ok hrun).trans ?_
  have hout : (Output.push {} text ⟨job.file, 1, job.stack.length - 1⟩) =
      .ofPieces [⟨text.toList, (job.file, 1)⟩] := by
    rw [Output.push_eq, Output.nil_append, leave, if_neg (by simpa using hempty)]
  exact congrArg (fun out => (Except.ok out, state)) hout

/-- A header that is found and was not read before is preprocessed. -/
theorem includeHeader_of_found (hkind : kind ≠ .next)
    (hfind : findHeader? setting.world.files header (searchedDirs setting header base none) = some path)
    (honce : state.onceFiles.contains path.text = false) (hstack : stack.contains path.text = false)
    (hread : setting.world.files.read path = .ok text) :
    includeHeader run kind header location base stack setting state =
      run ⟨text, path.text, some path.parent, stack ++ [path.text]⟩ setting
        { state with trace := traceLine location kind.directive header path.text :: state.trace } := by
  have hread' : (read : Preprocess Setting) setting state = (.ok setting, state) := rfl
  have hget : (get : Preprocess State) setting state = (.ok state, state) := rfl
  unfold includeHeader
  rw [bind_of_ok hread', if_neg hkind]
  rw [hfind]
  dsimp only
  rw [bind_of_ok hget, if_neg (by rw [honce]; simp)]
  refine .trans (bind_of_ok rfl) ?_
  rw [hstack, if_neg Bool.false_ne_true, hread]

end Unlexed

/-- A header with a text, which an option puts before a source. -/
def forcedHeader (text : String) : Setting where
  options := { noStandardIncludes := true, forcedIncludes := ["a"] }
  world := { files := [(⟨"/", ["v", "a"]⟩, .text text)] }

theorem unlexed_line : Unlexed "@\n" "@" "\n" := ⟨by decide, by cbv, by cbv, by decide, by decide⟩

theorem unlexed_end : Unlexed "@" "@" "" := ⟨by decide, by cbv, by cbv, by decide, by decide⟩

theorem findHeader?_forced (text : String) : findHeader? (forcedHeader text).world.files ⟨"a", false⟩
    (searchedDirs (forcedHeader text) ⟨"a", false⟩ (some ⟨"/", ["v"]⟩) none) = some ⟨"/", ["v", "a"]⟩ := by
  have hpath : Path.ofText "a" = ⟨"", ["a"]⟩ := by cbv
  rw [findHeader?, hpath]
  rfl

section ForcedHeader

variable (h : Unlexed text content newline) (hread : (forcedHeader text).world.files.read ⟨"/", ["v", "a"]⟩ = .ok text)
  (hlines : Text.lines text.toList = [text.toList])

include h hread hlines

/-- The output for a header of one line and a source of one line behind it. -/
theorem processSource_forcedHeader (table : MacroTable) :
    ∃ state', processSource "@\n" "m" (forcedHeader text) { macros := table } =
      (.ok (.ofPieces [⟨text.toList, ("/v/a", 1)⟩, ⟨['@', '\n'], ("m", 1)⟩]), state') := by
  have hheader : ∃ state', includeHeader process .forced ⟨"a", false⟩ ⟨"<command line>", 1, 0⟩
      (some ⟨"/", ["v"]⟩) ["m"] (forcedHeader text) { macros := table, baseFile := "m" } =
        (.ok (.ofPieces [⟨text.toList, ("/v/a", 1)⟩]), state') :=
    ⟨_, (includeHeader_of_found (by decide) (findHeader?_forced text) rfl rfl hread).trans (h.process_eq hlines rfl)⟩
  obtain ⟨state', hheader⟩ := hheader
  have hforced : includeOptionsBy process .forced (some ⟨"/", ["v"]⟩) "m" {} 1 ["a"] (forcedHeader text)
      { macros := table, baseFile := "m" } =
        (.ok (.append {} (.ofPieces [⟨text.toList, ("/v/a", 1)⟩])), state') :=
    bind_of_ok hheader
  have hdir : sourceDir "m" = some ⟨"/", ["v"]⟩ := by cbv
  refine ⟨state', ?_⟩
  unfold processSource processSourceBy
  rw [hdir]
  refine (bind_of_ok hforced).trans ?_
  refine (bind_of_ok (unlexed_line.process_eq (by decide) rfl)).trans ?_
  rw [Output.nil_append]
  exact congrArg (fun out => (Except.ok out, state'))
    (Output.ofPieces_append [⟨text.toList, ("/v/a", 1)⟩] [⟨['@', '\n'], ("m", 1)⟩]).symm

/-- A source behind a header of one line is preprocessed, where the lines of both cannot be scanned. -/
theorem preprocess_forcedHeader
    (hassembler : ∀ places, rejectAssembler (text.toList ++ ['@', '\n']) places = .ok ()) :
    ∃ r, preprocess (forcedHeader text) "@\n" "m" = .ok r ∧
      r.text.toList = text.toList ++ ['@', '\n'] ∧ r.places = [("/v/a", 1), ("m", 1)] := by
  have hmacros : ∃ macros, initialMacros (forcedHeader text) = .ok macros := initialMacros_ok rfl rfl
  obtain ⟨table, htable⟩ := hmacros
  obtain ⟨state', hrun⟩ := processSource_forcedHeader h hread hlines table
  have hrun' : ((processSource "@\n" "m").run (forcedHeader text)).run { macros := table } = _ := hrun
  have htext : (Output.ofPieces [⟨text.toList, ("/v/a", 1)⟩, ⟨['@', '\n'], ("m", 1)⟩]).text.toList =
      text.toList ++ ['@', '\n'] := by
    simp [Output.ofPieces]
  have hinit : initialState (forcedHeader text) = .ok { macros := table } := by
    rw [initialState, htable]
    rfl
  have hresult : preprocess (forcedHeader text) "@\n" "m" =
      .ok ⟨(Output.ofPieces [⟨text.toList, ("/v/a", 1)⟩, ⟨['@', '\n'], ("m", 1)⟩]).text,
        [("/v/a", 1), ("m", 1)], state'.trace.reverse, state'.macros.listing⟩ := by
    have hstandard : (forcedHeader text).options.standard = .c11 := rfl
    unfold preprocess answerOf
    rw [hinit]
    simp only [bind, Except.bind, hrun', hstandard, htext, hassembler]
    rfl
  exact ⟨_, hresult, htext, rfl⟩

end ForcedHeader

/-- A header that ends its line and the source behind it are pieces of the result. -/
theorem preprocess_places_ended : ∃ r, preprocess (forcedHeader "@\n") "@\n" "m" = .ok r ∧
    ∃ pieces lefts, Pieced (forcedHeader "@\n") "@\n" "m" r pieces lefts := by
  obtain ⟨r, hr, -⟩ := preprocess_forcedHeader unlexed_line rfl (by decide) (fun _ => by rfl)
  exact ⟨r, hr, preprocess_places hr⟩

/-- **A header that does not end its last line puts all lines behind it out of place**: two lines have an
    entry, one is scanned, and what stands in the source is reported in the header. -/
theorem unended_header_misplaces : ∃ r, preprocess (forcedHeader "@") "@\n" "m" = .ok r ∧
    r.places = [("/v/a", 1), ("m", 1)] ∧ scanLines r.text.toList = [['@', '@', '\n']] ∧
    Compilation.sourcePlace r.places "m" (placeAt (phaseTwo r.text.toList) 1).line 2 = ("/v/a", 1, 2) := by
  obtain ⟨r, hr, htext, hplaces⟩ :=
    preprocess_forcedHeader unlexed_end rfl (by decide) (fun _ => by rfl)
  refine ⟨r, hr, hplaces, ?_, ?_⟩
  · rw [htext]
    decide
  · rw [htext, hplaces]
    rfl

end CCompiler.Preprocess
