import CCompiler.Proofs.Preprocess.Places
import Mathlib.Data.List.Perm.Subperm

/-!
# How headers stand in one another

Preprocessing bounds how deep headers stand in one another. The bound is never met: a header is looked for
on the stack of files that led to it, so below the main file no file stands there twice, and there are only
so many files. Hence preprocessing is the recursion without a bound.

* `Orderly.include` -- one header more leaves the stack in order;
* `processWith_congr` -- a text calls for nothing but headers in order;
* `watched_eq` -- by induction, what is done with a text out of order never matters;
* `inclusion_ends` -- the same for a whole source with the files that options put before it.
-/
namespace CCompiler.Preprocess

open List
open Yields (read trivial)

variable {setting : Setting} {main : String} {job : Job} {run run' : Job → Preprocess Output}

/-- A text in its place: the stack of files that led to it begins with the main file and ends with its own,
    the names below the main file are distinct and are those of files, and there are no more than files and
    the main one. -/
structure Orderly (files : Files) (main : String) (job : Job) : Prop where
  first : job.stack.head? = some main
  last : job.stack.getLast? = some job.file
  distinct : job.stack.tail.Nodup
  known : job.stack.tail ⊆ files.map (·.1.text)
  depth : job.stack.length ≤ files.length + 1

theorem orderly_main (files : Files) (source main : String) (base : Option Path) :
    Orderly files main ⟨source, main, base, [main]⟩ where
  first := rfl
  last := rfl
  distinct := nodup_nil
  known := nil_subset _
  depth := Nat.succ_le_succ (Nat.zero_le _)

variable {files : Files} {path : Path} {file : String}

theorem Orderly.length_pos (h : Orderly files main job) : 0 < job.stack.length := by
  obtain ⟨rest, hstack⟩ := head?_eq_some_iff.mp h.first
  rw [hstack]
  exact Nat.succ_pos _

/-- A header that is found is a file. -/
theorem findHeader?_known (h : findHeader? files header dirs = some path) : path.text ∈ files.map (·.1.text) := by
  obtain ⟨found, hfind, rfl⟩ := Option.map_eq_some_iff.mp h
  have hfile : files.hasFile found := find?_some hfind
  obtain ⟨content, hcontent⟩ := Option.isSome_iff_exists.mp hfile
  exact mem_map_of_mem (mem_of_lookup hcontent)

/-- One header more, which is not on the stack, leaves the stack in order. -/
theorem Orderly.include (h : Orderly files main job)
    (hknown : path.text ∈ files.map (·.1.text)) (hnew : path.text ∉ job.stack) :
    Orderly files main ⟨text, path.text, base, job.stack ++ [path.text]⟩ := by
  obtain ⟨rest, hstack⟩ := head?_eq_some_iff.mp h.first
  have hdistinct := h.distinct
  have hfiles := h.known
  rw [hstack, mem_cons, not_or] at hnew
  rw [hstack] at hdistinct hfiles
  have hmore : (rest ++ [path.text]).Nodup := by
    rw [← concat_eq_append, nodup_concat]
    exact ⟨hnew.2, hdistinct⟩
  have hsubset : rest ++ [path.text] ⊆ files.map (·.1.text) :=
    append_subset.mpr ⟨hfiles, cons_subset.mpr ⟨hknown, nil_subset _⟩⟩
  rw [hstack]
  refine ⟨rfl, getLast?_concat, hmore, hsubset, ?_⟩
  -- distinct names of files are no more than the files
  have hlength := (hmore.subperm hsubset).length_le
  rw [length_map] at hlength
  exact Nat.succ_le_succ hlength

/-- Two ways to preprocess do the same with all headers that a text may call for. -/
def AgreeBelow (setting : Setting) (main : String) (job : Job) (run run' : Job → Preprocess Output) : Prop :=
  ∀ next, Orderly setting.world.files main next → next.stack.length = job.stack.length + 1 →
    run next setting = run' next setting

section

variable (hjob : Orderly setting.world.files main job) (h : AgreeBelow setting main job run run')

include hjob h

theorem includeHeader_congr (kind : IncludeKind) (header : Header) (location : Location) (base : Option Path) :
    includeHeader run kind header location base job.stack setting =
      includeHeader run' kind header location base job.stack setting := by
  refine read.bind_congr fun _ hsetting => ?_
  subst hsetting
  dsimp only
  generalize searchedDirs _ header base (if kind = .next then base else none) = dirs
  cases hfind : findHeader? _ header dirs with
  | none => rfl
  | some path =>
    refine trivial.bind_congr fun state _ => ?_
    by_cases honce : kind ≠ .macros ∧ state.onceFiles.contains path.text
    · rw [if_pos honce, if_pos honce]
    rw [if_neg honce, if_neg honce]
    refine trivial.bind_congr fun _ _ => ?_
    by_cases hcycle : job.stack.contains path.text
    · rw [if_pos hcycle, if_pos hcycle]
      rfl
    rw [if_neg hcycle, if_neg hcycle]
    cases hread : Files.read _ path with
    | error fault => cases fault <;> rfl
    | ok text => exact h _ (hjob.include (findHeader?_known hfind) (by simpa using hcycle)) (by simp)

theorem processDirective_congr (p : Progress) (directive : Directive) (ls : List (List Char)) :
    processDirective run job p directive ls setting = processDirective run' job p directive ls setting := by
  have hinclude : ∀ {β : Type} (kind : IncludeKind) (location : Location) (f : Output → Preprocess β),
      (headerOf (Text.trimSpace directive.body) location >>= fun header =>
        includeHeader run kind header location job.base job.stack >>= f) setting =
      (headerOf (Text.trimSpace directive.body) location >>= fun header =>
        includeHeader run' kind header location job.base job.stack >>= f) setting :=
    fun kind location f => trivial.bind_congr fun header _ =>
      bind_left (includeHeader_congr hjob h kind header location job.base)
  unfold processDirective
  generalize directive.name = name
  split
  case h_3 | h_4 => exact hinclude _ _ _
  all_goals rfl

theorem processDirectiveLines_congr (p : Progress) (ls : List (List Char)) :
    processDirectiveLines run job p ls setting = processDirectiveLines run' job p ls setting := by
  unfold processDirectiveLines
  cases Directive.ofLine? (joinContinued ls.flatten) with
  | none => rfl
  | some directive =>
    dsimp only
    cases GroupDirective.ofName? directive.name with
    | some group => rfl
    | none =>
      by_cases hactive : (!isActive p.frames)
      · rw [if_pos hactive, if_pos hactive]
      · rw [if_neg hactive, if_neg hactive]
        exact processDirective_congr hjob h p directive ls

theorem processLines_congr (p : Progress) (skip : Nat) (ls : List (List Char)) :
    processLines run job p skip ls setting = processLines run' job p skip ls setting := by
  induction ls generalizing p skip with
  | nil => cases skip <;> rfl
  | cons line rest ih =>
    cases skip with
    | succ skip => exact ih p skip
    | zero =>
      unfold processLines
      split
      · refine trivial.bind_congr fun r _ => ?_
        obtain ⟨p, used⟩ := r
        exact ih p used
      · rw [bind_left (processDirectiveLines_congr hjob h p _)]
        exact trivial.bind_congr fun p _ => ih p _

/-- A text calls for nothing but headers in order. -/
theorem processWith_congr : processWith run job setting = processWith run' job setting := by
  exact bind_left (processLines_congr hjob h _ 0 _)

end

instance (files : Files) (main : String) (job : Job) : Decidable (Orderly files main job) :=
  decidable_of_iff (job.stack.head? = some main ∧ job.stack.getLast? = some job.file ∧
      job.stack.tail.Nodup ∧ job.stack.tail ⊆ files.map (·.1.text) ∧ job.stack.length ≤ files.length + 1)
    ⟨fun ⟨h1, h2, h3, h4, h5⟩ => ⟨h1, h2, h3, h4, h5⟩, fun ⟨h1, h2, h3, h4, h5⟩ => ⟨h1, h2, h3, h4, h5⟩⟩

/-- Preprocesses a text and looks at every text that is begun: one out of order, or deeper than a bound, is
    treated otherwise. -/
def watched (files : Files) (main : String) (otherwise : Job → Preprocess Output) : Nat → Job → Preprocess Output
  | 0, job => otherwise job
  | depth + 1, job =>
    if Orderly files main job then processWith (watched files main otherwise depth) job else otherwise job

/-- Of a text in order no text out of order is begun, and none deeper than there are files. -/
theorem watched_eq (otherwise : Job → Preprocess Output) (depth depth' : Nat)
    (hjob : Orderly setting.world.files main job)
    (h : setting.world.files.length + 2 ≤ depth + job.stack.length)
    (h' : setting.world.files.length + 2 ≤ depth' + job.stack.length) :
    watched setting.world.files main otherwise depth job setting = processWithin depth' job setting := by
  have hdepth := hjob.depth
  -- the stack grows as the bound shrinks, and it is never longer than the files allow
  induction depth generalizing depth' job with
  | zero => omega
  | succ depth ih =>
    cases depth' with
    | zero => omega
    | succ depth' =>
      rw [watched, if_pos hjob]
      refine processWith_congr hjob fun next hnext hlength => ?_
      exact ih depth' hnext (by omega) (by omega) hnext.depth

/-- Preprocessing is the recursion without a bound. -/
theorem process_eq_processWith (hjob : Orderly setting.world.files main job) :
    process job setting = processWith process job setting := by
  refine processWith_congr hjob fun next hnext hlength => ?_
  have hbound : setting.world.files.length + 2 ≤ setting.world.files.length + 1 + next.stack.length := by
    omega
  exact (watched_eq default _ _ hnext hbound hbound).symm.trans (watched_eq default _ _ hnext hbound (by omega))

theorem answerOf_congr (h : x setting = y setting) : answerOf setting x = answerOf setting y := by
  unfold answerOf
  simp only [ReaderT.run, h]

/-- Options call for nothing but headers in order either. -/
theorem includeOptionsBy_eq
    (h : ∀ next, Orderly setting.world.files file next → run next setting = process next setting) (kind : IncludeKind)
    (base : Option Path) (out : Output) (number : Nat) (names : List String) :
    includeOptionsBy run kind base file out number names setting =
      includeOptionsBy process kind base file out number names setting := by
  induction names generalizing out number with
  | nil => rfl
  | cons name rest ih =>
    unfold includeOptionsBy
    rw [bind_left (includeHeader_congr (orderly_main _ "" file base) (fun next hnext _ => h next hnext) _ _ _ _)]
    exact trivial.bind_congr fun included _ => ih _ _

theorem processSourceBy_eq (source : String)
    (h : ∀ next, Orderly setting.world.files file next → run next setting = process next setting) :
    processSourceBy run source file setting = processSource source file setting := by
  refine trivial.bind_congr fun _ _ => trivial.bind_congr fun _ _ => ?_
  rw [bind_left (includeOptionsBy_eq h _ _ _ _ _)]
  refine trivial.bind_congr fun out _ => ?_
  rw [bind_left (includeOptionsBy_eq h _ _ _ _ _)]
  refine trivial.bind_congr fun out _ => ?_
  exact bind_left (h _ (orderly_main _ source file _))

/-- **Inclusion ends.** Whatever the files, the options and the source: preprocessing of a text in order is
    the recursion without a bound, and the answer for a source is the same however a text would be treated
    that stands on no stack of distinct files or deeper than the files and the main one. -/
theorem inclusion_ends (setting : Setting) (source file : String) (otherwise : Job → Preprocess Output) :
    (∀ job, Orderly setting.world.files file job → process job setting = processWith process job setting) ∧
    answerOf setting (processSourceBy
      (watched setting.world.files file otherwise (setting.world.files.length + 1)) source file) =
        preprocess setting source file := by
  refine ⟨fun job hjob => process_eq_processWith hjob, ?_⟩
  refine answerOf_congr (processSourceBy_eq source fun next hnext => ?_)
  have hpos := hnext.length_pos
  exact watched_eq otherwise _ _ hnext (by omega) (by omega)

end CCompiler.Preprocess
