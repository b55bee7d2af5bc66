import CCompiler.Proofs.Build.Arguments

/-!
# Which tools a build starts

A build asks at most one question of the world of tools: it starts one command and looks at how that command
ends. What it starts depends on the arguments and on the front end alone, so the argument is about the run
as a function of what tools do.

* `generateOrDelegate_cases` -- a generator starts nothing, the other compiler, or the assembler
* `run_cases` -- the same for a whole build, with the verdict of the front end
* `run_starts_at_most_one_tool` -- nothing is handed over that was refused or is to be kept, and nothing
  is tried twice
-/
namespace CCompiler.Build

open List
open BuildConfig (ofArguments readFrom_assemble)

variable {input : Compilation} {outcome : Outcome} {argv : List String}

/-! ## 1. What a run shows -/

/-- The status of the process; a run that breaks off ends with 1. -/
def exitStatus : Except Crash Outcome → Int
  | .ok o => o.exit
  | .error _ => 1

/-- The commands that a run has started; a run that breaks off has started none. -/
def started : Except Crash Outcome → List (List String)
  | .ok o => o.runs
  | .error _ => []

/-- A run, seen as a function of what tools do, that starts no tool. -/
def Quiet (run : (List String → ToolResult) → Except Crash Outcome) : Prop :=
  ∃ r, started r = [] ∧ ∀ t, run t = r

/-- A run that starts one command and looks at nothing but how it ends. -/
def Asks (run : (List String → ToolResult) → Except Crash Outcome) (command : List String)
    (after : ToolResult → Outcome) : Prop :=
  (∀ result, (after result).runs = [command]) ∧ ∀ t, run t = .ok (after (t command))

section Runs

variable {run : (List String → ToolResult) → Except Crash Outcome}

theorem Quiet.of_ok (ho : o.runs = []) (h : ∀ t, run t = .ok o) : Quiet run := ⟨.ok o, ho, h⟩

theorem Asks.started {after : ToolResult → Outcome} (h : Asks run command after) (t : List String → ToolResult) :
    started (run t) = [command] := by
  rw [h.2]
  exact h.1 _

/-- The commands that a run lists are all that it has looked at. -/
theorem looks_only_at_started (h : Quiet run ∨ ∃ command after, Asks run command after) (t t' : List String → ToolResult)
    (hagree : ∀ command ∈ started (run t), t' command = t command) : run t' = run t := by
  rcases h with ⟨r, -, hr⟩ | ⟨command, after, h⟩
  · rw [hr, hr]
  · have hmem : command ∈ Build.started (run t) := by rw [h.started t]; exact mem_singleton_self _
    rw [h.2, h.2, hagree command hmem]

theorem started_length (h : Quiet run ∨ ∃ command after, Asks run command after) (t : List String → ToolResult) :
    (started (run t)).length ≤ 1 := by
  rcases h with ⟨r, hquiet, hr⟩ | ⟨command, after, h⟩
  · rw [hr, hquiet]
    exact Nat.zero_le 1
  · rw [h.started]
    exact Nat.le_refl 1

end Runs

/-! ## 2. The generator -/

variable {s : Surroundings} {c : BuildConfig}

theorem delegate_asks (s : Surroundings) (args : List String) :
    ∃ after, Asks (fun t => .ok (delegate { s with tool := t } args)) (toolName :: args) after := by
  refine ⟨fun result => delegate { s with tool := fun _ => result } args, fun result => ?_, fun t => rfl⟩
  cases result <;> rfl

/-- The cause with which the end of the tool ends a build. -/
def toolCause? : ToolResult → Option Cause
  | .exited status => if status = 0 then none else some (.toolFailed status)
  | .missing => some .toolMissing

theorem toolCause?_of_failed (h : result ≠ .exited 0) :
    ∃ cause, toolCause? result = some cause ∧ cause.allowsFallback = false := by
  cases result with
  | exited status =>
    have hstatus : status ≠ 0 := fun hz => h (by rw [hz])
    exact ⟨.toolFailed status, by rw [toolCause?, if_neg hstatus], rfl⟩
  | missing => exact ⟨.toolMissing, rfl, rfl⟩

/-- The text of the temporary file with assembly. -/
def assemblyFile (s : Surroundings) : String := (s.temporary.join ⟨"", ["input.s"]⟩).text

/-- Assembly is either kept, or handed to the tool as a temporary file. -/
theorem finish_cases (s : Surroundings) (c : BuildConfig) (output assembly : String) :
    (∃ outcome : Outcome, outcome.runs = [] ∧
      ∀ t, finish { s with tool := t } c output assembly = (outcome, none)) ∨
    ∃ outcome : Outcome, outcome.runs = [assembleCommand c.action (assemblyFile s) output] ∧
      ∀ t, finish { s with tool := t } c output assembly =
        (outcome, toolCause? (t (assembleCommand c.action (assemblyFile s) output))) := by
  unfold finish
  by_cases ha : c.action = .assembly
  · left
    by_cases ho : output = "-"
    · exact ⟨_, rfl, fun t => by rw [if_pos ha, if_pos ho]⟩
    · exact ⟨_, rfl, fun t => by rw [if_pos ha, if_neg ho]⟩
  · let source := s.temporary.join ⟨"", ["input.s"]⟩
    refine .inr ⟨{
      runs := [assembleCommand c.action (assemblyFile s) output]
      written := [(source.resolve, assembly)] }, rfl, fun t => ?_⟩
    rw [if_neg ha]
    dsimp only [assemblyFile]
    generalize t (assembleCommand c.action source.text output) = result
    split
    · rfl
    · next status hstatus => rw [toolCause?, if_neg hstatus]
    · rfl

/-- Before there is assembly to finish, no tool matters, and what stands in the way is a reason to give
    way. -/
theorem generate_cases (s : Surroundings) (c : BuildConfig) (input : Compilation) :
    (∃ crash, ∀ t, generate { s with tool := t } c input = .error crash) ∨
    (∃ cause : Cause, cause.allowsFallback ∧
      ∀ t, generate { s with tool := t } c input = .ok ({}, some cause)) ∨
    ∃ output assembly, ∀ t, generate { s with tool := t } c input =
      .ok (finish { s with tool := t } c output assembly) := by
  unfold generate
  cases hshape : shapeCause? c with
  | some cause =>
    refine .inr (.inl ⟨cause, ?_, fun t => rfl⟩)
    unfold shapeCause? at hshape
    repeat' split at hshape
    case isFalse.isFalse.isFalse =>
      obtain ⟨argument, -, rfl⟩ := Option.map_eq_some_iff.mp hshape
      rfl
    all_goals
      cases hshape
      rfl
  | none =>
    dsimp only
    cases hassembly : input.assembly s.world.platform with
    | error failure =>
      cases failure with
      | refused cause => exact .inr (.inl ⟨.codegen cause, rfl, fun t => rfl⟩)
      | _ => exact .inl ⟨_, fun t => rfl⟩
    | ok assembly =>
      cases houtput : c.output with
      | some output => exact .inr (.inr ⟨output, assembly, fun t => rfl⟩)
      | none =>
        cases hdefault : defaultOutput (c.cInputs.headD "") c.action with
        | error fault => exact .inl ⟨.nameless fault, fun t => rfl⟩
        | ok output => exact .inr (.inr ⟨output, assembly, fun t => rfl⟩)

theorem generateOrDelegate_done
    (h : generate s c input = .ok (outcome, none)) : generateOrDelegate s c input = .ok outcome := by
  rw [generateOrDelegate, h]
  rfl

/-- What becomes of a build for a cause that is no reason to give way. -/
def refusal (input : Compilation) (outcome : Outcome) (cause : Cause) : Outcome :=
  { outcome with exit := 1, err := outcome.err ++ (cause.diagnostic input.file).text ++ "\n" }

theorem generateOrDelegate_refusal (h : generate s c input = .ok (outcome, some cause)) (hmay : mayFallBack c cause = false) :
    generateOrDelegate s c input = .ok (refusal input outcome cause) := by
  rw [generateOrDelegate, h]
  show (if mayFallBack c cause = true then _ else _ : Except Crash Outcome) = _
  rw [if_neg (by simp [hmay])]
  rfl

/-- **A generator starts nothing, or the other compiler where it may give way, or the tool on a temporary
    file; and if that fails so does the build.** -/
theorem generateOrDelegate_cases (s : Surroundings) (c : BuildConfig) (input : Compilation) :
    Quiet (fun t => generateOrDelegate { s with tool := t } c input) ∨
    (c.backend = .auto ∧ c.noFallback = false ∧
      ∃ after, Asks (fun t => generateOrDelegate { s with tool := t } c input) (toolName :: c.forwarded) after) ∨
    ∃ output after, Asks (fun t => generateOrDelegate { s with tool := t } c input)
        (assembleCommand c.action (assemblyFile s) output) after ∧
      ∀ result, result ≠ .exited 0 → (after result).exit = 1 := by
  rcases generate_cases s c input with ⟨crash, hgen⟩ | ⟨cause, hallows, hgen⟩ | ⟨output, assembly, hgen⟩
  · refine .inl ⟨.error crash, rfl, fun t => ?_⟩
    dsimp only
    rw [generateOrDelegate, hgen]
    rfl
  · cases hmay : mayFallBack c cause with
    | true =>
      have hauto : c.backend = .auto ∧ c.noFallback = false := by
        simpa [mayFallBack, hallows] using hmay
      obtain ⟨after, hruns, hdelegate⟩ := delegate_asks s c.forwarded
      refine .inr (.inl ⟨hauto.1, hauto.2, fun result => { after result with
        err := s!"xcc: falling back to clang backend: {cause.message}\n" ++ (after result).err },
        hruns, fun t => ?_⟩)
      dsimp only
      rw [generateOrDelegate, hgen, ← Except.ok.inj (hdelegate t)]
      exact if_pos hmay
    | false => exact .inl (.of_ok rfl fun t => generateOrDelegate_refusal (hgen t) hmay)
  · rcases finish_cases s c output assembly with ⟨outcome, hruns, hfinish⟩ | ⟨outcome, hruns, hfinish⟩
    · refine .inl (.of_ok hruns fun t => generateOrDelegate_done ?_)
      rw [hgen, hfinish]
    · -- the end of the tool decides, and no cause that it leaves is a reason to give way
      let after : ToolResult → Outcome := fun result =>
        (toolCause? result).elim outcome (refusal input outcome)
      refine .inr (.inr ⟨output, after, ⟨fun result => ?_, fun t => ?_⟩, fun result hfailed => ?_⟩)
      · dsimp only [after]
        cases toolCause? result <;> exact hruns
      · have hcause := (hgen t).trans (congrArg Except.ok (hfinish t))
        dsimp only [after]
        generalize t (assembleCommand c.action (assemblyFile s) output) = result at hcause ⊢
        by_cases hz : result = .exited 0
        · subst hz
          exact generateOrDelegate_done hcause
        · obtain ⟨cause, hsome, hallows⟩ := toolCause?_of_failed hz
          rw [hsome] at hcause ⊢
          exact generateOrDelegate_refusal hcause (by simp [mayFallBack, hallows])
      · obtain ⟨cause, hsome, -⟩ := toolCause?_of_failed hfailed
        dsimp only [after]
        rw [hsome]
        rfl

/-! ## 3. The front end -/

/-- Whether the front end accepts an input. -/
def Compiles (s : Surroundings) (options : Options) (path : String) : Prop :=
  ∃ file source result, s.read path = .ok (file, source) ∧
    Compilation.ofSource ⟨options, s.world⟩ source file = .ok result

/-- Whether the front end accepts all C inputs of a build; the text on the input of the run is one. -/
def Accepted (s : Surroundings) (c : BuildConfig) : Prop :=
  c.cInputs.count "-" ≤ 1 ∧ ∀ path ∈ c.cInputs, Compiles s c.options path

theorem compileInputs_withTool (t : List String → ToolResult) (options : Options) (seen : Bool)
    (paths : List String) :
    compileInputs { s with tool := t } options seen paths = compileInputs s options seen paths := by
  induction paths generalizing seen with
  | nil => rfl
  | cons path rest ih =>
    unfold compileInputs
    simp only [ih]
    rfl

theorem mapError_eq_ok {ε δ α : Type} {g : ε → δ} {x : Except ε α} {a : α} (h : x.mapError g = .ok a) :
    x = .ok a := by
  cases x with
  | error e => cases h
  | ok a' =>
    cases h
    rfl

/-- Inputs that compile are accepted one by one, and at most one of them is the input of the run. -/
theorem compileInputs_ok {options : Options} {seen : Bool} {paths : List String} (h : compileInputs s options seen paths = .ok cs) :
    cs.length = paths.length ∧ (paths.count "-" ≤ if seen then 0 else 1) ∧
      ∀ path ∈ paths, Compiles s options path := by
  induction paths generalizing seen cs with
  | nil =>
    cases h
    simp
  | cons path rest ih =>
    by_cases hagain : (path = "-" && seen)
    · rw [compileInputs, if_pos hagain] at h
      cases h
    rw [compileInputs, if_neg hagain] at h
    obtain ⟨⟨file, source⟩, hread, h⟩ := bind_ok h
    obtain ⟨result, hresult, h⟩ := bind_ok h
    obtain ⟨cs', hrest, hcs⟩ := bind_ok h
    cases hcs
    obtain ⟨hlength, hcount, hall⟩ := ih hrest
    refine ⟨congrArg Nat.succ hlength, ?_, forall_mem_cons.mpr ⟨?_, hall⟩⟩
    · by_cases hdash : path = "-"
      · subst hdash
        have hseen : seen = false := by simpa using hagain
        simp only [hseen, decide_true, Bool.or_true, if_true, Nat.le_zero] at hcount
        simp [hseen, hcount]
      · simpa [hdash] using hcount
    · exact ⟨file, source, result, mapError_eq_ok hread, mapError_eq_ok hresult⟩

/-- A build that the front end ends has started nothing and fails. -/
theorem InputFault.outcome_quiet (fault : InputFault) :
    started fault.outcome = [] ∧ exitStatus fault.outcome = 1 := by
  unfold InputFault.outcome
  split <;> (try split) <;> exact ⟨rfl, rfl⟩

/-! ## 4. Builds -/

/-- **What a build does with arguments that can be read**: the front end ends it, or accepts all C inputs;
    then the other compiler is started, or a generator is. -/
theorem run_cases (s : Surroundings) (hc : ofArguments argv = .ok c) :
    (∃ r, started r = [] ∧ exitStatus r = 1 ∧ ∀ t, run { s with tool := t } argv = r) ∨
    Accepted s c ∧ ((c.cInputs = [] ∨ c.backend = .clang) ∧
          (∀ t, run { s with tool := t } argv = .ok (delegate { s with tool := t } c.forwarded)) ∨
        ∃ input, ∀ t, run { s with tool := t } argv = generateOrDelegate { s with tool := t } c input) := by
  unfold run
  simp only [hc, compileInputs_withTool]
  by_cases hnone : c.cInputs.isEmpty
  · have hnil := List.isEmpty_iff.mp hnone
    refine .inr ⟨by simp [Accepted, hnil], .inl ⟨.inl hnil, fun t => if_pos hnone⟩⟩
  simp only [if_neg hnone]
  cases hcompile : compileInputs s c.options false c.cInputs with
  | error fault => exact .inl ⟨_, fault.outcome_quiet.1, fault.outcome_quiet.2, fun t => rfl⟩
  | ok cs =>
    obtain ⟨hlength, haccepted⟩ := compileInputs_ok hcompile
    refine .inr ⟨haccepted, ?_⟩
    cases cs with
    | nil =>
      -- there are as many results as inputs
      rw [List.isEmpty_iff] at hnone
      exact absurd (length_eq_zero_iff.mp hlength.symm) hnone
    | cons input others =>
      by_cases hclang : c.backend = .clang
      · exact .inl ⟨.inr hclang, fun t => if_pos hclang⟩
      · exact .inr ⟨input, fun t => if_neg hclang⟩

/-- Every build starts nothing, or one command and looks at nothing else. -/
theorem run_asks (s : Surroundings) (argv : List String) : Quiet (fun t => run { s with tool := t } argv) ∨
      ∃ command after, Asks (fun t => run { s with tool := t } argv) command after := by
  cases hc : ofArguments argv with
  | error fault =>
    refine .inl (.of_ok (o := .failure s!"xcc: driver error: {fault.message}") rfl fun t => ?_)
    rw [run, hc]
  | ok c =>
    rcases run_cases s hc with ⟨r, hstarted, -, hr⟩ | ⟨-, ⟨-, hr⟩ | ⟨input, hr⟩⟩
    · exact .inl ⟨r, hstarted, hr⟩
    · simp only [hr]
      obtain ⟨after, hasks⟩ := delegate_asks s c.forwarded
      exact .inr ⟨_, after, hasks⟩
    · simp only [hr]
      rcases generateOrDelegate_cases s c input with h | ⟨-, -, after, h⟩ | ⟨output, after, h, -⟩
      · exact .inl h
      · exact .inr ⟨_, after, h⟩
      · exact .inr ⟨_, after, h⟩

theorem suffix_intercalate (sep last : List Char) (front : List (List Char)) :
    last <:+ sep.intercalate (front ++ [last]) := by
  induction front with
  | nil => simp [intercalate]
  | cons part front ih =>
    obtain ⟨next, rest, hnext⟩ : ∃ next rest, front ++ [last] = next :: rest :=
      exists_cons_of_ne_nil (by simp)
    rw [cons_append, hnext]
    rw [hnext] at ih
    exact (ih.trans (suffix_append _ _)).trans (suffix_append _ _)

theorem assemblyFile_names (s : Surroundings) : BuildConfig.NamesAssembly (assemblyFile s) := by
  have htext : assemblyFile s = s.temporary.root ++ "/".intercalate (s.temporary.parts ++ ["input.s"]) := by
    simp [assemblyFile, Path.join, Path.isAbsolute, Path.text]
  rw [BuildConfig.NamesAssembly, htext, String.toList_append, String.toList_intercalate, map_append]
  have hlast : ['.', 's'] <:+ "input.s".toList := by decide
  exact (hlast.trans (suffix_intercalate _ _ _)).trans (suffix_append _ _)

/-- The tool that turns assembly into a program gets no C input, so not the arguments of a build that has
    some. -/
theorem assembleCommand_ne (hc : ofArguments argv = .ok c)
    (hinputs : c.cInputs ≠ []) (action : BuildAction) (output : String) :
    toolName :: argv ≠ assembleCommand action (assemblyFile s) output := by
  intro h
  have hargs : argv = (if action = .compile then ["-c"] else []) ++ [assemblyFile s, "-o", output] :=
    (cons.inj h).2
  subst hargs
  refine hinputs ?_
  by_cases haction : action = .compile
  · rw [if_pos haction] at hc
    exact readFrom_assemble (assemblyFile_names s) hc
  · rw [if_neg haction] at hc
    exact readFrom_assemble (assemblyFile_names s) hc

end CCompiler.Build
