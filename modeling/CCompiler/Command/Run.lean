import CCompiler.Codegen.Program
import CCompiler.Build.Config
import CCompiler.Command.Arguments

/-!
# The command

What a run sees of the world and what it leaves behind: an exit status, texts on the two outputs, the
tools it started and the files it wrote.

A build runs the front end on every C input first; nothing else happens while one of them is refused.
Then the generator makes the code or, where it cannot and may give way, another compiler is started with
the arguments kept for it.
-/
namespace CCompiler

inductive ToolResult where
  | exited (status : Int)
  | missing
deriving Repr, DecidableEq, Inhabited

/-- The tool that turns assembly into programs and compiles what the generator does not cover. -/
def toolName : String := "clang"

def toolMissing : String := (ReadFault.missing toolName).message

/-- What a run sees: the world, the text on its input, what started tools do, and a directory for
    temporary files. -/
structure Surroundings where
  world : World := {}
  input : String := ""
  tool : List String → ToolResult := fun _ => .exited 0
  temporary : Path := ⟨"/", ["tmp", "xcc"]⟩

structure Outcome where
  exit : Int := 0
  out : String := ""
  err : String := ""
  runs : List (List String) := []
  written : List (Path × String) := []
deriving Repr, DecidableEq, Inhabited

inductive Crash where
  | compile (failure : CompileFailure)
  | generation (failure : Codegen.Failure)
  | nameless (fault : Path.Nameless)

def Outcome.failure (message : String) (exit : Int := 1) : Outcome := { exit, err := message ++ "\n" }

/-- The name and the text of an input; a single dash is the text on the input of the run. -/
def Surroundings.read (s : Surroundings) (path : String) : Except ReadFault (String × String) :=
  if path = "-" then .ok ("<stdin>", s.input)
  else
    let p := Path.ofText path
    (s.world.files.read p).map fun text => (p.text, text)

end CCompiler

namespace CCompiler.Build

/-! ## 1. Causes and the other compiler -/

inductive Cause where
  | action
  | inputCount
  | otherInputs
  | flag (argument : String)
  | toolMissing
  | toolFailed (status : Int)
  | codegen (cause : Codegen.Cause)
deriving Repr, DecidableEq

def Cause.message : Cause → String
  | .action => "Native backend does not support this driver action"
  | .inputCount => "Native backend currently supports exactly one C input"
  | .otherInputs => "Native backend does not support additional non-C inputs"
  | .flag argument => s!"Native backend does not support driver flag: {argument}"
  | .toolMissing => s!"Failed to execute clang for native backend: {CCompiler.toolMissing}"
  | .toolFailed status => s!"Native backend tool invocation failed with exit code {status}"
  | .codegen cause => cause.message

def Cause.code : Cause → String
  | .action | .inputCount | .otherInputs | .flag _ => "XCC-CG-0004"
  | .toolMissing | .toolFailed _ => "XCC-CG-0002"
  | .codegen cause => cause.code

/-- Whether another compiler may take over: not after a tool has been started. -/
def Cause.allowsFallback : Cause → Bool
  | .toolMissing | .toolFailed _ => false
  | _ => true

def Cause.diagnostic (cause : Cause) (file : String) : Diagnostic :=
  ⟨.generation, file, cause.message, none, cause.code⟩

def delegate (s : Surroundings) (args : List String) : Outcome :=
  let command := toolName :: args
  match s.tool command with
  | .exited status => { exit := status, runs := [command] }
  | .missing => { Outcome.failure s!"xcc: failed to execute clang: {toolMissing}" with runs := [command] }

/-! ## 2. The front end -/

/-- Why the front end ends a build. -/
inductive InputFault where
  | refused (diagnostic : Diagnostic)
  | repeatedInput
  | unreadable (fault : ReadFault)
  | failed (failure : CompileFailure)

/-- Compiles the inputs one after the other; the text on the input of the run can be compiled once. -/
def compileInputs (s : Surroundings) (options : Options) (seen : Bool) :
    List String → Except InputFault (List Compilation)
  | [] => .ok []
  | path :: rest => do
    if path = "-" && seen then throw .repeatedInput
    let (file, source) ← (s.read path).mapError .unreadable
    let c ← (Compilation.ofSource ⟨options, s.world⟩ source file).mapError fun failure =>
      match failure with
      | .refused d => .refused d
      | failure => .failed failure
    return c :: (← compileInputs s options (seen || path = "-") rest)

/-- Whether a failure of the front end is about a value in the source, which a build reports; others
    break it off. -/
def isReported : CompileFailure → Bool
  | .refused _ | .lexical _ => true
  | .preprocessing (.refused _) | .preprocessing (.lexical _) => true
  | .preprocessing (.number fault) | .grammar (.number fault) | .analysis (.number fault) =>
    fault.isOfValue
  | .preprocessing (.garbled _) => true
  | .preprocessing .tooDeep => false
  | .grammar (.at ..) => true
  | .grammar _ => false
  | .analysis (.meaning _) | .analysis (.escape (.digits ..)) => true
  | .analysis _ => false

/-- The outcome of a build that the front end ends. -/
def InputFault.outcome : InputFault → Except Crash Outcome
  | .refused d => .ok (.failure d.text)
  | .repeatedInput => .ok (.failure "xcc: driver error: stdin can only be compiled once")
  | .unreadable (.garbled fault) => .ok (.failure s!"xcc: driver error: {fault.message}")
  | .unreadable fault => .ok (.failure s!"xcc: I/O error: {fault.message}")
  | .failed failure =>
    if isReported failure then .ok (.failure s!"xcc: driver error: {failure.message}")
    else .error (.compile failure)

/-! ## 3. The generator -/

/-- Why the generator cannot serve what a build is asked for. -/
def shapeCause? (c : BuildConfig) : Option Cause :=
  if c.action = .delegate then some .action
  else if c.cInputs.length ≠ 1 then some .inputCount
  else if !c.otherInputs.isEmpty then some .otherInputs
  else (c.unknownFlags.head?).map .flag

/-- Where the result goes if nothing is said. -/
def defaultOutput (path : String) (action : BuildAction) : Except Path.Nameless String :=
  if action = .link then .ok "a.out"
  else
    let suffix := if action = .assembly then ".s" else ".o"
    if path = "-" then .ok ("out" ++ suffix)
    else ((Path.ofText path).withSuffix? suffix).map Path.text

def assembleCommand (action : BuildAction) (source output : String) : List String :=
  [toolName] ++ (if action = .compile then ["-c"] else []) ++ [source, "-o", output]

/-- The outcome of assembly, and the cause if the tool does not make the result. -/
def finish (s : Surroundings) (c : BuildConfig) (output assembly : String) : Outcome × Option Cause :=
  if c.action = .assembly then
    if output = "-" then ({ out := assembly }, none)
    else ({ written := [((Path.ofText output).resolve, assembly)] }, none)
  else
    let source := s.temporary.join ⟨"", ["input.s"]⟩
    let command := assembleCommand c.action source.text output
    let outcome : Outcome := { runs := [command], written := [(source.resolve, assembly)] }
    match s.tool command with
    | .exited 0 => (outcome, none)
    | .exited status => (outcome, some (.toolFailed status))
    | .missing => (outcome, some .toolMissing)

/-- Makes the code of an input: what has happened, and the cause if there is no result. -/
def generate (s : Surroundings) (c : BuildConfig) (input : Compilation) : Except Crash (Outcome × Option Cause) :=
  match shapeCause? c with
  | some cause => .ok ({}, some cause)
  | none =>
    match input.assembly s.world.platform with
    | .error (.refused cause) => .ok ({}, some (.codegen cause))
    | .error failure => .error (.generation failure)
    | .ok assembly => do
      let output ← match c.output with
        | some output => pure output
        | none => (defaultOutput (c.cInputs.headD "") c.action).mapError .nameless
      return finish s c output assembly

/-! ## 4. Builds -/

def mayFallBack (c : BuildConfig) (cause : Cause) : Bool :=
  c.backend = .auto && !c.noFallback && cause.allowsFallback

/-- Generates code, or gives way to the other compiler. -/
def generateOrDelegate (s : Surroundings) (c : BuildConfig) (input : Compilation) : Except Crash Outcome := do
  let (outcome, cause) ← generate s c input
  match cause with
  | none => return outcome
  | some cause =>
    if mayFallBack c cause then
      let after := delegate s c.forwarded
      return { after with
        err := s!"xcc: falling back to clang backend: {cause.message}\n" ++ after.err }
    else
      return { outcome with exit := 1, err := outcome.err ++ (cause.diagnostic input.file).text ++ "\n" }

def run (s : Surroundings) (argv : List String) : Except Crash Outcome :=
  match BuildConfig.ofArguments argv with
  | .error fault => .ok (.failure s!"xcc: driver error: {fault.message}")
  | .ok c =>
    if c.cInputs.isEmpty then .ok (delegate s c.forwarded)
    else match compileInputs s c.options false c.cInputs with
      | .error fault => fault.outcome
      | .ok [] => .ok (delegate s c.forwarded)
      | .ok (input :: _) =>
        if c.backend = .clang then .ok (delegate s c.forwarded) else generateOrDelegate s c input

end CCompiler.Build

namespace CCompiler.Check

open Arguments (Usage Spec Matched Stop)

/-! ## 5. Checking one input

The command that runs the front end on one input and lists what it is asked for.
-/

def usage : Usage where
  options := [
    ⟨["--frontend"], "frontend", .nothing⟩,
    ⟨["-std"], "std", .oneOf ["c11", "gnu11"]⟩,
    ⟨["-fhosted"], "hosted", .nothing⟩,
    ⟨["-ffreestanding"], "freestanding", .nothing⟩,
    ⟨["-I"], "include", .any⟩,
    ⟨["-iquote"], "quote", .any⟩,
    ⟨["-isystem"], "system", .any⟩,
    ⟨["-idirafter"], "after", .any⟩,
    ⟨["-include"], "forced", .any⟩,
    ⟨["-imacros"], "macros", .any⟩,
    ⟨["--diag-format"], "format", .oneOf ["human", "json"]⟩,
    ⟨["-D"], "define", .any⟩,
    ⟨["-U"], "undefine", .any⟩,
    ⟨["-nostdinc"], "nostdinc", .nothing⟩,
    ⟨["--dump-pp-tokens"], "dump-pp-tokens", .nothing⟩,
    ⟨["--dump-include-trace"], "dump-include-trace", .nothing⟩,
    ⟨["--dump-macro-table"], "dump-macro-table", .nothing⟩,
    ⟨["--dump-tokens"], "dump-tokens", .nothing⟩,
    ⟨["--dump-ast"], "dump-ast", .nothing⟩,
    ⟨["--dump-sema"], "dump-sema", .nothing⟩]
  positionals := [.single "input"]

def usageLine : String := "usage: xcc [options] input\n"

/-- Whether the environment is hosted: the last option that tells decides. -/
def isHosted (m : Matched) : Bool :=
  ((m.options.reverse.find? fun (key, _) => key == "hosted" || key == "freestanding").map
    (·.1 == "hosted")).getD true

def optionsOf (m : Matched) : Options where
  standard := ((m.value? "std").bind Standard.ofName?).getD .c11
  isHosted := isHosted m
  includeDirs := m.values "include"
  quoteDirs := m.values "quote"
  systemDirs := m.values "system"
  afterDirs := m.values "after"
  forcedIncludes := m.values "forced"
  macroIncludes := m.values "macros"
  defines := m.values "define"
  undefs := m.values "undefine"
  noStandardIncludes := m.has "nostdinc"
  messageFormat := ((m.value? "format").bind MessageFormat.ofName?).getD .human

def diagnosticJson (d : Diagnostic) : Json :=
  .object [("stage", .string d.stage.name), ("filename", .string d.file),
    ("line", .ofOption (fun (line, _) => .int (line : Nat)) d.place),
    ("column", .ofOption (fun (_, column) => .int (column : Nat)) d.place),
    ("code", .string d.code), ("message", .string d.message)]

def renderDiagnostic (format : MessageFormat) (d : Diagnostic) : String :=
  match format with
  | .human => d.text
  | .json => (diagnosticJson d).render .tight

/-- The listings that can be asked for, in the order in which they are printed. -/
def listings (c : Compilation) : List (String × List String) :=
  [("dump-pp-tokens", c.preprocessingTokens.map Token.listingLine),
   ("dump-include-trace", c.trace),
   ("dump-macro-table", c.macros.map Macro.line),
   ("dump-tokens", c.tokens.map Token.listingLine),
   ("dump-ast", [c.unit.json.render .line]),
   ("dump-sema", c.analysis.functions.map (·.1))]

def printed (lines : List String) : String := String.join (lines.map (· ++ "\n"))

/-- What is printed about an accepted input: the listings asked for, or that all is well. -/
def report (m : Matched) (c : Compilation) : String :=
  let wanted := (listings c).filter fun (key, _) => m.has key
  if wanted.isEmpty then printed [s!"xcc: ok: {c.file}"] else printed (wanted.flatMap (·.2))

def run (s : Surroundings) (m : Matched) : Except Crash Outcome :=
  let options := optionsOf m
  match s.read ((m.text? "input").getD "") with
  | .error fault => .ok (.failure s!"xcc: I/O error: {fault.message}")
  | .ok (file, source) =>
    match Compilation.ofSource ⟨options, s.world⟩ source file with
    | .error (.refused d) => .ok (.failure (renderDiagnostic options.messageFormat d))
    | .error failure => .error (.compile failure)
    | .ok c => .ok { out := report m c }

end CCompiler.Check

namespace CCompiler

/-! ## 6. Checks and builds

One command checks an input or builds a program. Arguments that only a build has make it a build; so do
arguments that a check does not know, unless a check was asked for.
-/

def runCommand (s : Surroundings) (argv : List String) : Except Crash Outcome :=
  if BuildConfig.asks argv then Build.run s argv
  else match Arguments.read Check.usage argv with
    | .error .help => .ok { out := Check.usageLine }
    | .error (.refused fault) =>
      .ok { exit := 2, err := Check.usageLine ++ "xcc: error: " ++ fault.message ++ "\n" }
    | .ok m =>
      if m.extras.isEmpty then Check.run s m
      else if m.has "frontend" then
        .ok (.failure ("xcc: frontend mode error: unknown options: " ++ " ".intercalate m.extras) 2)
      else Build.run s argv

end CCompiler
