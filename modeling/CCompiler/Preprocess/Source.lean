import CCompiler.Preprocess.Condition

/-!
# Preprocessing a source

A line that begins with `#` and a name is a directive. Whether a line ends inside a block comment is
told by scanning it from its front.

A directive is carried out and leaves empty lines; any other line is expanded where it is kept, together
with as many lines behind it as an invocation in it needs.
-/
namespace CCompiler.Preprocess

open Text

structure Directive where
  name : String
  body : List Char
deriving Repr, DecidableEq

/-- The directive of a line, which may end with one newline. -/
def Directive.ofLine? (line : List Char) : Option Directive :=
  match trimFront line with
  | '#' :: rest =>
    match nameAt? (trimFront rest) with
    | none => none
    | some (name, rest) =>
      let behind := rest.dropWhile (· ≠ '\n')
      if behind.isEmpty || behind == ['\n'] then
        some ⟨String.ofList name, rest.takeWhile (· ≠ '\n')⟩
      else none
  | _ => none

/-- What is left of a line that says nothing: its newline. -/
def blankLine (line : List Char) : List Char :=
  if line.getLast? = some '\n' then ['\n'] else []

/-- Whether a directive goes on in the next line: a backslash is its last character but white space. -/
def isContinued (line : List Char) : Bool := (trimEnd line).getLast? = some '\\'

/-- The lines of a directive as one: a backslash at a line end joins. -/
def joinContinued : List Char → List Char
  | '\\' :: '\n' :: rest => joinContinued rest
  | c :: rest => c :: joinContinued rest
  | [] => []

/-! ## 1. Comments -/

inductive Region where
  | code
  | comment
  | literal (quote : Char)
deriving Repr, DecidableEq

/-- Where a scan of a line ends, given where it begins. Inside a literal a backslash hides the next
    character; behind `//` nothing counts. -/
def scanRegion : Region → List Char → Region
  | region, [] => region
  | .literal q, '\\' :: _ :: rest => scanRegion (.literal q) rest
  | .literal q, c :: rest => scanRegion (if c == q then .code else .literal q) rest
  | .comment, '*' :: '/' :: rest => scanRegion .code rest
  | .comment, _ :: rest => scanRegion .comment rest
  | .code, '/' :: '/' :: _ => .code
  | .code, '/' :: '*' :: rest => scanRegion .comment rest
  | .code, c :: rest =>
    scanRegion (if c == '"' || c == '\'' then .literal c else .code) rest

def endsInComment (line : List Char) (inComment : Bool) : Bool :=
  scanRegion (if inComment then .comment else .code) line = .comment

/-! ## 2. Output of preprocessing

The text that was kept, and for every line of it the file and the line it came from.
-/

structure Output where
  text : String := ""
  places : Array (String × Nat) := #[]
deriving Repr, DecidableEq, Inhabited

namespace Output

/-- The output with one more line, which came from a place. An empty text is no line. -/
def push (out : Output) (line : String) (location : Location) : Output :=
  if line = "" then out
  else ⟨out.text ++ line, out.places.push (location.file, location.line)⟩

def append (out more : Output) : Output := ⟨out.text ++ more.text, out.places ++ more.places⟩

end Output

/-- Where reading stands: the file and the line that are reported, and how deep the file is included. -/
structure Cursor where
  file : String
  line : Nat := 1
  level : Nat := 0
deriving Repr, DecidableEq, Inhabited

namespace Cursor

def location (c : Cursor) : Location := ⟨c.file, c.line, c.level⟩

def ahead (c : Cursor) (count : Nat) : Location := ⟨c.file, c.line + count, c.level⟩

/-- The place of a line of a directive, some lines further on. It does not tell how deep the file is
    included. -/
def directivePlace (c : Cursor) (count : Nat) : Location := ⟨c.file, c.line + count, 0⟩

def advance (c : Cursor) (count : Nat) : Cursor := { c with line := c.line + count }

/-- The cursor at a line that is to be called by a number, perhaps in a file by another name. -/
def rebase (c : Cursor) (line : Nat) (file : Option String) : Cursor :=
  { c with line, file := file.getD c.file }

end Cursor

/-- A text to be preprocessed: its lines, the name of its file, the directory in which its headers begin,
    and the files that led to it, the outermost first. -/
structure Job where
  text : String
  file : String
  base : Option Path
  stack : List String
deriving Inhabited

structure Progress where
  out : Output := {}
  cursor : Cursor
  frames : List Frame := []
  inComment : Bool := false
deriving Inhabited

/-! ## 3. Lines of text -/

/-- A line expanded with as many lines behind it as an invocation needs, and those lines. Directives of
    groups among them select which lines take part. -/
def expandAcross (cursor : Cursor) (base : Option Path) (text : String) (frames : List Frame)
    (taken : List (List Char)) : List (List Char) → Preprocess (String × List (List Char))
  | [] => do return (← expandLine text cursor.location, taken.reverse)
  | next :: rest => do
    let outcome ← tryCatch (do return Except.ok (← expandLine text cursor.location)) fun failure =>
      return Except.error failure
    match outcome with
    | .ok expanded => return (expanded, taken.reverse)
    | .error failure =>
      match failure with
      | .refused ⟨.unterminatedInvocation, _⟩ =>
        match Directive.ofLine? next with
        | some directive =>
          match GroupDirective.ofName? directive.name with
          | none => throw failure
          | some group =>
            let frames ← handleGroup group directive.body (cursor.ahead (taken.length + 1)) base frames
            expandAcross cursor base text frames (next :: taken) rest
        | none =>
          let text := if isActive frames then text ++ String.ofList next else text
          expandAcross cursor base text frames (next :: taken) rest
      | _ => throw failure

def pushBlank (out : Output) (place : Nat → Location) (number : Nat) : List (List Char) → Output
  | [] => out
  | line :: rest =>
    pushBlank (out.push (String.ofList (blankLine line)) (place number)) place (number + 1) rest

def scanComments (lines : List (List Char)) (inComment : Bool) : Bool :=
  lines.foldl (fun inComment line => endsInComment line inComment) inComment

/-- Passes over a line that is no directive, and tells how many lines behind it were used. -/
def processTextLine (base : Option Path) (p : Progress) (line : List Char) (rest : List (List Char)) :
    Preprocess (Progress × Nat) := do
  let location := p.cursor.location
  if isActive p.frames && !p.inComment then
    let (expanded, taken) ← expandAcross p.cursor base (String.ofList line) [] [] rest
    let out := pushBlank (p.out.push expanded location) p.cursor.ahead 1 taken
    return ({ p with
      out, cursor := p.cursor.advance (taken.length + 1),
      inComment := scanComments (line :: taken) p.inComment }, taken.length)
  else
    let kept := if isActive p.frames then line else blankLine line
    return ({ p with
      out := p.out.push (String.ofList kept) location, cursor := p.cursor.advance 1,
      inComment := endsInComment line p.inComment }, 0)

/-! ## 4. Directives -/

def continuation (line : List Char) : List (List Char) → List (List Char)
  | [] => []
  | next :: rest => if isContinued line then next :: continuation next rest else []

/-- The progress behind the lines of a directive that leave empty lines. -/
def passDirective (p : Progress) (lines : List (List Char)) : Progress :=
  { p with
    out := pushBlank p.out p.cursor.directivePlace 0 lines,
    cursor := p.cursor.advance lines.length,
    inComment := scanComments lines p.inComment }

/-- The same for lines whose comments are not looked at. -/
def passUnscanned (p : Progress) (lines : List (List Char)) : Progress :=
  { passDirective p lines with inComment := p.inComment }

def traceLine (location : Location) (directive : String) (header : Header) (path : String) : String :=
  s!"{location.file}:{location.line}: #{directive} {header.text} -> {path}"

def cycleOf (stack : List String) (path : String) : List String :=
  stack.dropWhile (· ≠ path) ++ [path]

def IncludeKind.directive : IncludeKind → String
  | .plain | .forced => "include"
  | .next => "include_next"
  | .macros => "imacros"

/-- Includes a header: looks for it, notes it, refuses a file that includes itself, and preprocesses its
    text. A header that is to be included once is passed over the next time, but not when only its macros
    are wanted. -/
def includeHeader (run : Job → Preprocess Output) (kind : IncludeKind) (header : Header)
    (location : Location) (base : Option Path) (stack : List String) : Preprocess Output := do
  let setting ← read
  let next := if kind = .next then base else none
  let dirs := searchedDirs setting header base next
  match findHeader? setting.world.files header dirs with
  | none => refuseAt location (.includeNotFound kind header.text (dirs.map Path.text))
  | some path =>
    if kind ≠ .macros ∧ (← get).onceFiles.contains path.text then return {}
    modify fun s => { s with trace := traceLine location kind.directive header path.text :: s.trace }
    if stack.contains path.text then refuseAt location (.includeCycle (cycleOf stack path.text))
    match setting.world.files.read path with
    | .error (.garbled fault) => throw (.garbled fault)
    | .error fault => refuseAt location (.includeUnreadable header.name fault.message)
    | .ok text => run ⟨text, path.text, some path.parent, stack ++ [path.text]⟩

/-- Carries out a directive that belongs to no group, where text is kept. -/
def processDirective (run : Job → Preprocess Output) (job : Job) (p : Progress)
    (directive : Directive) (lines : List (List Char)) : Preprocess Progress := do
  let location := p.cursor.directivePlace 0
  match directive.name with
  | "define" => do
    define directive.body
    return passDirective p lines
  | "undef" => do
    undefine directive.body location
    return passDirective p lines
  | "include" | "include_next" => do
    let header ← headerOf (trimSpace directive.body) location
    let kind := if directive.name = "include_next" then .next else .plain
    let included ← includeHeader run kind header location job.base job.stack
    return { passDirective p lines with
      out := pushBlank (p.out.append included) p.cursor.directivePlace 1 lines.tail }
  | "error" =>
    let message := trimSpace directive.body
    refuseAt location (.explicit (if message.isEmpty then "#error" else String.ofList message))
  | "warning" => return passDirective p lines
  | "line" => do
    let (line, file) ← lineDirective directive.body location
    return { passDirective p lines with cursor := p.cursor.rebase line file }
  | "pragma" => do
    let body := trimSpace directive.body
    if body = "once".toList then
      modify fun s => { s with onceFiles := job.file :: s.onceFiles }
    else
      match pragmaFault? body with
      | some fault => refuseAt location (.pragma fault)
      | none => pure ()
    return passDirective p lines
  | name => do
    if (← standard) = .c11 then refuseAt location (.unknownDirective name)
    return passUnscanned p lines

def processDirectiveLines (run : Job → Preprocess Output) (job : Job) (p : Progress)
    (lines : List (List Char)) : Preprocess Progress := do
  match Directive.ofLine? (joinContinued lines.flatten) with
  | none => return passUnscanned p lines
  | some directive =>
    match GroupDirective.ofName? directive.name with
    | some group =>
      let frames ← handleGroup group directive.body (p.cursor.directivePlace 0) job.base p.frames
      return { passDirective p lines with frames }
    | none =>
      if !isActive p.frames then return passDirective p lines
      processDirective run job p directive lines

/-! ## 5. Texts -/

def processLines (run : Job → Preprocess Output) (job : Job) (p : Progress) :
    Nat → List (List Char) → Preprocess Progress
  | _, [] => return p
  | skip + 1, _ :: rest => processLines run job p skip rest
  | 0, line :: rest => do
    if p.inComment || (Directive.ofLine? line).isNone then
      let (p, used) ← processTextLine job.base p line rest
      processLines run job p used rest
    else
      let more := continuation line rest
      let p ← processDirectiveLines run job p (line :: more)
      processLines run job p more.length rest

/-- Preprocesses a text with a way to preprocess the headers it includes. -/
def processWith (run : Job → Preprocess Output) (job : Job) : Preprocess Output := do
  let cursor : Cursor := { file := job.file, level := job.stack.length - 1 }
  let p ← processLines run job { cursor } 0 (lines job.text.toList)
  if !p.frames.isEmpty then refuseAt p.cursor.location (.group .unterminated)
  return p.out

/-- Preprocesses a text whose headers stand no deeper in one another than a bound. -/
def processWithin : Nat → Job → Preprocess Output
  | 0, _ => throw .tooDeep
  | depth + 1, job => processWith (processWithin depth) job

/-- Preprocesses a text. No file includes itself, so headers stand no deeper in one another than there are
    files. -/
def process (job : Job) : Preprocess Output := do
  processWithin ((← read).world.files.length + 2) job

/-! ## 6. Sources

The macros of some files and the text of others come before the source. At the end assembler is removed
from the text or refused.
-/

/-- What preprocessing answers: the text, the places of its lines, the headers it included and its
    macros. -/
structure Result where
  text : String
  places : List (String × Nat)
  trace : List String
  macros : List Macro
deriving Repr, DecidableEq, Inhabited

/-- Includes the files of options in order, numbered as lines of the command line, with a way to preprocess
    them. -/
def includeOptionsBy (run : Job → Preprocess Output) (kind : IncludeKind) (base : Option Path)
    (file : String) (out : Output) (number : Nat) : List String → Preprocess Output
  | [] => return out
  | name :: rest => do
    let location : Location := ⟨"<command line>", number, 0⟩
    let included ← includeHeader run kind ⟨name, false⟩ location base [file]
    let out := if kind = .macros then out else out.append included
    includeOptionsBy run kind base file out (number + 1) rest

/-- Preprocesses a source and the files that options put before it with a way to preprocess texts. -/
def processSourceBy (run : Job → Preprocess Output) (source file : String) : Preprocess Output := do
  modify fun s => { s with baseFile := file }
  let options := (← read).options
  let base := sourceDir file
  let out ← includeOptionsBy run .macros base file {} 1 options.macroIncludes
  let out ← includeOptionsBy run .forced base file out (options.macroIncludes.length + 1) options.forcedIncludes
  return out.append (← run ⟨source, file, base, [file]⟩)

def processSource (source file : String) : Preprocess Output :=
  processSourceBy process source file

def initialState (setting : Setting) : Except Failure State := do
  return { macros := ← initialMacros setting }

/-- What preprocessing answers for what an action leaves. -/
def answerOf (setting : Setting) (action : Preprocess Output) : Except Failure Result := do
  let (outcome, state) := (action.run setting).run (← initialState setting)
  let out ← outcome
  let text ← match setting.options.standard with
    | .gnu11 => pure (String.ofList (dropAssembler out.text.toList))
    | .c11 => do
      match rejectAssembler out.text.toList out.places.toList with
      | .ok () => pure out.text
      | .error refusal => throw (.refused refusal)
  return ⟨text, out.places.toList, state.trace.reverse, state.macros.listing⟩

end CCompiler.Preprocess

namespace CCompiler

open Preprocess

def preprocess (setting : Setting) (source file : String) : Except Failure Result :=
  answerOf setting (processSource source file)

end CCompiler
