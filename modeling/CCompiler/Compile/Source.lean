import CCompiler.Analysis.SourceUnit
import CCompiler.Grammar.SourceUnit
import CCompiler.Preprocess.Source

/-!
# The front end

What a stage of the compiler reports: the file, a message, perhaps a line and a column, and a code.
-/
namespace CCompiler

inductive Stage where
  | preprocessing
  | scanning
  | parsing
  | analysis
  | generation
deriving Repr, DecidableEq, Inhabited

def Stage.name : Stage → String
  | .preprocessing => "pp"
  | .scanning => "lex"
  | .parsing => "parse"
  | .analysis => "sema"
  | .generation => "codegen"

structure Diagnostic where
  stage : Stage
  file : String
  message : String
  place : Option (Nat × Nat) := none
  code : String
deriving Repr, DecidableEq, Inhabited

namespace Diagnostic

def text (d : Diagnostic) : String :=
  match d.place with
  | none => s!"{d.file}: {d.stage.name}: {d.message}"
  | some (line, column) => s!"{d.file}:{line}:{column}: {d.stage.name}: {d.message}"

/-- A text without an ending, or the whole text if it ends otherwise. -/
def withoutEnding (text ending : String) : String :=
  let rest := text.toList.take (text.length - ending.length)
  if rest ++ ending.toList = text.toList then String.ofList rest else text

/-- A message without the place at its end, where the place may have a file. -/
def withoutPlace (message : String) (line column : Option Int) (file : Option String) : String :=
  match line, column with
  | some line, some column =>
    let bare := withoutEnding message s!" at {line}:{column}"
    match file with
    | some file => withoutEnding bare s!" at {file}:{line}:{column}"
    | none => bare
  | _, _ => message

end Diagnostic

/-! ## Stages

A source is preprocessed, scanned, parsed and analysed. The first stage that refuses it ends the run
with a diagnostic, whose place is that of the source before preprocessing.
-/

/-- What the front end knows of a source. -/
structure Compilation where
  file : String
  source : String
  text : String
  preprocessingTokens : List Token
  tokens : List Token
  unit : SourceUnit NodeId
  analysis : Analysis.State
  trace : List String
  macros : List Macro

/-- Why a source has no result: a stage refused it, or a stage failed without a diagnostic. -/
inductive CompileFailure where
  | refused (diagnostic : Diagnostic)
  | preprocessing (failure : Preprocess.Failure)
  | lexical (error : LexError)
  | grammar (error : Grammar.ParseError)
  | analysis (failure : Analysis.Failure)

def CompileFailure.message : CompileFailure → String
  | .refused diagnostic => diagnostic.text
  | .preprocessing failure => failure.message
  | .lexical error => error.message
  | .grammar error => error.message
  | .analysis failure => failure.message

namespace Compilation

def codeOf : Stage → String
  | .scanning => "XCC-LEX-0001"
  | .parsing => "XCC-PARSE-0001"
  | .analysis => "XCC-SEMA-0001"
  | _ => ""

/-- The place before preprocessing of a line and a column behind it. A line that came from nowhere keeps
    its number. -/
def sourcePlace (places : List (String × Nat)) (file : String) (line column : Nat) : String × Nat × Nat :=
  match if line = 0 then none else places[line - 1]? with
  | some (mapped, mappedLine) => (mapped, mappedLine, column)
  | none => (file, line, column)

/-- The failure of a stage at a line and a column behind preprocessing. -/
def refusedAt (stage : Stage) (places : List (String × Nat)) (file message : String)
    (line column : Nat) : CompileFailure :=
  let (mapped, line, column) := sourcePlace places file line column
  .refused ⟨stage, mapped, message, some (line, column), codeOf stage⟩

def ofPreprocessing (file : String) : Preprocess.Failure → CompileFailure
  | .refused refusal =>
    let place := refusal.place.map fun (_, line) => (line, 1)
    .refused ⟨.preprocessing, (refusal.place.map (·.1)).getD file, refusal.cause.message, place,
      refusal.cause.code.text⟩
  | failure => .preprocessing failure

def ofScanning (places : List (String × Nat)) (file : String) : LexError → CompileFailure
  | .at cause p => refusedAt .scanning places file cause.message p.line p.column
  | error => .lexical error

def ofParsing (places : List (String × Nat)) (file : String) : Grammar.ParseError → CompileFailure
  | .at cause token => refusedAt .parsing places file cause.message token.line token.column
  | error => .grammar error

def ofAnalysis (file : String) : Analysis.Failure → CompileFailure
  | .meaning cause => .refused ⟨.analysis, file, cause.message, none, codeOf .analysis⟩
  | failure => .analysis failure

def ofSource (setting : Preprocess.Setting) (source file : String) : Except CompileFailure Compilation := do
  let standard := setting.options.standard
  let result ← (preprocess setting source file).mapError (ofPreprocessing file)
  let tokens ← (Token.scan .parsing result.text).mapError (ofScanning result.places file)
  let unit ← (SourceUnit.parse standard tokens).mapError (ofParsing result.places file)
  let unit := unit.numbered
  let analysis ← (unit.analyze standard).mapError (ofAnalysis file)
  let preprocessingTokens ← (Token.scan (.preprocessing false) result.text).mapError .lexical
  return { file, source, text := result.text, preprocessingTokens, tokens, unit, analysis,
           trace := result.trace, macros := result.macros }

end Compilation

def Token.listingLine (t : Token) : String :=
  let front := s!"{t.line}:{t.column}\t{t.kind.name}"
  if t.isEnd then front else s!"{front}\t{t.lexeme}"

end CCompiler
