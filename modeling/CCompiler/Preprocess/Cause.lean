import CCompiler.Number.Fault
import CCompiler.Token.Scan

/-!
# Errors of preprocessing

Every way in which directives, macros and included files are refused, with its wording, its code and its
place.
-/
namespace CCompiler.Preprocess

/-- The place of a line: a file, the number of the line and how deep the file is included. -/
structure Location where
  file : String
  line : Nat
  level : Nat := 0
deriving Repr, DecidableEq

inductive Code where
  | unknownDirective
  | includeNotFound
  | invalidCondition
  | invalidDirective
  | gnuExtension
  | invalidMacro
  | unterminatedMacro
  | includeUnreadable
  | includeCycle
deriving Repr, DecidableEq

def Code.text : Code → String
  | .unknownDirective => "XCC-PP-0101"
  | .includeNotFound => "XCC-PP-0102"
  | .invalidCondition => "XCC-PP-0103"
  | .invalidDirective => "XCC-PP-0104"
  | .gnuExtension => "XCC-PP-0105"
  | .invalidMacro => "XCC-PP-0201"
  | .unterminatedMacro => "XCC-PP-0202"
  | .includeUnreadable => "XCC-PP-0301"
  | .includeCycle => "XCC-PP-0302"

/-- The ways in which a file is included: by a directive, by a directive that goes on behind the file's
    own directory, for its macros alone, or before the source. -/
inductive IncludeKind where
  | plain
  | next
  | macros
  | forced
deriving Repr, DecidableEq

/-- The operators of conditions that ask about the compiler. -/
inductive Probe where
  | builtin
  | attribute
  | feature
  | extension
  | warning
  | cAttribute
  | includeNext
  | include
deriving Repr, DecidableEq

def Probe.marker : Probe → String
  | .builtin => "__has_builtin"
  | .attribute => "__has_attribute"
  | .feature => "__has_feature"
  | .extension => "__has_extension"
  | .warning => "__has_warning"
  | .cAttribute => "__has_c_attribute"
  | .includeNext => "__has_include_next"
  | .include => "__has_include"

def Probe.subject : Probe → String
  | .builtin | .attribute | .feature | .extension => "feature"
  | .warning => "warning option"
  | .cAttribute => "attribute"
  | .includeNext | .include => "header"

def Probe.requirement : Probe → String
  | .builtin | .attribute | .feature | .extension => "an identifier"
  | .warning => "a string literal"
  | .cAttribute => "an identifier or scoped identifier"
  | .includeNext | .include => "quoted or angled"

inductive ProbeFault where
  | noParenthesis
  | unclosed
  | missing
  | form
deriving Repr, DecidableEq

def ProbeFault.message (probe : Probe) : ProbeFault → String
  | .noParenthesis => "expected '(' after operator"
  | .unclosed => "missing closing ')'"
  | .missing => s!"missing {probe.subject} operand"
  | .form => s!"{probe.subject} operand must be {probe.requirement}"

inductive PragmaFault where
  | stdc (subject value : String)
  | visibility
  | fenvAccess
  | diagnostic
  | module
  | floatingPoint
deriving Repr, DecidableEq

def PragmaFault.message : PragmaFault → String
  | .stdc subject value =>
    s!"Invalid #pragma STDC {subject} value: " ++ if value = "" then "<missing>" else value
  | .visibility => "Invalid #pragma GCC visibility directive"
  | .fenvAccess => "Invalid #pragma fenv_access directive"
  | .diagnostic => "Invalid #pragma diagnostic directive"
  | .module => "Invalid #pragma clang module directive"
  | .floatingPoint => "Invalid #pragma clang fp directive"

/-- The ways in which a directive of a conditional group is out of place. -/
inductive GroupFault where
  | outside (directive : String)
  | afterElse (directive : String)
  | duplicateElse
  | tail (directive : String)
  | unterminated
deriving Repr, DecidableEq

def GroupFault.message : GroupFault → String
  | .outside directive => s!"Unexpected #{directive}"
  | .afterElse directive => s!"#{directive} after #else"
  | .duplicateElse => "Duplicate #else"
  | .tail directive => s!"Unexpected tokens after #{directive}"
  | .unterminated => "Unterminated conditional directive"

inductive Cause where
  | definition (text : String)
  | undefinition (name : String)
  | group (fault : GroupFault)
  | unknownDirective (name : String)
  | explicit (message : String)
  | invalidInclude
  | includeNotFound (kind : IncludeKind) (reference : String) (searched : List String)
  | includeCycle (chain : List String)
  | includeUnreadable (name reason : String)
  | invalidCondition
  | conditionOverflow
  | probe (operator : Probe) (fault : ProbeFault)
  | expectedMacroName
  | invalidLine
  | pragma (fault : PragmaFault)
  | insufficientArguments
  | argumentCount
  | unterminatedInvocation
  | invalidPaste
  | invalidPasteResult
  | asmExtension
deriving Repr, DecidableEq

def IncludeKind.notFound : IncludeKind → String
  | .plain => "Include not found"
  | .next => "Include not found via #include_next"
  | .macros => "Macro include not found"
  | .forced => "Forced include not found"

def Cause.message : Cause → String
  | .definition text => s!"Invalid macro definition: {text}"
  | .undefinition name => s!"Invalid macro name in -U: {name}"
  | .group fault => fault.message
  | .unknownDirective name => s!"Unknown preprocessor directive: #{name}"
  | .explicit message => message
  | .invalidInclude => "Invalid #include directive"
  | .includeNotFound kind reference searched =>
    s!"{kind.notFound}: {reference}; searched: "
      ++ if searched.isEmpty then "<none>" else ", ".intercalate searched
  | .includeCycle chain => "Circular include detected: " ++ " -> ".intercalate chain
  | .includeUnreadable name reason => s!"Unable to read include: {name}: {reason}"
  | .invalidCondition => "Invalid #if expression"
  | .conditionOverflow => "Integer overflow in preprocessor expression"
  | .probe operator fault => s!"Invalid {operator.marker} expression: {fault.message operator}"
  | .expectedMacroName => "Expected macro name"
  | .invalidLine => "Invalid #line directive"
  | .pragma fault => fault.message
  | .insufficientArguments => "Insufficient macro arguments"
  | .argumentCount => "Macro argument count mismatch"
  | .unterminatedInvocation => "Unterminated macro invocation"
  | .invalidPaste => "Invalid token paste"
  | .invalidPasteResult => "Invalid token paste result"
  | .asmExtension => "GNU asm extension is not allowed in c11"

def Cause.code : Cause → Code
  | .unknownDirective _ => .unknownDirective
  | .includeNotFound .. => .includeNotFound
  | .invalidCondition | .conditionOverflow | .probe .. => .invalidCondition
  | .group _ | .explicit _ | .invalidInclude | .expectedMacroName | .invalidLine | .pragma _ =>
    .invalidDirective
  | .asmExtension => .gnuExtension
  | .definition _ | .undefinition _ | .insufficientArguments | .argumentCount | .invalidPaste
  | .invalidPasteResult => .invalidMacro
  | .unterminatedInvocation => .unterminatedMacro
  | .includeUnreadable .. => .includeUnreadable
  | .includeCycle _ => .includeCycle

/-- A refusal: a cause and, except for options, the file and the line. -/
structure Refusal where
  cause : Cause
  place : Option (String × Nat)
deriving Repr, DecidableEq

def Refusal.message (r : Refusal) : String :=
  match r.place with
  | none => r.cause.message
  | some (file, line) => s!"{r.cause.message} at {file}:{line}:1"

/-- Why preprocessing stopped: the text was refused, a universal character name has digits without a
    value, there is no such integer, an included file is no text, or files include each other deeper than
    there are files. -/
inductive Failure where
  | refused (refusal : Refusal)
  | lexical (error : LexError)
  | number (fault : NumberFault)
  | garbled (fault : Text.Utf8Fault)
  | tooDeep
deriving Repr, DecidableEq

def Failure.at (cause : Cause) (location : Location) : Failure :=
  .refused ⟨cause, some (location.file, location.line)⟩

def Failure.message : Failure → String
  | .refused refusal => refusal.message
  | .lexical error => error.message
  | .number fault => fault.message
  | .garbled fault => fault.message
  | .tooDeep => "maximum recursion depth exceeded"

open Text

/-! ## Assembler in C

The GNU dialect lets a source hold assembler: statements that begin a line and labels behind
declarators. Both are removed from the text; strict C refuses them.
-/

def assemblerWords : List (List Char) := ["__asm__", "__asm", "asm"].map String.toList

def assemblerWord? (cs : List Char) : Option (List Char × List Char) :=
  (assemblerWords.find? (·.isPrefixOf cs)).map fun word => (word, cs.drop word.length)

def beginsAssembler (line : List Char) : Bool :=
  assemblerWords.any fun word =>
    let rest := trimFront line
    word.isPrefixOf rest && !((rest.drop word.length).head?.any isWordChar)

/-- The length of a text up to its last closing parenthesis, with it, zero if it has none. -/
def throughLastParen (cs : List Char) : Nat := (cs.reverse.dropWhile (· ≠ ')')).length

/-- The length of the assembler label at the front of a text, zero if there is none: a word and a
    parenthesised text up to the last closing parenthesis before a semicolon or the line end. -/
def labelLength (cs : List Char) : Nat :=
  match assemblerWord? cs with
  | none => 0
  | some (_, behind) =>
    match trimFront behind with
    | '(' :: rest =>
      match throughLastParen (rest.takeWhile fun c => c ≠ ';' && c ≠ '\n') with
      | 0 => 0
      | n + 1 => (cs.length - rest.length) + (n + 1)
    | _ => 0

/-- A line without assembler labels, where a character stands before all and the first characters are
    skipped. -/
def dropLabelsFrom (before : Option Char) : Nat → List Char → List Char
  | _, [] => []
  | skip + 1, c :: rest => dropLabelsFrom (some c) skip rest
  | 0, c :: rest =>
    match if before.any isWordChar then 0 else labelLength (c :: rest) with
    | 0 => c :: dropLabelsFrom (some c) 0 rest
    | n + 1 => dropLabelsFrom (some c) n rest

/-- Whether a line has an assembler label, where a character stands before all. -/
def hasLabel (before : Option Char) : List Char → Bool
  | [] => false
  | c :: rest =>
    (!before.any isWordChar && labelLength (c :: rest) > 0) || hasLabel (some c) rest

/-- Lines without assembler, where the first may go on with a statement. -/
def dropAssemblerLines (inStatement : Bool) : List (List Char) → List (List Char)
  | [] => []
  | line :: rest =>
    if inStatement || beginsAssembler line then
      (if line.getLast? = some '\n' then ['\n'] else []) :: dropAssemblerLines (!line.contains ';') rest
    else dropLabelsFrom none 0 line :: dropAssemblerLines false rest

def dropAssembler (source : List Char) : List Char := (dropAssemblerLines false (lines source)).flatten

/-- The place of a line that has assembler, where the lines from a number on are given. -/
def assemblerPlace? (places : List (String × Nat)) (number : Nat) : List (List Char) → Option (String × Nat)
  | [] => none
  | line :: rest =>
    let line := withoutBoundary line
    if beginsAssembler line || hasLabel none line then
      some ((places[number - 1]?).getD ("<input>", number))
    else assemblerPlace? places (number + 1) rest

/-- Refuses a text with assembler, at the place where its first line came from. -/
def rejectAssembler (source : List Char) (places : List (String × Nat)) : Except Refusal Unit :=
  match assemblerPlace? places 1 (lines source) with
  | none => .ok ()
  | some place => .error ⟨.asmExtension, some place⟩

end CCompiler.Preprocess
