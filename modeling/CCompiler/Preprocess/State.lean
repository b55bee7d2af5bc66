import CCompiler.Condition.Word
import CCompiler.Preprocess.Predefined

/-!
# State of preprocessing

The macros that are defined, the counter, the files included so far and those to be included once. What
was changed before a failure stays changed.
-/
namespace CCompiler.Preprocess

structure State where
  macros : MacroTable
  counter : Nat := 0
  trace : List String := []
  onceFiles : List String := []
  baseFile : String := "<input>"
deriving Inhabited

/-- What preprocessing is given: the options and the world. -/
structure Setting where
  options : Options
  world : World
deriving Inhabited

abbrev Preprocess := ReaderT Setting (ExceptT Failure (StateM State))

def refuseAt {α : Type} (location : Location) (cause : Cause) : Preprocess α :=
  throw (Failure.at cause location)

def standard : Preprocess Standard := do return (← read).options.standard

def isDefined (name : String) : Preprocess Bool := do return (← get).macros.defines name

def defineOption (table : MacroTable) (text : String) : Except Failure MacroTable :=
  match Macro.ofOption? text with
  | .error error => .error (.lexical error)
  | .ok none => .error (.refused ⟨.definition text, none⟩)
  | .ok (some m) => .ok (table.put m)

def undefineOption (table : MacroTable) (name : String) : Except Failure MacroTable :=
  if Text.isName name.toList then .ok (table.erase name)
  else .error (.refused ⟨.undefinition name, none⟩)

def initialMacros (setting : Setting) : Except Failure MacroTable := do
  let options := setting.options
  let table ← (definitions options.standard options.isHosted setting.world.platform.machine).foldlM defineOption []
  let table := (momentMacros setting.world.now).foldl (fun table m => table.put m) table
  let table ← options.defines.foldlM defineOption table
  options.undefs.foldlM undefineOption table

/-- Defines the macro of a directive; a body that defines none is passed over. -/
def define (body : List Char) : Preprocess Unit := do
  match Macro.ofDirective? body with
  | .error error => throw (.lexical error)
  | .ok none => return
  | .ok (some m) => modify fun s => { s with macros := s.macros.put m }

def macroName (body : List Char) (location : Location) : Preprocess String := do
  match Text.words (Condition.withoutComments body) with
  | [name] =>
    if Text.isName name then return String.ofList name else refuseAt location .expectedMacroName
  | _ => refuseAt location .expectedMacroName

def undefine (body : List Char) (location : Location) : Preprocess Unit := do
  let name ← macroName body location
  modify fun s => { s with macros := s.macros.erase name }

def expandAt {α : Type} (location : Location) (action : Macro.Context → Macro.Expand α) : Preprocess α := do
  let standard ← standard
  let state ← get
  let ctx : Macro.Context :=
    ⟨state.macros, standard, location, state.baseFile, Macro.dynamicNames⟩
  let (result, counter) := (action ctx).run state.counter
  set { state with counter }
  match result with
  | .ok value => return value
  | .error failure => throw failure

def expandText (text : String) (location : Location) : Preprocess String :=
  expandAt location (Macro.expandText · text)

def namesMacro (table : MacroTable) (text : String) : Except LexError Bool := do
  match ← MacroToken.ofText? text with
  | none => return false
  | some tokens => return tokens.any fun t => t.kind = .identifier && table.defines t.text

def cutNewline (line : String) : String × String :=
  if line.endsWith "\n" then ((line.dropEnd 1).toString, "\n") else (line, "")

/-- A line after expansion. While no macro is defined but predefined ones, a line that names none is left
    as it is. -/
def expandLine (line : String) (location : Location) : Preprocess String := do
  let table := (← get).macros
  if table.isEmpty then return line
  let (text, newline) := cutNewline line
  if table.all (isPredefined ·.name) then
    match namesMacro table text with
    | .error error => throw (.lexical error)
    | .ok false => return line
    | .ok true => return (← expandText text location) ++ newline
  else return (← expandText text location) ++ newline

open Text

/-! ## The directive `#line`

It gives the next line a number and, in a string literal, perhaps another file name.
-/

/-- Whether every double quote in a text has a backslash right before it, given the character before
    all, and no newline stands in it. -/
def quotesAreHidden (before : Option Char) : List Char → Bool
  | [] => true
  | c :: rest =>
    c ≠ '\n' && (c ≠ '"' || before = some '\\') && quotesAreHidden (some c) rest

def looksLikeString : List Char → Bool
  | '"' :: rest => rest.getLast? = some '"' && quotesAreHidden none rest.dropLast
  | _ => false

def textOfCodes (codes : List Nat) : String := String.ofList (codes.map Char.ofNat)

/-- The digits and the string literal in the expanded body of the directive. -/
def lineParts? (text : List Char) : Option (List Char × Option (List Char)) := do
  let digits := text.takeWhile fun c => (decimalValue? c).isSome
  let behind := text.drop digits.length
  if digits.isEmpty then none
  if (trimSpace behind).isEmpty then return (digits, none)
  if !behind.head?.any isSpace then none
  let literal := trimSpace behind
  if looksLikeString literal then return (digits, some literal) else none

def lineDirective (body : List Char) (location : Location) : Preprocess (Nat × Option String) := do
  let expanded ← expandText (String.ofList body) location
  match lineParts? (trimSpace expanded.toList) with
  | none => refuseAt location .invalidLine
  | some (digits, literal) =>
    let line ← match Number.ofText 10 digits with
      | .ok n => pure n.toNat
      | .error fault => throw (.number fault)
    if line = 0 then refuseAt location .invalidLine
    match literal with
    | none => return (line, none)
    | some literal =>
      match quotation? literal with
      | some codes => return (line, some (textOfCodes codes))
      | none => refuseAt location .invalidLine

end CCompiler.Preprocess
