import CCompiler.Condition.Value
import CCompiler.Preprocess.Probe

/-!
# Conditions of directives

The text of a condition becomes an expression: `defined` and the operators about the compiler are
replaced by one or zero, then macros are expanded. The condition holds if the value is not zero.
-/
namespace CCompiler.Preprocess

open Text

/-- Whether every `defined` with an opening parenthesis has a closing one somewhere behind it. Each
    unfolding passes over one `defined`. -/
def definedIsClosed : Nat → List Char → Bool
  | 0, _ => true
  | fuel + 1, text =>
    match behindWord? "defined".toList none text with
    | none => true
    | some behind =>
      match trimFront behind with
      | '(' :: rest => rest.contains ')' && definedIsClosed fuel rest
      | rest => definedIsClosed fuel rest

/-- The name that `defined` asks for in parentheses behind it, and how many characters that took. -/
def parenthesisedOperand? (behind : List Char) : Option (List Char × Nat) :=
  match trimFront behind with
  | '(' :: rest =>
    match nameAt? (trimFront rest) with
    | none => none
    | some (name, rest) =>
      match trimFront rest with
      | ')' :: rest => some (name, behind.length - rest.length)
      | _ => none
  | _ => none

/-- The name that `defined` asks for behind white space, and how many characters that took. -/
def bareOperand? (behind : List Char) : Option (List Char × Nat) :=
  if behind.head?.any isSpace then
    (nameAt? (trimFront behind)).map fun (name, rest) => (name, behind.length - rest.length)
  else none

/-- The text with every `defined` and its operand replaced, where a character stands before all and the
    first characters are skipped. -/
def replaceDefinedFrom (operand? : List Char → Option (List Char × Nat)) (isDefined : String → Bool)
    (before : Option Char) : Nat → List Char → List Char
  | _, [] => []
  | skip + 1, c :: rest => replaceDefinedFrom operand? isDefined (some c) skip rest
  | 0, c :: rest =>
    let word := "defined".toList
    let found :=
      if word.isPrefixOf (c :: rest) && isWordBoundary before (some c) then
        operand? ((c :: rest).drop word.length)
      else none
    match found with
    | some (name, length) =>
      truth (isDefined (String.ofList name))
        ++ replaceDefinedFrom operand? isDefined (some c) (word.length + length - 1) rest
    | none => c :: replaceDefinedFrom operand? isDefined (some c) 0 rest

def replaceDefined (isDefined : String → Bool) (text : List Char) : List Char :=
  replaceDefinedFrom bareOperand? isDefined none 0 (replaceDefinedFrom parenthesisedOperand? isDefined none 0 text)

/-- The failure for a fault of a condition. A fault of the expression is a refusal, a lack of room for
    its values is none. -/
def failureOf (location : Location) : Condition.Fault → Failure
  | .overflow => .at .conditionOverflow location
  | .number fault => if fault.isOfValue then .at .invalidCondition location else .number fault
  | _ => .at .invalidCondition location

def conditionText (text : List Char) (location : Location) (base : Option Path) : Preprocess (List Char) := do
  let text ← replaceHeaderProbes base location text
  let text ← replaceFeatureProbes location text
  let text ← expandText (String.ofList text) location
  let text ← replaceHeaderProbes base location text.toList
  replaceFeatureProbes location text

def conditionHolds (body : List Char) (location : Location) (base : Option Path) : Preprocess Bool := do
  let text := Condition.withoutComments body
  if !definedIsClosed text.length text then refuseAt location .invalidCondition
  let macros := (← get).macros
  let text := replaceDefined macros.defines text
  let text ← tryCatch (conditionText text location base) fun
    | .lexical _ => refuseAt location .invalidCondition
    | failure => throw failure
  match Condition.words text >>= Condition.wordValue with
  | .ok value => return value ≠ 0
  | .error fault => throw (failureOf location fault)

/-! ## Conditional groups

A group begins with `#if`, `#ifdef` or `#ifndef`, may have further branches and ends with `#endif`. Of its
branches the first whose condition holds is kept.
-/

/-- An open group: whether the text around it is kept, whether the present branch is kept, whether some
    branch was, and whether `#else` was there. -/
structure Frame where
  parentActive : Bool
  active : Bool
  branchTaken : Bool
  sawElse : Bool := false
deriving Repr, DecidableEq

/-- Whether text inside open groups is kept. The innermost group comes first. -/
def isActive (frames : List Frame) : Bool := frames.all (·.active)

inductive GroupDirective where
  | if_
  | ifdef
  | ifndef
  | elif
  | elifdef
  | elifndef
  | else_
  | endif
deriving Repr, DecidableEq

def GroupDirective.name : GroupDirective → String
  | .if_ => "if"
  | .ifdef => "ifdef"
  | .ifndef => "ifndef"
  | .elif => "elif"
  | .elifdef => "elifdef"
  | .elifndef => "elifndef"
  | .else_ => "else"
  | .endif => "endif"

def GroupDirective.ofName? (name : String) : Option GroupDirective :=
  [GroupDirective.if_, .ifdef, .ifndef, .elif, .elifdef, .elifndef, .else_, .endif].find? (·.name == name)

/-- Refuses anything but comments behind a directive. -/
def requireEmpty (directive : GroupDirective) (body : List Char) (location : Location) : Preprocess Unit := do
  if !(Text.trimSpace (Condition.withoutComments body)).isEmpty then
    refuseAt location (.group (.tail directive.name))

def namedIsDefined (body : List Char) (location : Location) : Preprocess Bool := do
  isDefined (← macroName body location)

/-- The open groups behind a directive that begins a group. A condition is computed only where the text
    around is kept; a name is always checked. -/
def openGroup (directive : GroupDirective) (body : List Char) (location : Location)
    (base : Option Path) (frames : List Frame) : Preprocess (List Frame) := do
  let parent := isActive frames
  let condition ← match directive with
    | .ifdef => do
      let defined ← namedIsDefined body location
      pure (parent && defined)
    | .ifndef => do
      let defined ← namedIsDefined body location
      pure (parent && !defined)
    | _ => if parent then conditionHolds body location base else pure false
  return ⟨parent, condition, condition, false⟩ :: frames

/-- A group behind a directive that begins another branch with a condition. -/
def nextBranch (directive : GroupDirective) (body : List Char) (location : Location)
    (base : Option Path) (frame : Frame) : Preprocess Frame := do
  if directive ≠ .elif ∧ (← standard) = .c11 then
    refuseAt location (.unknownDirective directive.name)
  if frame.sawElse then refuseAt location (.group (.afterElse directive.name))
  if !frame.parentActive || frame.branchTaken then return { frame with active := false }
  let condition ← match directive with
    | .elifdef => namedIsDefined body location
    | .elifndef => do pure !(← namedIsDefined body location)
    | _ => conditionHolds body location base
  return { frame with active := condition, branchTaken := frame.branchTaken || condition }

def lastBranch (body : List Char) (location : Location) (frame : Frame) : Preprocess Frame := do
  requireEmpty .else_ body location
  if frame.sawElse then refuseAt location (.group .duplicateElse)
  return { frame with
    sawElse := true, active := frame.parentActive && !frame.branchTaken, branchTaken := true }

def handleGroup (directive : GroupDirective) (body : List Char) (location : Location)
    (base : Option Path) (frames : List Frame) : Preprocess (List Frame) := do
  match directive with
  | .if_ | .ifdef | .ifndef => openGroup directive body location base frames
  | _ =>
    match frames with
    | [] => refuseAt location (.group (.outside directive.name))
    | frame :: outer =>
      match directive with
      | .else_ => return (← lastBranch body location frame) :: outer
      | .endif => do
        requireEmpty .endif body location
        return outer
      | _ => return (← nextBranch directive body location base frame) :: outer

end CCompiler.Preprocess
