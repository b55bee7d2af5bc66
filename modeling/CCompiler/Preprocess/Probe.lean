import CCompiler.Preprocess.State

/-!
# Headers, pragmas and probes

A header is named in quotes or in angle brackets, or by macros that come to such a name. It is looked for
in a list of directories, of which each counts once.

A few pragmas are checked; all others are passed over.

Before a condition is computed, each of these operators and its operand in parentheses is replaced by one
or zero: whether a header is found, whether a warning or an attribute is known. No builtin, feature or
extension is announced.
-/
namespace CCompiler.Preprocess

open Text

structure Header where
  name : String
  isAngled : Bool
deriving Repr, DecidableEq

def Header.text (h : Header) : String :=
  if h.isAngled then s!"<{h.name}>" else s!"\"{h.name}\""

/-! ## 1. Headers -/

/-- The name between two marks that enclose all of a text but perhaps a last newline. The name is not
    empty and holds neither a newline nor the closing mark. -/
def enclosedName? (first last : Char) : List Char → Option String
  | [] => none
  | c :: rest =>
    let name := rest.takeWhile fun d => d ≠ last && d ≠ '\n'
    let behind := rest.drop name.length
    if c = first && !name.isEmpty && (behind = [last] || behind = [last, '\n']) then
      some (String.ofList name)
    else none

def Header.ofText? (text : List Char) : Option Header :=
  match enclosedName? '"' '"' text with
  | some name => some ⟨name, false⟩
  | none => (enclosedName? '<' '>' text).map fun name => ⟨name, true⟩

/-- The header that tokens name: a string literal, or tokens in angle brackets. -/
def Header.ofTokens? (tokens : List MacroToken) : Option Header :=
  match tokens with
  | [⟨.stringLiteral, text⟩] => some ⟨String.ofList (text.toList.drop 1).dropLast, false⟩
  | ⟨.punctuator, "<"⟩ :: rest =>
    if rest.length ≥ 2 && rest.getLast? = some ⟨.punctuator, ">"⟩ then
      some ⟨String.join (rest.dropLast.map (·.text)), true⟩
    else none
  | _ => none

def headerOf (text : List Char) (location : Location) : Preprocess Header := do
  match Header.ofText? text with
  | some header => return header
  | none =>
    let expanded := trimSpace (← expandText (String.ofList text) location).toList
    match MacroToken.ofText? (String.ofList expanded) with
    | .error error => throw (.lexical error)
    | .ok tokens =>
      match tokens.bind Header.ofTokens? with
      | some header => return header
      | none => refuseAt location .invalidInclude

def sourceDir (file : String) : Option Path :=
  if file = "<input>" ∨ file = "<stdin>" then none else some (Path.ofText file).resolve.parent

/-- The directories in which a header is looked for, in order. -/
def searchDirs (setting : Setting) (isAngled : Bool) (base : Option Path) : List Path :=
  let options := setting.options
  let world := setting.world
  let ofEnvironment (dirs : List String) := if options.noStandardIncludes then [] else dirs
  let own := match base with
    | some dir => if isAngled then [] else dir :: options.quoteDirs.map Path.ofText
    | none => []
  own ++ (options.includeDirs ++ ofEnvironment (pathList world.cpath) ++ options.systemDirs
    ++ ofEnvironment world.hostDirs ++ ofEnvironment (pathList world.cIncludePath)
    ++ options.afterDirs).map Path.ofText

/-- The directories behind the first that is a given one, or all if none is. -/
def dirsBehind (dir : Path) (dirs : List Path) : List Path :=
  match dirs.dropWhile (·.resolve ≠ dir) with
  | [] => dirs
  | _ :: behind => behind

/-- Directories after the first of each kept, without those already seen. -/
def distinctDirs (seen : List Path) : List Path → List Path
  | [] => []
  | dir :: rest =>
    let dir := dir.resolve
    if seen.contains dir then distinctDirs seen rest else dir :: distinctDirs (dir :: seen) rest

/-- The resolved directories that are searched for a header. A search for the next header goes on behind
    the directory of the file that asks. -/
def searchedDirs (setting : Setting) (header : Header) (base next : Option Path) : List Path :=
  let dirs := searchDirs setting header.isAngled base
  match next with
  | none => distinctDirs [] dirs
  | some dir => distinctDirs [dir.resolve] (dirsBehind dir.resolve dirs)

def findHeader? (files : Files) (header : Header) (dirs : List Path) : Option Path :=
  (dirs.map fun dir => (dir.join (Path.ofText header.name))).find? files.hasFile |>.map Path.resolve

/-! ## 2. Pragmas -/

def parenthesised? (cs : List Char) : Option (List Char) :=
  if cs.head? = some '(' ∧ cs.getLast? = some ')' then some (trimSpace (cs.drop 1).dropLast) else none

/-- Whether the rest of a text closes a string literal and ends with it. -/
def closesString : List Char → Bool
  | [] => false
  | ['"'] => true
  | '"' :: _ => false
  | '\\' :: c :: rest => c ≠ '\n' && closesString rest
  | c :: rest => c ≠ '\\' && c ≠ '\n' && closesString rest

def isStringLiteral : List Char → Bool
  | '"' :: rest => closesString rest
  | _ => false

/-- The text behind the names with dots between them at the front of a text, which must begin with
    one. -/
def behindModuleName? (fuel : Nat) (cs : List Char) : Option (List Char) :=
  match nameAt? cs with
  | none => none
  | some (_, rest) =>
    match fuel, rest with
    | fuel + 1, '.' :: more => some ((behindModuleName? fuel more).getD rest)
    | _, _ => some rest

/-- The option at the front of a text: a name, what stands in its parentheses, and the length of all. -/
def optionAt? (cs : List Char) : Option (List Char × List Char × Nat) :=
  match nameAt? cs with
  | none => none
  | some (name, behind) =>
    match trimFront behind with
    | '(' :: rest =>
      let operand := rest.takeWhile fun c => c ≠ '(' && c ≠ ')'
      match rest.drop operand.length with
      | ')' :: behind => some (name, operand, cs.length - behind.length)
      | _ => none
    | _ => none

/-- The options in a text with what stands in their parentheses, where the first characters are
    skipped. -/
def optionsFrom : Nat → List Char → List (List Char × List Char)
  | _, [] => []
  | skip + 1, _ :: rest => optionsFrom skip rest
  | 0, c :: rest =>
    match optionAt? (c :: rest) with
    | some (name, operand, length) => (name, operand) :: optionsFrom (length - 1) rest
    | none => optionsFrom 0 rest

def switchSubjects : List String := ["FENV_ACCESS", "CX_LIMITED_RANGE", "FP_CONTRACT"]

def switchValues : List String := ["ON", "OFF", "DEFAULT"]

def roundingModes : List String :=
  ["FE_DYNAMIC", "FE_DOWNWARD", "FE_TONEAREST", "FE_TOWARDZERO", "FE_UPWARD"]

def standardFault? (body : List Char) : Option PragmaFault :=
  match (words body).map String.ofList with
  | _ :: subject :: values =>
    let value := " ".intercalate values
    if subject = "FENV_ROUND" then
      if roundingModes.contains value then none else some (.stdc subject value)
    else if switchSubjects.contains subject && !switchValues.contains value then
      some (.stdc subject value)
    else none
  | _ => none

def visibilityFault? (tail : List Char) : Option PragmaFault :=
  let tail := trimSpace tail
  if tail = "pop".toList then none
  else if !"push".toList.isPrefixOf tail then some .visibility
  else
    match parenthesised? (trimSpace (tail.drop 4)) with
    | some operand => if isName operand then none else some .visibility
    | none => some .visibility

def environmentFault? (tail : List Char) : Option PragmaFault :=
  match parenthesised? (trimSpace tail) with
  | some operand =>
    let lowered := String.ofList (operand.map Char.toLower)
    if lowered = "on" || lowered = "off" then none else some .fenvAccess
  | none => some .fenvAccess

def diagnosticActions : List String := ["error", "warning", "ignored", "fatal", "push", "pop"]

def diagnosticFault? (tail : List Char) : Option PragmaFault :=
  let (action, remainder) := firstWord tail
  let action := String.ofList action
  let remainder := trimEnd remainder
  if !diagnosticActions.contains action then some .diagnostic
  else if action = "push" || action = "pop" then
    if remainder.isEmpty then none else some .diagnostic
  else if isStringLiteral remainder && "\"-W".toList.isPrefixOf remainder then none
  else some .diagnostic

def moduleFault? (tail : List Char) : Option PragmaFault :=
  let (action, remainder) := firstWord tail
  let action := String.ofList action
  let remainder := trimEnd remainder
  if action = "end" then if remainder.isEmpty then none else some .module
  else if action = "import" || action = "begin" then
    match behindModuleName? remainder.length remainder with
    | some behind => if (trimSpace behind).isEmpty then none else some .module
    | none => some .module
  else none

def floatingPointFault? (tail : List Char) : Option PragmaFault :=
  let isSwitch (operand : List Char) : Bool :=
    let operand := String.ofList (trimSpace operand)
    operand = "on" || operand = "off"
  let isChecked (name : List Char) : Bool :=
    String.ofList name = "reassociate" || String.ofList name = "reciprocal"
  if (optionsFrom 0 (trimSpace tail)).any fun (name, operand) => isChecked name && !isSwitch operand then
    some .floatingPoint
  else none

def behindStart? (beginning : String) (cs : List Char) : Option (List Char) :=
  if beginning.toList.isPrefixOf cs then some (cs.drop beginning.length) else none

def pragmaFault? (text : List Char) : Option PragmaFault :=
  let body := trimSpace (Condition.withoutComments text)
  if (behindStart? "STDC " body).isSome then standardFault? body
  else
    match behindStart? "GCC visibility" body, behindStart? "fenv_access" body with
    | some tail, _ => visibilityFault? tail
    | none, some tail => environmentFault? tail
    | none, none =>
      ((behindStart? "clang diagnostic" body).or (behindStart? "GCC diagnostic" body)).bind diagnosticFault?
        |>.or ((behindStart? "clang module" body).bind moduleFault?)
        |>.or ((behindStart? "clang fp" body).bind floatingPointFault?)

/-! ## 3. Probes -/

def knownWarnings : List String := ["-Wall", "-Wextra", "-Wpedantic", "-Wdeprecated-declarations"]

def knownAttributes : List String :=
  ["deprecated", "fallthrough", "maybe_unused", "nodiscard", "noreturn", "reproducible", "unsequenced",
   "gnu::unused"]

/-- The parts of a text between double colons, where a part has begun with some characters, the last of
    them first. -/
def scopesFrom (begun : List Char) : List Char → List (List Char)
  | [] => [begun.reverse]
  | ':' :: ':' :: rest => begun.reverse :: scopesFrom [] rest
  | c :: rest => scopesFrom (c :: begun) rest

def isScopedName (cs : List Char) : Bool := (scopesFrom [] cs).all isPlainName

def truth (b : Bool) : List Char := if b then ['1'] else ['0']

/-- What an operator about features, warnings or attributes says of its operand. -/
def answerKnown (probe : Probe) (operand : List Char) : Except Cause (List Char) :=
  match probe with
  | .warning =>
    if isStringLiteral operand then
      .ok (truth (knownWarnings.contains (String.ofList (operand.drop 1).dropLast)))
    else .error (.probe probe .form)
  | .cAttribute =>
    if isScopedName operand then .ok (truth (knownAttributes.contains (String.ofList operand)))
    else .error (.probe probe .form)
  | _ => if isPlainName operand then .ok ['0'] else .error (.probe probe .form)

/-- Whether a header is found, asked from a directory. -/
def answerHeader (probe : Probe) (base : Option Path) (location : Location) (operand : List Char) :
    Preprocess (List Char) := do
  let header ← tryCatch (headerOf operand location) fun
    | .refused _ => refuseAt location (.probe probe .form)
    | failure => throw failure
  let setting ← read
  let next := if probe = .includeNext then base else none
  let found := findHeader? setting.world.files header (searchedDirs setting header base next)
  return truth found.isSome

/-- The text up to the parenthesis that closes some open ones, none if there is no such parenthesis. -/
def untilClosed? : Nat → List Char → Option (List Char)
  | _, [] => none
  | depth, c :: rest =>
    if c = ')' then
      match depth with
      | 0 => some []
      | depth + 1 => (untilClosed? depth rest).map (c :: ·)
    else (untilClosed? (if c = '(' then depth + 1 else depth) rest).map (c :: ·)

def joinsName (c : Char) : Bool := isAlphanumeric c || c = '_'

/-- What an operator finds behind its word: the operand without white space around it, and how many
    characters that took. -/
def operandOf (behind : List Char) : Except ProbeFault (List Char × Nat) :=
  match trimFront behind with
  | '(' :: rest =>
    match untilClosed? 0 rest with
    | none => .error .unclosed
    | some inner =>
      let operand := trimSpace inner
      if operand.isEmpty then .error .missing
      else .ok (operand, behind.length - rest.length + inner.length + 1)
  | _ => .error .noParenthesis

/-- The text with every use of an operator replaced, where a character stands before all and the first
    characters are skipped. -/
def replaceProbeFrom (probe : Probe) (location : Location) (answer : List Char → Preprocess (List Char))
    (before : Option Char) : Nat → List Char → Preprocess (List Char)
  | _, [] => return []
  | skip + 1, c :: rest => replaceProbeFrom probe location answer (some c) skip rest
  | 0, c :: rest => do
    let marker := probe.marker.toList
    let behind := (c :: rest).drop marker.length
    if marker.isPrefixOf (c :: rest) && !before.any joinsName && !behind.head?.any joinsName then
      match operandOf behind with
      | .error fault => refuseAt location (.probe probe fault)
      | .ok (operand, length) =>
        let replaced ← answer operand
        let tail ← replaceProbeFrom probe location answer (some c) (marker.length + length - 1) rest
        return replaced ++ tail
    else return c :: (← replaceProbeFrom probe location answer (some c) 0 rest)

def replaceProbe (probe : Probe) (location : Location) (answer : List Char → Preprocess (List Char))
    (text : List Char) : Preprocess (List Char) :=
  replaceProbeFrom probe location answer none 0 text

def replaceHeaderProbes (base : Option Path) (location : Location) (text : List Char) : Preprocess (List Char) :=
  [Probe.includeNext, .include].foldlM (fun text probe =>
    replaceProbe probe location (answerHeader probe base location) text) text

/-- The text with the operators about features, warnings and attributes replaced. -/
def replaceFeatureProbes (location : Location) (text : List Char) : Preprocess (List Char) :=
  [Probe.builtin, .attribute, .feature, .extension, .warning, .cAttribute].foldlM (fun text probe =>
    replaceProbe probe location (fun operand =>
      match answerKnown probe operand with
      | .ok answer => return answer
      | .error cause => refuseAt location cause) text) text

end CCompiler.Preprocess
