import CCompiler.Preprocess.Cause
import CCompiler.Syntax.Basic
import CCompiler.World.Files

/-!
# Macros

A macro replaces its name by tokens. Between them tokens are written with one space each.

Macros are defined by directives and by options. Both have a name, perhaps parameters in parentheses, and
a replacement.

The name of a macro is replaced, and the replacement is looked through again while that name is disabled.
So a macro never expands inside its own replacement, and the number of macros that are still enabled
bounds how deep replacements stand in one another.

Arguments are expanded before they are put into a replacement, except next to `#` and `##`.
-/
namespace CCompiler

/-- A token of a macro: its kind and spelling, wherever it stands. -/
structure MacroToken where
  kind : TokenKind
  text : String
deriving Repr, DecidableEq

/-- A macro. One without parameters is replaced wherever its name stands, one with parameters where
    arguments follow. -/
structure Macro where
  name : String
  replacement : List MacroToken
  params : Option (List String) := none
  isVariadic : Bool := false
deriving Repr, DecidableEq

namespace MacroToken

def empty : MacroToken := ⟨.punctuator, ""⟩

def comma : MacroToken := ⟨.punctuator, ","⟩

/-! ## 1. Tokens and tables -/

def ofText? (text : String) : Except LexError (Option (List MacroToken)) :=
  match Token.scan (.preprocessing false) text with
  | .ok tokens => .ok (some ((tokens.filter (!·.isEnd)).map fun t => ⟨t.kind, t.lexeme⟩))
  | .error (.at ..) => .ok none
  | .error (.noValue digits) => .error (.noValue digits)

def render (tokens : List MacroToken) : String :=
  " ".intercalate ((tokens.map (·.text)).filter (· ≠ ""))

def escape (text : String) : String :=
  String.ofList (text.toList.flatMap fun c => if c == '\\' || c == '"' then ['\\', c] else [c])

def quote (text : String) : String := "\"" ++ escape text ++ "\""

def stringize (tokens : List MacroToken) : String := quote (render tokens)

/-- The tokens of a replacement; a text with a lexical error is one token as a whole. -/
def ofReplacement (text : String) : Except LexError (List MacroToken) := do
  return (← ofText? text).getD [⟨.identifier, text⟩]

end MacroToken

/-- The macros that are defined. A name stands for its first entry. -/
abbrev MacroTable := List Macro

namespace MacroTable

def get? (table : MacroTable) (name : String) : Option Macro := table.find? (·.name == name)

def defines (table : MacroTable) (name : String) : Bool := (table.get? name).isSome

/-- The table with a macro under its name, in the place of the one before. -/
def put (m : Macro) : MacroTable → MacroTable
  | [] => [m]
  | k :: rest => if k.name == m.name then m :: rest else k :: put m rest

def erase (table : MacroTable) (name : String) : MacroTable := table.filter (·.name != name)

end MacroTable

/-- A macro as a line of a listing: its head, an equals sign and its replacement. -/
def Macro.line (m : Macro) : String :=
  let head := match m.params with
    | none => m.name
    | some params =>
      m.name ++ "(" ++ ",".intercalate (params ++ if m.isVariadic then ["..."] else []) ++ ")"
  head ++ "=" ++ MacroToken.render m.replacement

def MacroTable.listing (table : MacroTable) : List Macro :=
  table.mergeSort fun a b => a.name ≤ b.name

end CCompiler

namespace CCompiler.Macro

open Text

/-- The parameters among items: names without repetition, and last perhaps three dots. -/
def paramsOf? (seen : List String) : List (List Char) → Option (List String × Bool)
  | [] => some (seen, false)
  | [item] =>
    if item == "...".toList then some (seen, true)
    else if isName item && !seen.contains (String.ofList item) then
      some (seen ++ [String.ofList item], false)
    else none
  | item :: rest =>
    if isName item && !seen.contains (String.ofList item) then
      paramsOf? (seen ++ [String.ofList item]) rest
    else none

def parameters? (text : List Char) : Option (List String × Bool) :=
  if text.isEmpty then some ([], false) else paramsOf? [] ((splitOn ',' text).map trimSpace)

/-! ## 2. Definitions -/

def ofDirective? (body : List Char) : Except LexError (Option Macro) := do
  match nameAt? (trimFront body) with
  | none => return none
  | some (name, '(' :: tail) =>
    match cutAt? [')'] tail with
    | none => return none
    | some (params, replacement) =>
      match parameters? (trimSpace params) with
      | none => return none
      | some (params, isVariadic) =>
        let tokens ← MacroToken.ofReplacement (String.ofList (trimSpace replacement))
        return some ⟨String.ofList name, tokens, some params, isVariadic⟩
  | some (name, tail) =>
    let tokens ← MacroToken.ofReplacement (String.ofList (trimSpace tail))
    return some { name := String.ofList name, replacement := tokens }

/-- What stands before the last closing parenthesis and what stands behind it. -/
def cutAtLastParen? (cs : List Char) : Option (List Char × List Char) :=
  let behind := cs.reverse.takeWhile (· ≠ ')')
  match cs.reverse.dropWhile (· ≠ ')') with
  | [] => none
  | _ :: before => some (before.reverse, behind.reverse)

/-- What stands before the first opening parenthesis, between it and the last closing one, and behind
    that. -/
def headParts? (head : List Char) : Option (List Char × List Char × List Char) :=
  match cutAt? ['('] head with
  | none => none
  | some (name, rest) =>
    match cutAtLastParen? rest with
    | none => none
    | some (params, behind) => some (name, params, behind)

/-- The head of an option with parameters: a name, the parameters, and whether there may be more
    arguments. -/
def optionHead? (head : List Char) : Option (String × List String × Bool) :=
  match headParts? (trimSpace head) with
  | none => none
  | some (name, params, behind) =>
    if !(trimSpace behind).isEmpty || !isName (trimSpace name) then none
    else (parameters? params).map fun (params, isVariadic) =>
      (String.ofList (trimSpace name), params, isVariadic)

/-- The head of an option and its replacement, which is `1` if there is none. -/
def optionParts (text : List Char) : List Char × List Char :=
  (cutAt? ['='] text).getD (text, ['1'])

def ofOption? (text : String) : Except LexError (Option Macro) := do
  let (head, replacement) := optionParts text.toList
  let tokens := MacroToken.ofReplacement (String.ofList (trimSpace replacement))
  match optionHead? head with
  | some (name, params, isVariadic) => return some ⟨name, ← tokens, some params, isVariadic⟩
  | none =>
    if isName (trimSpace head) then
      return some { name := String.ofList (trimSpace head), replacement := ← tokens }
    else return none

def optionName (text : String) : String :=
  let head := trimSpace (optionParts text.toList).1
  match headParts? head with
  | some (name, _, _) => String.ofList (trimSpace name)
  | none => String.ofList head

open Preprocess (Cause Failure Location)

/-! ## 3. Pasting tokens

In a replacement, `##` makes one token of its two neighbours.
-/

/-- The token of two spellings put together; an empty one leaves the other alone. A comma before nothing
    vanishes in the GNU dialect. -/
def pastePair (standard : Standard) (location : Location) (left right : MacroToken) :
    Except Failure (Option MacroToken) :=
  if left.text = "" then .ok (if right.text = "" then none else some right)
  else if right.text = "" then
    .ok (if standard = .gnu11 ∧ left.text = "," then none else some left)
  else
    match MacroToken.ofText? (left.text ++ right.text) with
    | .ok (some [token]) => .ok (some token)
    | .ok _ => .error (.at .invalidPasteResult location)
    | .error error => .error (.lexical error)

/-- Pastes from a token on; the tokens before it stand in `done`, the last of them first. The token that
    comes of a paste is looked at again. -/
def pasteFrom (standard : Standard) (location : Location) (done : List MacroToken) :
    List MacroToken → Except Failure (List MacroToken)
  | [] => .ok done.reverse
  | token :: rest =>
    if token.text ≠ "##" then pasteFrom standard location (token :: done) rest
    else
      match done, rest with
      | left :: before, right :: after =>
        match pastePair standard location left right with
        | .error failure => .error failure
        | .ok none => pasteFrom standard location before after
        | .ok (some pasted) => pasteFrom standard location before (pasted :: after)
      | _, _ => .error (.at .invalidPaste location)
termination_by tokens => tokens.length

/-- The tokens after all pastes; those for empty arguments vanish. -/
def paste (standard : Standard) (location : Location) (tokens : List MacroToken) : Except Failure (List MacroToken) :=
  (pasteFrom standard location [] tokens).map fun ts => ts.filter (·.text ≠ "")

/-! ## 4. Arguments -/

/-- The surroundings of an expansion. The dynamic names stand for the place of the expansion and for a
    counter. -/
structure Context where
  macros : MacroTable
  standard : Standard
  location : Location
  baseFile : String
  dynamic : List String

/-- An expansion may fail and counts how often the counter was asked. -/
abbrev Expand := ExceptT Failure (StateM Nat)

def dynamicNames : List String :=
  ["__FILE__", "__FILE_NAME__", "__BASE_FILE__", "__LINE__", "__INCLUDE_LEVEL__", "__COUNTER__"]

def resolve (ctx : Context) (name : String) : Expand MacroToken :=
  let place := ctx.location
  match name with
  | "__LINE__" => return ⟨.intConst, toString place.line⟩
  | "__BASE_FILE__" => return ⟨.stringLiteral, MacroToken.quote ctx.baseFile⟩
  | "__INCLUDE_LEVEL__" => return ⟨.intConst, toString place.level⟩
  | "__COUNTER__" => do
    let count ← modifyGet fun n => (n, n + 1)
    return ⟨.intConst, toString count⟩
  | "__FILE_NAME__" => return ⟨.stringLiteral, MacroToken.quote (Path.ofText place.file).name⟩
  | _ => return ⟨.stringLiteral, MacroToken.quote place.file⟩

/-- The arguments between parentheses: the first, those behind commas, and the tokens behind the closing
    parenthesis. Some parentheses may be open inside the first argument. -/
def splitArguments (depth : Nat) :
    List MacroToken → Option (List MacroToken × List (List MacroToken) × List MacroToken)
  | [] => none
  | t :: rest =>
    let put := Option.map fun (first, more, behind) => (t :: first, more, behind)
    if t.text = "(" then put (splitArguments (depth + 1) rest)
    else if t.text = ")" then
      if depth = 0 then some ([], [], rest) else put (splitArguments (depth - 1) rest)
    else if t.text = "," ∧ depth = 0 then
      (splitArguments depth rest).map fun (first, more, behind) => ([], first :: more, behind)
    else put (splitArguments depth rest)

/-- What stands behind the name of a macro with parameters. -/
inductive Invocation where
  | absent
  | unterminated
  | call (args : List (List MacroToken)) (behind : List MacroToken)
deriving Repr, DecidableEq

/-- The invocation at the front of tokens. Parentheses with nothing between them hold no argument. -/
def invocation : List MacroToken → Invocation
  | [] => .absent
  | t :: rest =>
    if t.text ≠ "(" then .absent
    else
      match splitArguments 0 rest with
      | none => .unterminated
      | some ([], [], behind) => .call [] behind
      | some (first, more, behind) => .call (first :: more) behind

def argsSize : List (List MacroToken) → Nat
  | [] => 0
  | arg :: rest => arg.length + 1 + argsSize rest

/-- The arguments, the commas and the closing parenthesis are all that was read. -/
theorem splitArguments_size {depth : Nat} {tokens first behind : List MacroToken}
    {more : List (List MacroToken)} (h : splitArguments depth tokens = some (first, more, behind)) :
    argsSize (first :: more) + behind.length = tokens.length := by
  induction tokens generalizing depth first more with
  | nil => simp [splitArguments] at h
  | cons t rest ih =>
    have put {d : Nat} {f : List MacroToken}
        (hm : (splitArguments d rest).map (fun (a, b, c) => (t :: a, b, c)) = some (f, more, behind)) :
        argsSize (f :: more) + behind.length = (t :: rest).length := by
      obtain ⟨⟨a, b, c⟩, hs, heq⟩ := Option.map_eq_some_iff.mp hm
      simp only [Prod.mk.injEq] at heq
      obtain ⟨rfl, rfl, rfl⟩ := heq
      have := ih hs
      simp only [argsSize, List.length_cons] at *
      omega
    rw [splitArguments] at h
    split at h
    · exact put h
    · split at h
      · split at h
        · simp only [Option.some.injEq, Prod.mk.injEq] at h
          obtain ⟨rfl, rfl, rfl⟩ := h
          simp [argsSize]
          omega
        · exact put h
      · split at h
        · obtain ⟨⟨a, b, c⟩, hs, heq⟩ := Option.map_eq_some_iff.mp h
          simp only [Prod.mk.injEq] at heq
          obtain ⟨rfl, rfl, rfl⟩ := heq
          have := ih hs
          simp only [argsSize, List.length_cons, List.length_nil] at *
          omega
        · exact put h

/-- The arguments of an invocation and the tokens behind it are fewer than its tokens. -/
theorem invocation_size {tokens behind : List MacroToken} {args : List (List MacroToken)}
    (h : invocation tokens = .call args behind) :
    argsSize args + behind.length < tokens.length := by
  cases tokens with
  | nil => simp [invocation] at h
  | cons t rest =>
    rw [invocation] at h
    split at h
    · simp at h
    · split at h
      · simp at h
      · rename_i hs
        have := splitArguments_size hs
        simp only [Invocation.call.injEq] at h
        obtain ⟨rfl, rfl⟩ := h
        simp only [argsSize, List.length_nil, List.length_cons] at *
        omega
      · rename_i hs
        have := splitArguments_size hs
        simp only [Invocation.call.injEq] at h
        obtain ⟨rfl, rfl⟩ := h
        simp only [List.length_cons]
        omega

/-! ## 5. Substitution -/

structure Argument where
  raw : List MacroToken
  expanded : List MacroToken

def joinArguments : List (List MacroToken) → List MacroToken
  | [] => []
  | [arg] => arg
  | arg :: rest => arg ++ MacroToken.comma :: joinArguments rest

/-- What the parameters of an invocation stand for. -/
structure Binding where
  named : List (String × Argument)
  variadic : Option Argument

def Binding.of (m : Macro) (params : List String) (args : List Argument) : Binding where
  named := params.zip args
  variadic :=
    if m.isVariadic then
      let rest := args.drop params.length
      some ⟨joinArguments (rest.map (·.raw)), joinArguments (rest.map (·.expanded))⟩
    else none

def Binding.get? (b : Binding) (name : String) : Option Argument :=
  match b.named.lookup name with
  | some argument => some argument
  | none => if name = "__VA_ARGS__" then b.variadic else none

/-- The tokens for one token of a replacement, which may stand next to `##`. -/
def substituteOne (b : Binding) (isPasted : Bool) (t : MacroToken) : List MacroToken :=
  match b.get? t.text with
  | none => [t]
  | some argument =>
    let tokens := if isPasted then argument.raw else argument.expanded
    if isPasted && tokens.isEmpty then [MacroToken.empty] else tokens

/-- A replacement with arguments in place of parameters, from a token on, behind `##` or not. -/
def substituteFrom (b : Binding) (behindPaste : Bool) : List MacroToken → List MacroToken
  | [] => []
  | [t] => substituteOne b behindPaste t
  | t :: next :: rest =>
    match if t.text = "#" then b.get? next.text else none with
    | some argument => ⟨.stringLiteral, MacroToken.stringize argument.raw⟩ :: substituteFrom b false rest
    | none =>
      substituteOne b (behindPaste || next.text == "##") t
        ++ substituteFrom b (t.text == "##") (next :: rest)

/-- The replacement of a macro with arguments in place of parameters, after all pastes. -/
def replace (ctx : Context) (m : Macro) (params : List String) (args : List Argument) :
    Except Failure (List MacroToken) :=
  paste ctx.standard ctx.location (substituteFrom (.of m params args) false m.replacement)

/-- Whether a macro can be called with a number of arguments. -/
def checkCount (m : Macro) (params : List String) (count : Nat) : Except Cause Unit :=
  if m.isVariadic then
    if count < params.length then .error .insufficientArguments else .ok ()
  else if count ≠ params.length then .error .argumentCount
  else .ok ()

/-! ## 6. Expansion -/

def enabled (macros : MacroTable) (disabled : List String) : Nat :=
  (macros.filter fun m => !disabled.contains m.name).length

/-- Disabling the macro of a name leaves fewer macros enabled. -/
theorem enabled_lt {macros : MacroTable} {disabled : List String} {name : String} {m : Macro}
    (hm : macros.get? name = some m) (hd : disabled.contains m.name = false) :
    enabled macros (m.name :: disabled) < enabled macros disabled := by
  have hmem : m ∈ macros := List.mem_of_find?_eq_some hm
  have hsub : (macros.filter fun k => !(m.name :: disabled).contains k.name)
      = (macros.filter fun k => !disabled.contains k.name).filter fun k => k.name != m.name := by
    rw [List.filter_filter]
    congr 1
    funext k
    simp only [List.contains_cons, Bool.not_or, bne]
  rw [enabled, enabled, hsub]
  refine Nat.lt_of_le_of_ne (List.length_filter_le _ _) fun heq => ?_
  have hall := (List.length_filter_eq_length_iff).mp heq
  have := hall m (List.mem_filter.mpr ⟨hmem, by rw [hd]; rfl⟩)
  simp at this

def refuse {α : Type} (ctx : Context) (cause : Cause) : Expand α :=
  throw (Failure.at cause ctx.location)

mutual

/-- The tokens after expansion, where some names are disabled. -/
def expandTokens (ctx : Context) (disabled : List String) (tokens : List MacroToken) : Expand (List MacroToken) :=
  match tokens with
  | [] => return []
  | t :: rest => do
    if t.kind ≠ .identifier then return t :: (← expandTokens ctx disabled rest)
    else if ctx.dynamic.contains t.text && ctx.macros.defines t.text then
      let token ← resolve ctx t.text
      return token :: (← expandTokens ctx disabled rest)
    else
      match hm : ctx.macros.get? t.text with
      | none => return t :: (← expandTokens ctx disabled rest)
      | some m =>
        if hd : disabled.contains m.name then return t :: (← expandTokens ctx disabled rest)
        else
          have := enabled_lt hm (by simpa using hd)
          match m.params with
          | none =>
            let replaced ← expandTokens ctx (m.name :: disabled) m.replacement
            return replaced ++ (← expandTokens ctx disabled rest)
          | some params =>
            match hi : invocation rest with
            | .absent => return t :: (← expandTokens ctx disabled rest)
            | .unterminated => refuse ctx .unterminatedInvocation
            | .call args behind =>
              match checkCount m params args.length with
              | .error cause => refuse ctx cause
              | .ok () =>
                have := invocation_size hi
                let arguments ← expandArguments ctx disabled args
                let replaced ← liftM (replace ctx m params arguments)
                let expanded ← expandTokens ctx (m.name :: disabled) replaced
                return expanded ++ (← expandTokens ctx disabled behind)
termination_by (enabled ctx.macros disabled, tokens.length)
decreasing_by
  all_goals first
    | exact .left _ _ (by assumption)
    | exact .right _ (by simp only [List.length_cons]; omega)

def expandArguments (ctx : Context) (disabled : List String) (args : List (List MacroToken)) :
    Expand (List Argument) :=
  match args with
  | [] => return []
  | arg :: rest => do
    let expanded ← expandTokens ctx disabled arg
    return ⟨arg, expanded⟩ :: (← expandArguments ctx disabled rest)
termination_by (enabled ctx.macros disabled, argsSize args)
decreasing_by
  all_goals
    refine .right _ ?_
    simp only [argsSize]
    omega

end

def expand (ctx : Context) (tokens : List MacroToken) : Expand (List MacroToken) :=
  expandTokens ctx [] tokens

/-- The text after expansion; a text with a lexical error is left alone. -/
def expandText (ctx : Context) (text : String) : Expand String := do
  match MacroToken.ofText? text with
  | .error error => throw (.lexical error)
  | .ok none => return text
  | .ok (some tokens) => return MacroToken.render (← expand ctx tokens)

end CCompiler.Macro
