import CCompiler.Text.Basic

/-!
# Arguments of a command

A command has options, with a dash or two in front, and positional arguments. An option may be shortened
as long as only one option begins so. Behind `--` all arguments are positional.

First every argument is read on its own (section 2). Then options and positional arguments are taken in
turn, each option with its value (sections 3 and 4). What fits nowhere is left over.
-/
namespace CCompiler.Arguments

open Text (isDigit)

/-! ## 1. What a command accepts -/

/-- What an option takes: nothing, or a value that is any text, one of some texts, or an integer. The
    option for help ends the reading. -/
inductive Takes where
  | help
  | nothing
  | any
  | oneOf (texts : List String)
  | integer
deriving Repr, DecidableEq, Inhabited

def Takes.isValue : Takes → Bool
  | .help | .nothing => false
  | .any | .oneOf _ | .integer => true

structure Spec where
  names : List String
  key : String
  takes : Takes
deriving Repr, DecidableEq, Inhabited

/-- A positional argument: one text, or one with all that follows. -/
inductive Positional where
  | single (key : String)
  | rest (key : String)
deriving Repr, DecidableEq, Inhabited

def Positional.key : Positional → String
  | .single key | .rest key => key

structure Usage where
  options : List Spec
  positionals : List Positional
deriving Repr, Inhabited

def helpSpec : Spec := ⟨["-h", "--help"], "help", .help⟩

namespace Usage

/-- All options of a command by their spellings, in order. -/
def named (u : Usage) : List (String × Spec) :=
  (helpSpec :: u.options).flatMap fun o => o.names.map fun name => (name, o)

def option? (u : Usage) (name : String) : Option Spec := u.named.lookup name

end Usage

inductive Fault where
  | ambiguous (argument : String)
  | needsValue (name : String)
  | takesNoValue (name value : String)
  | badChoice (name value : String)
  | notInteger (name value : String)
  | missing (key : String)
  | unknown (arguments : List String)
deriving Repr, DecidableEq

def Fault.message : Fault → String
  | .ambiguous argument => s!"ambiguous option: {argument}"
  | .needsValue name => s!"argument {name}: expected one argument"
  | .takesNoValue name value => s!"argument {name}: ignored explicit argument {value}"
  | .badChoice name value => s!"argument {name}: invalid choice: {value}"
  | .notInteger name value => s!"argument {name}: invalid int value: {value}"
  | .missing key => s!"the following arguments are required: {key}"
  | .unknown arguments => "unrecognized arguments: " ++ " ".intercalate arguments

inductive Stop where
  | help
  | refused (fault : Fault)
deriving Repr, DecidableEq

/-! ## 2. One argument on its own -/

/-- An option in an argument, with the value that stands in the same argument and whether an equals sign
    is between them. -/
structure Found where
  option : Spec
  name : String
  value : Option (Bool × List Char) := none
deriving Repr, DecidableEq, Inhabited

/-- An argument: positional, the separator, or an option, known or not. -/
inductive Word where
  | argument (text : String)
  | separator
  | option (text : String) (found : Option Found)
deriving Repr, DecidableEq, Inhabited

def Word.text : Word → String
  | .argument text | .option text _ => text
  | .separator => "--"

def Word.isOption : Word → Bool
  | .option .. => true
  | _ => false

/-- What stands before and behind the first equals sign. -/
def splitSign (cs : List Char) : Option (List Char × List Char) :=
  match cs.dropWhile (· ≠ '=') with
  | [] => none
  | _ :: behind => some (cs.takeWhile (· ≠ '='), behind)

def isDigits (cs : List Char) : Bool := !cs.isEmpty && cs.all isDigit

/-- Whether an argument is a negative number, with or without a point; a newline may end it. -/
def isNegative (cs : List Char) : Bool :=
  let digits := if cs.getLast? = some '\n' then cs.dropLast else cs
  match digits with
  | '-' :: digits =>
    let whole := digits.takeWhile isDigit
    match digits.drop whole.length with
    | [] => !whole.isEmpty
    | '.' :: fraction => isDigits fraction
    | _ => false
  | _ => false

/-- The options that an argument may shorten or, with one dash, begin with. -/
def candidates (u : Usage) (cs : List Char) : List Found :=
  match cs with
  | '-' :: '-' :: _ =>
    let (front, value) := match splitSign cs with
      | some (front, behind) => (front, some (true, behind))
      | none => (cs, none)
    (u.named.filter fun (name, _) => front.isPrefixOf name.toList).map fun (name, o) => ⟨o, name, value⟩
  | _ =>
    u.named.filterMap fun (name, o) =>
      if name.toList = cs.take 2 then some ⟨o, name, some (false, cs.drop 2)⟩
      else if cs.isPrefixOf name.toList then some ⟨o, name, none⟩
      else none

def readWord (u : Usage) (text : String) : Except Stop Word :=
  let cs := text.toList
  if cs.head? ≠ some '-' then .ok (.argument text)
  else match u.option? text with
    | some o => .ok (.option text (some ⟨o, text, none⟩))
    | none =>
      if cs.length = 1 then .ok (.argument text)
      else
        let exact := do
          let (front, behind) ← splitSign cs
          let o ← u.option? (String.ofList front)
          return (⟨o, String.ofList front, some (true, behind)⟩ : Found)
        match exact with
        | some found => .ok (.option text (some found))
        | none =>
          match candidates u cs with
          | [found] => .ok (.option text (some found))
          | _ :: _ :: _ => .error (.refused (.ambiguous text))
          | [] =>
            if isNegative cs || cs.contains ' ' then .ok (.argument text) else .ok (.option text none)

def readWords (u : Usage) : List String → Except Stop (List Word)
  | [] => .ok []
  | "--" :: rest => .ok (.separator :: rest.map .argument)
  | text :: rest => do return (← readWord u text) :: (← readWords u rest)

/-! ## 3. Positional arguments -/

def separators (words : List Word) : Nat := (words.takeWhile (· == .separator)).length

/-- How many of the arguments at the front a positional argument takes. -/
def takenBy (p : Positional) (words : List Word) : Option Nat :=
  let front := separators words
  match words.drop front with
  | .argument _ :: rest =>
    match p with
    | .single _ => some (front + 1 + separators rest)
    | .rest _ => some words.length
  | _ => none

/-- How many of the arguments at the front each of some positional arguments takes. -/
def takenByAll : List Positional → List Word → Option (List Nat)
  | [], _ => some []
  | p :: ps, words => do
    let n ← takenBy p words
    return n :: (← takenByAll ps (words.drop n))

/-- The counts for as many positional arguments as can be filled from the front. -/
def fill (ps : List Positional) (words : List Word) : List Nat :=
  ((List.range ps.length).reverse.findSome? fun k => takenByAll (ps.take (k + 1)) words).getD []

/-- The texts of a positional argument. The first separator among those of a single one does not
    count. -/
def textsOf (p : Positional) (words : List Word) : List String :=
  match p with
  | .single _ => (words.map Word.text).erase "--"
  | .rest _ => words.map Word.text

/-! ## 4. Options and positional arguments in turn -/

/-- What has been read: options with their values and positional arguments with their texts, in order,
    and what is left over. -/
structure Matched where
  options : List (String × String) := []
  positionals : List (String × List String) := []
  extras : List String := []
deriving Repr, DecidableEq, Inhabited

/-- The options of one argument: those whose values are settled, an option whose value is the next
    argument, and what is left over. -/
structure Cluster where
  settled : List (Found × String) := []
  open? : Option Found := none
  extras : List String := []
deriving Repr

/-- Reads the options of one argument. Behind an option with one dash that takes nothing, further options
    may stand. -/
def cluster (u : Usage) : Spec → String → Bool → List Char → Except Stop Cluster
  | o, name, _, [] =>
    if o.takes.isValue then .ok { settled := [(⟨o, name, none⟩, "")] }
    else .error (.refused (.takesNoValue name ""))
  | o, name, isSigned, c :: rest =>
    let value := String.ofList (c :: rest)
    if o.takes.isValue then .ok { settled := [(⟨o, name, none⟩, value)] }
    else if "--".isPrefixOf name || isSigned || c == '-' then
      .error (.refused (.takesNoValue name value))
    else
      let here : Found × String := (⟨o, name, none⟩, "")
      let next := String.ofList ['-', c]
      match u.option? next with
      | none => .ok { settled := [here], extras := [String.ofList ('-' :: c :: rest)] }
      | some o' => do
        let more ← match rest with
          | [] => pure { open? := some ⟨o', next, none⟩ }
          | '=' :: value => cluster u o' next true value
          | rest => cluster u o' next false rest
        return { more with settled := here :: more.settled }

/-- Notes an option with its value, which must be one that the option takes. -/
def note (m : Matched) (found : Found) (value : String) : Except Stop Matched :=
  let noted := { m with options := m.options ++ [(found.option.key, value)] }
  match found.option.takes with
  | .help => .error .help
  | .nothing | .any => .ok noted
  | .oneOf texts =>
    if texts.contains value then .ok noted else .error (.refused (.badChoice found.name value))
  | .integer =>
    if (Text.readInteger? 10 value.toList).isSome then .ok noted
    else .error (.refused (.notInteger found.name value))

/-- Takes the option at the front, and the argument behind it if that is its value. Answers whether it
    was. -/
def takeOption (u : Usage) (m : Matched) (text : String) (found : Option Found) (next : Option Word) :
    Except Stop (Matched × Bool) :=
  match found with
  | none => .ok ({ m with extras := m.extras ++ [text] }, false)
  | some found => do
    let c ← match found.value with
      | none => pure { open? := some found }
      | some (isSigned, value) => cluster u found.option found.name isSigned value
    let (settled, taken) ← match c.open? with
      | none => pure (c.settled, false)
      | some o =>
        if !o.option.takes.isValue then pure (c.settled ++ [(o, "")], false)
        else match next with
          | some (.argument value) => pure (c.settled ++ [(o, value)], true)
          | _ => throw (.refused (.needsValue o.name))
    let m := { m with extras := m.extras ++ c.extras }
    return (← settled.foldlM (fun m (found, value) => note m found value) m, taken)

/-- Takes as many positional arguments from the front as can be filled. -/
def takePositionals (m : Matched) : List Positional → List Nat → List Word → Matched
  | p :: ps, n :: ns, words =>
    takePositionals { m with positionals := m.positionals ++ [(p.key, textsOf p (words.take n))] }
      ps ns (words.drop n)
  | _, _, _ => m

def total (counts : List Nat) : Nat := counts.foldr (· + ·) 0

/-- Takes options and positional arguments in turn until no option is left. -/
def takeAll (u : Usage) (m : Matched) (ps : List Positional) (words : List Word) : Except Stop Matched :=
  if !words.any Word.isOption then
    let counts := fill ps words
    let m := takePositionals m ps counts words
    let m := { m with extras := m.extras ++ (words.drop (total counts)).map Word.text }
    match ps.drop counts.length with
    | [] => .ok m
    | p :: _ => .error (.refused (.missing p.key))
  else
    match words with
    | [] => .ok m
    | .option text found :: rest => do
      let (m, taken) ← takeOption u m text found rest.head?
      takeAll u m ps (if taken then rest.tail else rest)
    | word :: rest =>
      let counts := fill ps (word :: rest)
      if _h : 0 < total counts then
        takeAll u (takePositionals m ps counts (word :: rest)) (ps.drop counts.length)
          ((word :: rest).drop (total counts))
      else
        let front := (word :: rest).takeWhile fun w => !w.isOption
        takeAll u { m with extras := m.extras ++ front.map Word.text } ps (rest.dropWhile fun w => !w.isOption)
termination_by words.length
decreasing_by
  · split <;> simp only [List.length_tail, List.length_cons] <;> omega
  · simp only [List.length_drop, List.length_cons]
    have : 0 < total (fill ps (word :: rest)) := _h
    omega
  · have := (rest.dropWhile_sublist fun w => !w.isOption).length_le
    simp only [List.length_cons]
    omega

def read (u : Usage) (argv : List String) : Except Stop Matched := do
  takeAll u {} u.positionals (← readWords u argv)

def readExactly (u : Usage) (argv : List String) : Except Stop Matched := do
  let m ← read u argv
  if m.extras.isEmpty then return m else throw (.refused (.unknown m.extras))

/-- Reads the arguments of a command that consists of commands. What the first one leaves over is
    refused. -/
def readCommand (commands : List (String × Usage)) (argv : List String) : Except Stop (String × Matched) := do
  let front ← read ⟨[], [.rest "command"]⟩ argv
  match front.positionals with
  | [(_, name :: rest)] =>
    match commands.lookup name with
    | none => throw (.refused (.badChoice "command" name))
    | some u =>
      let m ← read u rest
      let extras := front.extras ++ m.extras
      if extras.isEmpty then return (name, m) else throw (.refused (.unknown extras))
  | _ => throw (.refused (.missing "command"))

/-! ## 5. What has been read -/

namespace Matched

def value? (m : Matched) (key : String) : Option String := m.options.reverse.lookup key

def values (m : Matched) (key : String) : List String :=
  (m.options.filter (·.1 == key)).map (·.2)

def has (m : Matched) (key : String) : Bool := m.options.any (·.1 == key)

def text? (m : Matched) (key : String) : Option String := (m.positionals.lookup key).bind (·.head?)

end Matched

end CCompiler.Arguments
