import CCompiler.Preprocess.Predefined

/-!
# What a build is asked for

The arguments of a compiler: inputs, the stage at which to stop, where to put the result, and options of
the front end. Arguments of the front end and those that nobody here knows are also kept for another
compiler, in order; only the choice of the generator is our own.
-/
namespace CCompiler

/-- Who makes the code. -/
inductive Backend where
  | auto
  | own
  | clang
deriving Repr, DecidableEq, Inhabited

def Backend.name : Backend → String
  | .auto => "auto"
  | .own => "xcc"
  | .clang => "clang"

def Backend.ofName? (name : String) : Option Backend :=
  [Backend.auto, .own, .clang].find? (·.name == name)

/-- How far a build goes. A build with another purpose is left to the other compiler. -/
inductive BuildAction where
  | link
  | compile
  | assembly
  | delegate
deriving Repr, DecidableEq, Inhabited

def BuildAction.name : BuildAction → String
  | .link => "link"
  | .compile => "compile"
  | .assembly => "assembly"
  | .delegate => "delegate"

def BuildAction.ofName? (name : String) : Option BuildAction :=
  [BuildAction.link, .compile, .assembly, .delegate].find? (·.name == name)

structure BuildConfig where
  options : Options := { standard := .gnu11 }
  forwarded : List String := []
  cInputs : List String := []
  otherInputs : List String := []
  backend : Backend := .auto
  noFallback : Bool := false
  action : BuildAction := .link
  output : Option String := none
  unknownFlags : List String := []
deriving Repr, DecidableEq, Inhabited

namespace BuildConfig

inductive Fault where
  | missingValue (option : String)
  | standard (name : String)
  | backend (name : String)
deriving Repr, DecidableEq

def Fault.message : Fault → String
  | .missingValue option => s!"Missing value for {option}"
  | .standard name => s!"Unsupported language standard: {name}"
  | .backend name => s!"Unsupported backend: {name}"

inductive ValueOption where
  | backend
  | language
  | standard
  | output
  | includeDir
  | quoteDir
  | systemDir
  | afterDir
  | forcedInclude
  | macroInclude
  | define
  | undefine
deriving Repr, DecidableEq, Inhabited

def ValueOption.spelling : ValueOption → String
  | .backend => "--backend"
  | .language => "-x"
  | .standard => "-std"
  | .output => "-o"
  | .includeDir => "-I"
  | .quoteDir => "-iquote"
  | .systemDir => "-isystem"
  | .afterDir => "-idirafter"
  | .forcedInclude => "-include"
  | .macroInclude => "-imacros"
  | .define => "-D"
  | .undefine => "-U"

/-- What stands between an option and a value in the same argument. -/
def ValueOption.sign : ValueOption → String
  | .backend | .standard => "="
  | _ => ""

def ValueOption.all : List ValueOption :=
  [.backend, .language, .standard, .output, .includeDir, .quoteDir, .systemDir, .afterDir,
   .forcedInclude, .macroInclude, .define, .undefine]

inductive Flag where
  | noFallback
  | delegate
  | assembly
  | compile
  | hosted
  | freestanding
  | noStandardIncludes
deriving Repr, DecidableEq, Inhabited

def flags : List (String × Flag) :=
  [("--no-backend-fallback", .noFallback), ("-E", .delegate), ("-M", .delegate), ("-MM", .delegate),
   ("-S", .assembly), ("-c", .compile), ("--version", .delegate), ("-v", .delegate), ("-V", .delegate),
   ("-fhosted", .hosted), ("-ffreestanding", .freestanding), ("-nostdinc", .noStandardIncludes)]

inductive Argument where
  | separator
  | flag (f : Flag)
  | option (o : ValueOption) (value : Option String)
  | input (path : String)
  | unknown
deriving Repr, DecidableEq

def hasDash (arg : String) : Bool := arg.toList.head? == some '-'

def joined? (o : ValueOption) (arg : String) : Option String :=
  let front := (o.spelling ++ o.sign).toList
  if front.isPrefixOf arg.toList then some (String.ofList (arg.toList.drop front.length)) else none

def option? (arg : String) : Option Argument :=
  match ValueOption.all.find? (·.spelling == arg) with
  | some o => some (.option o none)
  | none => ValueOption.all.findSome? fun o => (joined? o arg).map fun value => .option o (some value)

def readArgument (arg : String) : Argument :=
  if arg == "--" then .separator
  else match flags.lookup arg with
    | some f => .flag f
    | none =>
      match option? arg with
      | some a => a
      | none => if arg == "-" || !hasDash arg then .input arg else .unknown

abbrev Language := Option String

/-- Whether an input is in C: by its name, or because C was named. -/
def isC (language : Language) (path : String) : Bool :=
  (path != "-" && ".c".toList.isSuffixOf path.toList) || language == some "c"

def addInput (c : BuildConfig) (language : Language) (path : String) : BuildConfig :=
  if isC language path then { c with cInputs := c.cInputs ++ [path] }
  else { c with otherInputs := c.otherInputs ++ [path] }

def forward (c : BuildConfig) (args : List String) : BuildConfig :=
  { c with forwarded := c.forwarded ++ args }

/-- Adds what stands behind the separator: every argument without a dash is an input. -/
def addRest (c : BuildConfig) (language : Language) (args : List String) : BuildConfig :=
  (args.filter (!hasDash ·)).foldl (fun c path => c.addInput language path) (c.forward args)

/-- Sets a flag. Nothing leads back from a build that is left to the other compiler. -/
def setFlag (c : BuildConfig) : Flag → BuildConfig
  | .noFallback => { c with noFallback := true }
  | .delegate => { c with action := .delegate }
  | .assembly => if c.action = .delegate then c else { c with action := .assembly }
  | .compile => if c.action = .delegate then c else { c with action := .compile }
  | .hosted => { c with options.isHosted := true }
  | .freestanding => { c with options.isHosted := false }
  | .noStandardIncludes => { c with options.noStandardIncludes := true }

def setValue (c : BuildConfig) (value : String) : ValueOption → Except Fault BuildConfig
  | .backend =>
    match Backend.ofName? value with
    | some backend => .ok { c with backend }
    | none => .error (.backend value)
  | .standard =>
    match Standard.ofName? value with
    | some standard => .ok { c with options.standard := standard }
    | none => .error (.standard value)
  | .language => .ok c
  | .output => .ok { c with output := some value }
  | .includeDir => .ok { c with options.includeDirs := c.options.includeDirs ++ [value] }
  | .quoteDir => .ok { c with options.quoteDirs := c.options.quoteDirs ++ [value] }
  | .systemDir => .ok { c with options.systemDirs := c.options.systemDirs ++ [value] }
  | .afterDir => .ok { c with options.afterDirs := c.options.afterDirs ++ [value] }
  | .forcedInclude => .ok { c with options.forcedIncludes := c.options.forcedIncludes ++ [value] }
  | .macroInclude => .ok { c with options.macroIncludes := c.options.macroIncludes ++ [value] }
  | .define => .ok { c with options.defines := c.options.defines ++ [value] }
  | .undefine => .ok { c with options.undefs := c.options.undefs ++ [value] }

/-- The language after an option. The name `none` takes the language back. -/
def languageAfter (language : Language) (o : ValueOption) (value : String) : Language :=
  if o = .language then (if value = "none" then none else some value) else language

def forwardOption (c : BuildConfig) (o : ValueOption) (args : List String) : BuildConfig :=
  if o = .backend then c else c.forward args

def readFrom (c : BuildConfig) (language : Language) : List String → Except Fault BuildConfig
  | [] => .ok c
  | arg :: rest =>
    match readArgument arg with
    | .separator => .ok (c.addRest language (arg :: rest))
    | .flag .noFallback => readFrom (c.setFlag .noFallback) language rest
    | .flag f => readFrom ((c.setFlag f).forward [arg]) language rest
    | .option o (some value) => do
      let c ← c.setValue value o
      readFrom (c.forwardOption o [arg]) (languageAfter language o value) rest
    | .option o none =>
      match rest with
      | [] => .error (.missingValue o.spelling)
      | value :: rest => do
        let c ← c.setValue value o
        readFrom (c.forwardOption o [arg, value]) (languageAfter language o value) rest
    | .input path => readFrom ((c.forward [arg]).addInput language path) language rest
    | .unknown =>
      readFrom { c.forward [arg] with unknownFlags := c.unknownFlags ++ [arg] } language rest

def ofArguments (argv : List String) : Except Fault BuildConfig := readFrom {} none argv

/-- What an argument says about the purpose of a run. -/
inductive Hint where
  | check
  | build
  | takesNext
  | input
  | nothing
deriving Repr, DecidableEq

def buildArguments : List String :=
  ["-c", "-S", "-E", "-M", "-MM", "--version", "-v", "-V", "--backend", "--no-backend-fallback"]

def valueArguments : List String :=
  ["-D", "-U", "-I", "-iquote", "-isystem", "-idirafter", "-include", "-imacros", "-std"]

def hintOf (arg : String) : Hint :=
  let begins (front : String) : Bool := front.toList.isPrefixOf arg.toList
  if arg == "--frontend" || begins "--dump-" || arg == "--diag-format" || begins "--diag-format=" then
    .check
  else if buildArguments.contains arg || begins "--backend=" || begins "-o" || begins "-x" then .build
  else if valueArguments.contains arg then .takesNext
  else if !hasDash arg && ".c".toList.isSuffixOf arg.toList then .input
  else .nothing

/-- Whether arguments ask for a build, where an input in C may have been seen. The first argument that
    tells decides. -/
def asksFrom (seen : Bool) : List String → Bool
  | [] => seen
  | arg :: rest =>
    match hintOf arg with
    | .check => false
    | .build => true
    | .takesNext =>
      match rest with
      | [] => seen
      | _ :: rest => asksFrom seen rest
    | .input => asksFrom true rest
    | .nothing => asksFrom seen rest

def asks (argv : List String) : Bool := asksFrom false argv

end BuildConfig

end CCompiler
