import CCompiler.Digest.Sha
import CCompiler.World.Files

/-!
# Cases of a test suite

What a message says of a failure must not depend on the machine: paths of the host in it are replaced.

A case of the suite of clang is a C file below `clang/test`. It has a fixture of our own, an identifier,
and an expectation that follows from the marks in its text.
-/
namespace CCompiler.Suite

open Text (isSpace isWordChar cutAt?)

/-- Something to be replaced at the front of a text: its length and what stands for it. The character
    before the text is known. -/
abbrev Rule := Option Char → List Char → Option (Nat × List Char)

/-- A text with all that a rule finds replaced, the leftmost first, where the first characters are
    skipped. -/
def replaceFrom (rule : Rule) (before : Option Char) : Nat → List Char → List Char
  | _, [] => []
  | skip + 1, c :: rest => replaceFrom rule (some c) skip rest
  | 0, c :: rest =>
    match rule before (c :: rest) with
    | some (n + 1, instead) => instead ++ replaceFrom rule (some c) n rest
    | _ => c :: replaceFrom rule (some c) 0 rest

def replaceAll (rule : Rule) (cs : List Char) : List Char := replaceFrom rule none 0 cs

def isSlash (c : Char) : Bool := c == '/' || c == '\\'

def endsPath (c : Char) : Bool := c == ',' || c == ';' || c == '(' || c == ')'

def isPathChar (c : Char) : Bool := !endsPath c && !isSpace c

def fixtureRoot : List Char := "tests/external/clang/generated".toList

def forwardSlashes (cs : List Char) : List Char := cs.map fun c => if c == '\\' then '/' else c

/-- Whether a text begins with another, where a slash of either kind counts as one. -/
def beginsWith : List Char → List Char → Bool
  | [], _ => true
  | _ :: _, [] => false
  | p :: pattern, c :: cs => (p == c || (isSlash p && isSlash c)) && beginsWith pattern cs

/-- The length of a text up to the last place where the directory of fixtures ends in it. -/
def throughFixtureRoot? : List Char → Option Nat
  | [] => none
  | c :: rest =>
    match throughFixtureRoot? rest with
    | some n => some (n + 1)
    | none =>
      if beginsWith fixtureRoot (c :: rest) then some fixtureRoot.length else none

def driveLength : List Char → Nat
  | c :: ':' :: _ => if c.isAlpha then 2 else 0
  | _ => 0

/-- The length of an absolute path of a fixture at the front of a text. -/
def absoluteFixture? (cs : List Char) : Option Nat :=
  match cs with
  | c :: rest =>
    if isSlash c then do
      let run := rest.takeWhile isPathChar
      let n ← throughFixtureRoot? run
      let behind := run.drop n
      return 1 + n + (if behind.head?.any isSlash then behind.length else 0)
    else none
  | [] => none

/-- Paths of fixtures, with or without a drive, become relative. -/
def fixtureRule : Rule := fun _ cs => do
  let drive := driveLength cs
  let n ← ((absoluteFixture? (cs.drop drive)).map (drive + ·)) <|> absoluteFixture? cs
  let path := forwardSlashes (cs.take n)
  let (_, behind) ← cutAt? fixtureRoot path
  return (n, fixtureRoot ++ behind)

def behind? (front cs : List Char) : Option (List Char) :=
  if front.isPrefixOf cs then some (cs.drop front.length) else none

def xcode : List Char := "/Applications/Xcode.app/".toList

/-- The length of a path among the tools of a Mac, up to the end of a text that it leads to. -/
def throughXcode? (cs : List Char) (find : List Char → Option Nat) : Option Nat := do
  let rest ← behind? xcode cs
  let n ← find (rest.takeWhile fun c => !endsPath c)
  return xcode.length + n

def through? (needle cs : List Char) : Option Nat :=
  (cutAt? needle cs).map fun (front, _) => front.length + needle.length

def resourceRule : Rule := fun _ cs => do
  let n ← throughXcode? cs fun run => do
    let n ← through? "/usr/lib/clang/".toList run
    let m ← through? "/include".toList (run.drop (n + 1))
    if n < run.length then some (n + 1 + m) else none
  return (n, "<clang-resource-include>".toList)

def kitRule : Rule := fun _ cs => do
  let n ← throughXcode? cs (through? "/MacOSX.sdk/usr/include".toList)
  return (n, "<macos-sdk-include>".toList)

/-- The directories of a host whose contents differ from machine to machine. -/
def hostDirs : List (List Char) :=
  ["/Applications/", "/Users/", "/home/", "/private/", "/tmp/", "/var/"].map String.toList

/-- Other absolute paths, unless they end a longer one. -/
def hostRule : Rule := fun before cs =>
  if before.any fun c => isWordChar c || c == '.' then none
  else hostDirs.findSome? fun dir => do
    let run := (← behind? dir cs).takeWhile isPathChar
    if run.isEmpty then none else some (dir.length + run.length, "<host-path>".toList)

def systemRule : Rule := fun _ cs => do
  let _ ← behind? "/usr/include".toList cs
  return ("/usr/include".length, "<system-include>".toList)

def withoutPlaces (detail : String) : String :=
  String.ofList ([fixtureRule, resourceRule, kitRule, hostRule, systemRule].foldl
    (fun cs rule => replaceAll rule cs) detail.toList)

def suiteRoot : Path := ⟨"", ["clang", "test"]⟩

def isCasePath (path : String) : Bool :=
  "clang/test/".toList.isPrefixOf path.toList && (Path.ofText path).suffix == ".c"

structure NotBelow where
  path : String
  root : String
deriving Repr, DecidableEq

def NotBelow.message (e : NotBelow) : String :=
  Text.quoted e.path ++ " is not in the subpath of " ++ Text.quoted e.root
    ++ " OR one path is relative and the other is absolute."

def belowSuite (path : String) : Except NotBelow Path :=
  let p := Path.ofText path
  match p.relativeTo? suiteRoot with
  | some relative => .ok relative
  | none => .error ⟨p.text, suiteRoot.text⟩

def fixturePath (path : String) : Except NotBelow String := do
  let relative ← belowSuite path
  return ((Path.ofText (String.ofList fixtureRoot)).join relative).text

def isIdentifierChar (c : Char) : Bool := ('0' ≤ c && c ≤ '9') || ('a' ≤ c && c ≤ 'z')

def dashed (cs : List Char) : List Char :=
  let runs := (cs.splitBy fun a b => isIdentifierChar a == isIdentifierChar b).filter
    fun run => run.head?.any isIdentifierChar
  ['-'].intercalate runs

/-- The identifier of a case: its path in small letters, and the front of a digest of the path. -/
def caseId (path : String) : Except NotBelow String := do
  let relative ← belowSuite path
  let name := String.ofList (dashed (Text.lower relative.text.toList))
  let digest := String.ofList ((Digest.Sha1.hexDigest (Text.encode path)).toList.take 10)
  return s!"clang-{name}-{digest}"

def silentMark : String := "expected-no-diagnostics"

def diagnosticMarks : List String :=
  ["expected-error", "expected-warning", "expected-note", "expected-remark", "expected-fatal"]

def expectation (source : String) : String :=
  let has (mark : String) : Bool := Text.occursIn mark.toList source.toList
  if has silentMark then "ok" else if diagnosticMarks.any has then "error" else "ok"

/-- Whether a result meets an expectation; any stage that refuses a case meets that of an error. -/
def meets (expected actual : String) : Bool :=
  if expected = "error" then actual ≠ "ok" else actual = expected

def skipReason (expected actual : String) (detail : Option String) : String :=
  let message := s!"baseline skip: expected {expected}, got {actual}"
  match detail with
  | none | some "" => message
  | some detail => message ++ " (" ++ withoutPlaces detail ++ ")"

end CCompiler.Suite
