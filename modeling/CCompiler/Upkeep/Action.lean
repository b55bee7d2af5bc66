import CCompiler.Json.Parse
import CCompiler.Suite.Case
import CCompiler.Command.Arguments

/-!
# Actions of upkeep

Files with their bytes and directories, by resolved path. A file without bytes is there but cannot be
read. Whatever is made, all directories above it are made too.

A tool reads and changes files, asks the version control, looks at the clock and at processes, and
prints. What it has changed stays changed when it breaks off.
-/
namespace CCompiler

/-- Why a file or directory cannot be used. The path is as it was asked for. -/
inductive DiskFault where
  | missing (path : String)
  | denied (path : String)
  | isDirectory (path : String)
  | exists (path : String)
deriving Repr, DecidableEq

def DiskFault.message : DiskFault → String
  | .missing path => s!"[Errno 2] No such file or directory: {Text.quoted path}"
  | .denied path => s!"[Errno 13] Permission denied: {Text.quoted path}"
  | .isDirectory path => s!"[Errno 21] Is a directory: {Text.quoted path}"
  | .exists path => s!"[Errno 17] File exists: {Text.quoted path}"

structure Disk where
  files : List (Path × Option (List UInt8)) := []
  dirs : List Path := [⟨"/", []⟩, Path.workingDirectory]
deriving Inhabited

namespace Disk

def isFile (d : Disk) (p : Path) : Bool := d.files.any (·.1 == p.resolve)

def isDir (d : Disk) (p : Path) : Bool := d.dirs.contains p.resolve

def has (d : Disk) (p : Path) : Bool := d.isFile p || d.isDir p

def read (d : Disk) (p : Path) : Except DiskFault (List UInt8) :=
  match d.files.lookup p.resolve with
  | some (some bytes) => .ok bytes
  | some none => .error (.denied p.text)
  | none => .error (if d.isDir p then .isDirectory p.text else .missing p.text)

def ancestry (p : Path) : List Path :=
  (List.range (p.parts.length + 1)).map fun n => { p with parts := p.parts.take n }

def makeDir (d : Disk) (p : Path) : Disk :=
  let add (dirs : List Path) (dir : Path) : List Path :=
    if dirs.contains dir then dirs else dirs ++ [dir]
  { d with dirs := (ancestry p.resolve).foldl add d.dirs }

def putFile (files : List (Path × Option (List UInt8))) (p : Path) (bytes : Option (List UInt8)) :
    List (Path × Option (List UInt8)) :=
  if files.any (·.1 == p) then files.map fun f => if f.1 == p then (p, bytes) else f
  else files ++ [(p, bytes)]

def store (d : Disk) (p : Path) (bytes : Option (List UInt8)) : Disk :=
  let d := d.makeDir p.resolve.parent
  { d with files := putFile d.files p.resolve bytes }

def write (d : Disk) (p : Path) (bytes : List UInt8) : Except DiskFault Disk :=
  if d.isDir p then .error (.isDirectory p.text) else .ok (d.store p (some bytes))

def erase (d : Disk) (p : Path) : Disk := { d with files := d.files.filter (·.1 != p.resolve) }

def remove (d : Disk) (p : Path) : Except DiskFault Disk :=
  if d.isFile p then .ok (d.erase p)
  else .error (if d.isDir p then .isDirectory p.text else .missing p.text)

def removeDir (d : Disk) (p : Path) : Disk := { d with dirs := d.dirs.filter (· != p.resolve) }

def isBelow (p dir : Path) : Bool :=
  p.root == dir.root && dir.parts.isPrefixOf p.parts && dir.parts.length < p.parts.length

def filesBelow (d : Disk) (dir : Path) : List Path :=
  (d.files.map (·.1)).filter (isBelow · dir.resolve)

def dirsBelow (d : Disk) (dir : Path) : List Path := d.dirs.filter (isBelow · dir.resolve)

end Disk

end CCompiler

namespace CCompiler.Upkeep

/-! ## Failures of upkeep

Why a tool that keeps the repository in order breaks off. The causes of one kind are those that a value
is not what it has to be.
-/

inductive Cause where
  | taskId (id : String)
  | nameless (fault : Path.Nameless)
  | noQueue
  | entryHeader (text : String)
  | entryFields (id : String) (fields : List String)
  | entryStatus (id status : String)
  | duplicateEntry (id : String)
  | unknownEntry (id : String)
  | notClaimable (id : String)
  | unknownStatus (status : String)
  | stateFile (path : String)
  | stateVersion (version : String)
  | stateTasks (path : String)
  | stateEntry (id : String)
  | stateField (id key : String)
  | stateStatus (id status : String)
  | notBelow (fault : Suite.NotBelow)
  | relativePath (field value : String)
  | escapingFixture (id : String)
  | noSource
  | stripCount
  | sourceField (key : String)
  | caseList
  | caseObject
  | caseField (key : String)
  | noArchive (path : String)
  | archiveDigest (expected actual path : String)
  | archiveMember (id path : String)
  | unreadableMember (id name : String)
  | caseDigest (id expected actual : String)
  | options (first second : String)
  | location (fault : Location.Fault)
  | number (fault : NumberFault)
deriving Repr, DecidableEq

def Cause.message : Cause → String
  | .taskId id => s!"invalid task id: {id}"
  | .nameless fault => fault.message
  | .noQueue => "missing ## Harness Queue section"
  | .entryHeader text => s!"invalid queue item header: {text}"
  | .entryFields id fields =>
    s!"queue entry {id} missing required fields: " ++ ", ".intercalate fields
  | .entryStatus id status => s!"queue entry {id} has invalid status: {status}"
  | .duplicateEntry id => s!"duplicate queue entry: {id}"
  | .unknownEntry id => s!"unknown queue entry: {id}"
  | .notClaimable id => s!"entry is not claimable: {id}"
  | .unknownStatus status => s!"invalid status: {status}"
  | .stateFile path => s!"invalid queue state file: {path}"
  | .stateVersion version => s!"unsupported queue state version: {version}"
  | .stateTasks path => s!"invalid queue state tasks: {path}"
  | .stateEntry id => s!"invalid queue state entry: {id}"
  | .stateField id key => s!"invalid queue state field: {id}.{key}"
  | .stateStatus id status => s!"invalid queued status for {id}: {status}"
  | .notBelow fault => fault.message
  | .relativePath field value => s!"invalid {field}: {value}"
  | .escapingFixture id => s!"fixture escapes repository root: {id}"
  | .noSource => "manifest missing upstream object"
  | .stripCount => "manifest upstream.strip_components must be >= 0"
  | .sourceField key => s!"manifest upstream.{key} must be a non-empty string"
  | .caseList => "manifest cases must be a list"
  | .caseObject => "manifest case must be an object"
  | .caseField key => s!"manifest case missing string key: {key}"
  | .noArchive path => s!"archive file does not exist: {path}"
  | .archiveDigest expected actual path =>
    s!"archive sha256 mismatch: expected {expected}, got {actual} ({path})"
  | .archiveMember id path => s!"archive missing upstream fixture for {id}: {path}"
  | .unreadableMember id name => s!"archive member is unreadable for {id}: {name}"
  | .caseDigest id expected actual =>
    s!"manifest checksum mismatch for {id}: expected {expected}, got {actual}"
  | .options first second => s!"{first} cannot be combined with {second}"
  | .location fault => fault.message
  | .number fault => fault.message

/-- Why a tool breaks off: a value is refused, a text is no JSON or no text at all, a file cannot be
    used, a command fails, a lock stays busy, or the repository is not in a state to go on. A value may
    also be of a kind that lacks what is asked of it. -/
inductive Failure where
  | value (cause : Cause)
  | json (fault : Json.ParseFault)
  | text (fault : Text.Utf8Fault)
  | disk (fault : DiskFault)
  | command (arguments : List String) (status : Int)
  | busy (path : String)
  | dirtyRoot (paths : List String)
  | dirtySwitch (current target : String)
  | noMethod (kind name : String)
  | notIterable (kind : String)
  | missingKey (key : String)
  | unreadableArchive (reason : String)
  | network
deriving Repr, DecidableEq

def Failure.message : Failure → String
  | .value cause => cause.message
  | .json fault => fault.message
  | .text fault => fault.message
  | .disk fault => fault.message
  | .command arguments status =>
    "Command '" ++ Text.quotedList arguments ++ s!"' returned non-zero exit status {status}."
  | .busy path => s!"queue lock busy: {path}"
  | .dirtyRoot paths => "supervisor root has implementation dirtiness: " ++ Text.quotedList paths
  | .dirtySwitch current target =>
    s!"cannot switch from {current} to {target} with dirty supervisor metadata"
  | .noMethod kind name => s!"'{kind}' object has no attribute '{name}'"
  | .notIterable kind => s!"'{kind}' object is not iterable"
  | .missingKey key => Text.quoted key
  | .unreadableArchive reason => reason
  | .network => "[Errno 101] Network is unreachable"

def Failure.isRefusal : Failure → Bool
  | .value _ | .json _ | .text _ => true
  | _ => false

/-- What a command of the version control does: it prints a text, or it fails with a status. -/
inductive GitAnswer where
  | printed (text : String)
  | failed (status : Int)
deriving Repr, DecidableEq, Inhabited

/-- What a tool cannot change: the process it runs in, the processes that are alive, what the version
    control answers, whether an alarm that is set goes off at once or never, and what the compiler sees
    around it other than files. -/
structure Host where
  pid : Int := 4242
  alive : List Int := []
  git : List String → GitAnswer := fun _ => .printed ""
  alarm : Bool := false
  world : World := {}

/-- The clock counts in parts of a second of which there are so many; at the times it shows, this is the
    spacing of numbers of double precision. -/
def ticksPerSecond : Nat := 0x200000000

/-- What a tool changes: files, the clock, what it has printed on its two outputs, and the commands of the
    version control that were given, each behind its working directory. -/
structure Site where
  disk : Disk := {}
  now : Nat := 1000000 * ticksPerSecond
  out : String := ""
  err : String := ""
  commands : List (List String) := []
deriving Inhabited

abbrev Action (β : Type) := ReaderT Host (ExceptT Failure (StateM Site)) β

def Action.perform {β : Type} (action : Action β) (host : Host) (site : Site) : Except Failure β × Site :=
  (action.run host).run.run site

def refuse {β : Type} (cause : Cause) : Action β := throw (.value cause)

def onDisk {β : Type} (f : Disk → Except DiskFault β) : Action β := do
  match f (← get).disk with
  | .ok x => return x
  | .error fault => throw (.disk fault)

def changeDisk (f : Disk → Except DiskFault Disk) : Action Unit := do
  let disk ← onDisk f
  modify fun s => { s with disk }

/-- The text of bytes; line ends become newlines. -/
def textOf (bytes : List UInt8) : Action String := do
  match Text.decode bytes with
  | .ok cs => return String.ofList (Source.unifyLineEnds cs)
  | .error fault => throw (.text fault)

def readText (p : Path) : Action String := do textOf (← onDisk (·.read p))

def readJson (p : Path) : Action Json := do
  match Json.parse (← readText p) with
  | .ok j => return j
  | .error fault =>
    match fault.fault with
    | .number fault => throw (.value (.number fault))
    | _ => throw (.json fault)

def makeDir (p : Path) : Action Unit := modify fun s => { s with disk := s.disk.makeDir p }

def writeText (p : Path) (text : String) : Action Unit := changeDisk (·.write p (Text.encode text))

def repository : Path := Path.workingDirectory

/-- Gives a command to the version control in a directory. -/
def git (dir : Path) (arguments : List String) : Action String := do
  let command := "git" :: arguments
  modify fun s => { s with commands := s.commands ++ [dir.text :: command] }
  match (← read).git arguments with
  | .printed text => return text
  | .failed status => throw (.command command status)

def printLine (text : String) : Action Unit := modify fun s => { s with out := s.out ++ text ++ "\n" }

def printJson (j : Json) : Action Unit := printLine (j.render .line)

/-- Does an action and then another, even when the first breaks off. -/
def andThen {β : Type} (action : Action β) (cleanup : Action Unit) : Action β := do
  try
    let x ← action
    cleanup
    return x
  catch failure =>
    cleanup
    throw failure

/-- Runs a tool on its arguments: prints its usage if that is all that is asked for, or if they are
    refused. -/
def withArguments {β : Type} (arguments : Except Arguments.Stop β) (run : β → Action Int) : Action Int := do
  let usage := "usage: [options] [arguments]\n"
  match arguments with
  | .ok m => run m
  | .error .help =>
    modify fun s => { s with out := s.out ++ usage }
    return 0
  | .error (.refused fault) =>
    modify fun s => { s with err := s.err ++ usage ++ "error: " ++ fault.message ++ "\n" }
    return 2

def pathOption (m : Arguments.Matched) (key : String) (default : Path) : Path :=
  ((m.value? key).map Path.ofText).getD default

end CCompiler.Upkeep
