import CCompiler.Queue.Basic

/-!
# The supervisor

Every task has a worktree and a branch of its own. A branch is merged only while the main tree has no
changes but those of its records.

The supervisor says which task is to be done next, and claims it if asked to. It goes on only when the
main tree has no changes but those of its records, when every task under way has its worktree and no
worktree with changes is without a task, and when no task is under way.
-/
namespace CCompiler.Worktree

open Upkeep

/-! ## 1. Worktrees -/

def isAlnum (c : Char) : Bool := ('a' ≤ c && c ≤ 'z') || ('0' ≤ c && c ≤ '9')

/-- Whether a text identifies a task: small letters and digits, with dashes only between them. -/
def isTaskId (id : String) : Bool :=
  let cs := id.toList
  cs.head?.any isAlnum && cs.getLast?.any isAlnum && cs.all fun c => isAlnum c || c == '-'

def checkTaskId (id : String) : Except Cause Unit := if isTaskId id then .ok () else .error (.taskId id)

def defaultRoot : Path := repository.join ⟨"", [".worktrees"]⟩

def branchName (owner id : String) : Except Cause String := do
  checkTaskId id
  return owner ++ "/" ++ id

def worktreePath (root : Path) (id : String) : Except Cause Path := do
  checkTaskId id
  return root.join (Path.ofText id)

def orRefuse {β : Type} : Except Cause β → Action β
  | .ok x => return x
  | .error cause => refuse cause

/-- A task with its branch and the directory of its worktree. -/
structure Info where
  taskId : String
  branch : String
  path : Path
deriving Repr, DecidableEq

def Info.json (i : Info) : Json :=
  .object [("task_id", .string i.taskId), ("branch", .string i.branch), ("path", .string i.path.text)]

def info (owner : String) (root : Path) (id : String) : Except Cause Info := do
  return ⟨id, ← branchName owner id, ← worktreePath root id⟩

def create (owner : String) (root : Path) (base id : String) : Action Info := do
  let i ← orRefuse (info owner root id)
  makeDir i.path.parent
  let _ ← git repository ["worktree", "add", i.path.text, "-b", i.branch, base]
  return i

def remove (i : Info) (keepBranch : Bool) : Action Unit := do
  let _ ← git repository ["worktree", "remove", i.path.text]
  let _ ← git repository ["worktree", "prune"]
  if !keepBranch then
    let _ ← git repository ["branch", "-D", i.branch]

def recordFiles : List String := ["HARNESS.md", "CHANGELOG.md"]

def filledLines (text : String) : List (List Char) :=
  ((Text.lines text.toList).map Text.withoutBoundary).filter (!·.isEmpty)

def dirtyPaths : Action (List String) := do
  let output ← git repository ["status", "--short"]
  return (filledLines output).map fun line => String.ofList (line.drop 3)

def currentBranch : Action String := do
  let output ← git repository ["branch", "--show-current"]
  return String.ofList (Text.trimEnd (Text.trimFront output.toList))

/-- Breaks off unless a branch can be merged into another. -/
def checkMergeSafe (target : String) : Action Unit := do
  let current ← currentBranch
  let dirty ← dirtyPaths
  let blocked := dirty.filter (!recordFiles.contains ·)
  if !blocked.isEmpty then throw (.dirtyRoot blocked)
  if current ≠ target && !dirty.isEmpty then throw (.dirtySwitch current target)

def merge (branch target : String) : Action Unit := do
  checkMergeSafe target
  let _ ← git repository ["checkout", target]
  let _ ← git repository ["merge", "--no-ff", "--no-edit", branch]

def defaultOwner : String := "codex"

open Arguments in
def commands : List (String × Usage) :=
  [("create", ⟨[⟨["--base-ref"], "base", .any⟩, ⟨["--prefix"], "owner", .any⟩,
      ⟨["--worktree-root"], "root", .any⟩], [.single "task"]⟩),
   ("remove", ⟨[⟨["--prefix"], "owner", .any⟩, ⟨["--worktree-root"], "root", .any⟩,
      ⟨["--keep-branch"], "keep", .nothing⟩], [.single "task"]⟩),
   ("merge", ⟨[⟨["--prefix"], "owner", .any⟩, ⟨["--target-branch"], "target", .any⟩],
      [.single "task"]⟩)]

def tool (argv : List String) : Action Int :=
  withArguments (Arguments.readCommand commands argv) fun (command, m) => do
    let id := (m.text? "task").getD ""
    let owner := (m.value? "owner").getD defaultOwner
    let root := pathOption m "root" defaultRoot
    match command with
    | "create" =>
      let i ← create owner root ((m.value? "base").getD "HEAD") id
      printJson i.json
    | "remove" =>
      let i ← orRefuse (info owner root id)
      remove i (m.has "keep")
      printJson i.json
    | _ =>
      let branch ← orRefuse (branchName owner id)
      merge branch ((m.value? "target").getD "master")
      printJson (.object [("task_id", .string id), ("branch", .string branch)])
    return 0

end CCompiler.Worktree

namespace CCompiler.Supervisor

open Upkeep Queue

/-! ## 2. Reports -/

def changedPaths (output : String) : List String :=
  (Worktree.filledLines output).map fun line => String.ofList (if line.length > 3 then line.drop 3 else line)

/-- The task that a worktree belongs to by its place in a repository. -/
def taskOfWorktree? (path repo : Path) : Option String := do
  let relative ← path.relativeTo? (repo.join ⟨"", [".worktrees"]⟩)
  match relative.parts with
  | [id] => some id
  | _ => none

/-- A worktree: what is printed about it, its path and its task. -/
structure Listed where
  fields : Fields
  path : Path
  task : Option String
deriving Repr, DecidableEq

def Listed.json (w : Listed) : Json :=
  let fields := w.fields.map fun (name, value) => (name, Json.string value)
  .object (Json.putField "task_id" (.ofOption .string w.task)
    (Json.putField "path" (.string w.path.text) fields))

/-- The paragraphs of lines: an empty line ends one, and none is empty. -/
def paragraphs (begun : List Line) : List Line → List (List Line)
  | [] => if begun.isEmpty then [] else [begun.reverse]
  | [] :: rest => if begun.isEmpty then paragraphs [] rest else begun.reverse :: paragraphs [] rest
  | line :: rest => paragraphs (line :: begun) rest

/-- The fields of a paragraph: a name and, behind a blank, a value. -/
def listedFields (paragraph : List Line) : Fields :=
  let lines := paragraph.flatMap fun line => (Text.lines line).map Text.withoutBoundary
  (lines.filterMap (Text.cutAt? [' '] ·)).foldl
    (fun fields (name, value) => Fields.put (String.ofList name) (String.ofList value) fields) []

def listedOf? (repo : Path) (paragraph : List Line) : Option Listed := do
  let fields := listedFields paragraph
  let path := Path.ofText (← fields.lookup "worktree")
  return ⟨fields, path, taskOfWorktree? path repo⟩

def worktreesOf (output : String) (repo : Path) : List Listed :=
  (paragraphs [] (Text.splitOn '\n' (trim output.toList))).filterMap (listedOf? repo)

inductive Obstacle where
  | dirtyRoot (paths : List String)
  | staleTasks (ids : List String)
  | dirtyOrphans (worktrees : List Listed)
  | missingWorktrees (ids : List String)
  | underWay (ids : List String)
  | refusedClaim (id reason : String)
deriving Repr, DecidableEq

/-- A task with the slice of the frontier that it is about. -/
structure Selection where
  entry : Entry
  slice : Option Frontier.Slice
deriving Repr, DecidableEq

inductive Finding where
  | blocked (obstacle : Obstacle)
  | failed (id reason : String)
  | idle
  | selected (selection : Selection)
deriving Repr, DecidableEq

/-- A report: the finding, and the worktrees without changes that no task under way has. -/
structure Report where
  finding : Finding
  orphans : List String := []
deriving Repr, DecidableEq

def Selection.json (s : Selection) : Json :=
  let slice := match s.slice with
    | none =>
      [("frontier_slice_id", Json.null), ("frontier_case_count", .int 0), ("frontier_case_ids", .array [])]
    | some slice =>
      [("frontier_slice_id", Json.string slice.id), ("frontier_case_count", .int (slice.cases.length : Nat)),
       ("frontier_case_ids", .ofTexts slice.cases)]
  let fields := s.entry.fields.map fun (name, value) => (name, Json.string value)
  .object ((fields ++ slice).foldl (fun done (name, value) => Json.putField name value done)
    [("id", .string s.entry.id)])

/-- The summary of an obstacle, the word for it, and what else is said about it. -/
def Obstacle.parts : Obstacle → String × String × List (String × Json)
  | .dirtyRoot paths =>
    ("supervisor root has implementation dirtiness", "dirty_root", [("dirty_root_paths", .ofTexts paths)])
  | .staleTasks ids =>
    ("queue state contains claimed or review task ids missing from TODO", "stale_active_state",
      [("stale_active_state_task_ids", .ofTexts ids)])
  | .dirtyOrphans worktrees =>
    ("dirty orphan worktrees require manual cleanup", "dirty_orphan_worktree",
      [("dirty_orphan_worktrees", .ofList (fun w => .object
        [("path", .string w.path.text), ("task_id", .string (w.task.getD ""))]) worktrees)])
  | .missingWorktrees ids =>
    ("claimed or review tasks are missing worktrees", "active_worktree_mismatch",
      [("missing_active_worktrees", .ofTexts ids), ("selected_task", .null)])
  | .underWay ids =>
    ("claimed or review task already has a matching worktree", "active_task_in_progress",
      [("active_task_ids", .ofTexts ids), ("selected_task", .null)])
  | .refusedClaim id reason =>
    (s!"claim failed for {id}", "claim_conflict",
      [("claim_error", .string reason), ("selected_task", .null)])

def Report.json (r : Report) : Json :=
  let orphans := ("orphan_worktrees", Json.ofTexts r.orphans.mergeSort)
  match r.finding with
  | .blocked obstacle =>
    let (summary, reason, extra) := obstacle.parts
    .object ([("result", .string "BLOCKED"), ("summary", .string summary),
      ("blocked_reason", .string reason), orphans] ++ extra)
  | .failed id reason =>
    .object [("result", .string "FAILED"),
      ("summary", .string s!"claim raised unexpected error for {id}"),
      ("failed_reason", .string "claim_error"), ("claim_error", .string reason), orphans,
      ("selected_task", .null)]
  | .idle =>
    .object [("result", .string "IDLE"), ("summary", .string "no todo slice is ready"),
      ("blocked_reason", .null), orphans, ("selected_task", .null)]
  | .selected selection =>
    .object [("result", .string "SUCCESS"), ("summary", .string s!"selected {selection.entry.id}"),
      ("blocked_reason", .null), orphans, ("selected_task", selection.json)]

def Report.status (r : Report) : Int :=
  match r.finding with
  | .blocked _ => 2
  | .failed _ _ => 1
  | _ => 0

/-! ## 3. Selecting -/

def isUnderWay (status : Option String) : Bool :=
  status == some Status.claimed.text || status == some Status.review.text

def staleTasks (entries : List Entry) (tasks : Tasks) : List String :=
  (tasks.filterMap fun (id, task) =>
    if isUnderWay (task.status.map Status.text) && !entries.any (·.id == id) then some id
    else none).mergeSort

/-- The worktrees sorted by what they are: tasks under way that have one, worktrees without a task under
    way that have no changes, and such that have some. -/
structure Sorted where
  matching : List String := []
  orphans : List String := []
  dirty : List Listed := []

def sortWorktrees (repo : Path) (active : List String) : List Listed → Sorted → Action Sorted
  | [], sorted => return sorted
  | w :: rest, sorted => do
    if w.path = repo then sortWorktrees repo active rest sorted
    else match w.task.filter active.contains with
      | some id => sortWorktrees repo active rest { sorted with matching := sorted.matching ++ [id] }
      | none =>
        let changes := changedPaths (← git repo ["-C", w.path.text, "status", "--short"])
        if changes.isEmpty then
          sortWorktrees repo active rest { sorted with orphans := sorted.orphans ++ [w.path.text] }
        else sortWorktrees repo active rest { sorted with dirty := sorted.dirty ++ [w] }

def sliceOf? (frontier : List Frontier.Slice) (e : Entry) : Option Frontier.Slice :=
  frontier.find? (·.bucket == ⟨e.field "layer", e.field "family", e.field "subsystem"⟩)

/-- The first entry that is about a slice of the frontier; else the first of all. -/
def select (entries : List Entry) (frontier : List Frontier.Slice) : Option Selection :=
  let todo := ordered entries
  let matching := todo.findSome? fun e => (sliceOf? frontier e).map fun slice => ⟨e, some slice⟩
  matching <|> todo.head?.map fun e => ⟨e, none⟩

structure Request where
  repo : Path := repository
  store : Store := {}
  manifest : Path := Frontier.defaultManifest
  claims : Bool := false
  owner : String := "supervisor"

def claim (r : Request) (selection : Selection) : Action Finding := do
  let id := selection.entry.id
  try
    let entry ← r.store.claim id (some r.owner)
    return .selected { selection with entry }
  catch
    | .busy path => return .blocked (.refusedClaim id (Failure.busy path).message)
    | failure =>
      if failure.isRefusal then return .blocked (.refusedClaim id failure.message)
      else return .failed id failure.message

def supervise (r : Request) : Action Report := do
  let changed := changedPaths (← git r.repo ["status", "--short"])
  let blocking := changed.filter (!Worktree.recordFiles.contains ·)
  if !blocking.isEmpty then return ⟨.blocked (.dirtyRoot blocking), []⟩
  let stale := staleTasks (← r.store.written) (← r.store.tasks)
  if !stale.isEmpty then return ⟨.blocked (.staleTasks stale), []⟩
  let entries ← r.store.load
  let active := ((entries.filter fun e => isUnderWay e.status?).map (·.id)).mergeSort
  let listing ← git r.repo ["worktree", "list", "--porcelain"]
  let sorted ← sortWorktrees r.repo active (worktreesOf listing r.repo) {}
  if !sorted.dirty.isEmpty then return ⟨.blocked (.dirtyOrphans sorted.dirty), sorted.orphans⟩
  let missing := active.filter (!sorted.matching.contains ·)
  if !missing.isEmpty then return ⟨.blocked (.missingWorktrees missing), sorted.orphans⟩
  if !sorted.matching.isEmpty then
    return ⟨.blocked (.underWay sorted.matching.eraseDups.mergeSort), sorted.orphans⟩
  let frontier ← Frontier.ofManifest r.manifest
  match select entries frontier with
  | none => return ⟨.idle, sorted.orphans⟩
  | some selection =>
    return ⟨← if r.claims then claim r selection else pure (.selected selection), sorted.orphans⟩

open Arguments in
def usage : Usage :=
  ⟨[⟨["--repo-root"], "repo", .any⟩, ⟨["--todo-path"], "todo", .any⟩, ⟨["--state-path"], "state", .any⟩,
    ⟨["--manifest-path"], "manifest", .any⟩, ⟨["--claim"], "claim", .nothing⟩,
    ⟨["--owner"], "owner", .any⟩], []⟩

def requestOf (m : Arguments.Matched) : Request :=
  { repo := pathOption m "repo" repository
    store := storeOf m
    manifest := pathOption m "manifest" Frontier.defaultManifest
    claims := m.has "claim"
    owner := (m.value? "owner").getD "supervisor" }

def tool (argv : List String) : Action Int :=
  withArguments (Arguments.readExactly usage argv) fun m => do
    let report ← supervise (requestOf m)
    printLine (report.json.sorted.render .line)
    return report.status

end CCompiler.Supervisor
