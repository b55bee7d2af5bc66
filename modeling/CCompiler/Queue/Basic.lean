import CCompiler.Frontier.Basic

/-!
# The queue of tasks

A section of a list of things to do is the queue. An entry has a head line with the identifier of its
task and, up to the next head line, lines with fields.

What has become of tasks since the queue was written stands in a file of its own. It holds for each task a
status and an owner, either of which may be missing.

A process holds the lock after it has created the lock file and written a stamp into it: the process and
the time. A process that finds the file reads its stamp. If that cannot be read, or its process is gone,
or it is old, it removes the file and begins anew; otherwise it waits, until its patience is over.

Each of these acts is a step, so that the steps of several processes can be mixed. Creating a file gives
it a serial number, and a stamp is written into the file with the number that the process has got,
whatever stands at the path by then.

Entries are read with what has become of their tasks. A task is claimed, or gets another status, while the
lock is held; the list of things to do itself never changes.
-/
namespace CCompiler.Queue

open Upkeep

/-! ## 1. Entries -/

inductive Status where
  | todo
  | claimed
  | review
  | done
  | blocked
deriving Repr, DecidableEq, Inhabited

def Status.text : Status → String
  | .todo => "todo"
  | .claimed => "claimed"
  | .review => "review"
  | .done => "done"
  | .blocked => "blocked"

def Status.all : List Status := [.todo, .claimed, .review, .done, .blocked]

def Status.ofText? (text : String) : Option Status := Status.all.find? (·.text == text)

/-- Fields of an entry by name, each name once. -/
abbrev Fields := List (String × String)

def Fields.put (name value : String) : Fields → Fields
  | [] => [(name, value)]
  | (n, v) :: rest => if n = name then (name, value) :: rest else (n, v) :: Fields.put name value rest

def Fields.drop (fields : Fields) (name : String) : Fields := fields.filter (·.1 != name)

/-- An entry: the identifier of its task, its fields, and the lines it takes, the last excluded. -/
structure Entry where
  id : String
  fields : Fields
  start : Nat
  stop : Nat
deriving Repr, DecidableEq, Inhabited

def Entry.status? (e : Entry) : Option String := e.fields.lookup "status"

def Entry.field (e : Entry) (name : String) : String := (e.fields.lookup name).getD ""

def Entry.json (e : Entry) : Json :=
  .object (Json.putField "id" (.string e.id) (e.fields.map fun (name, value) => (name, .string value)))

/-- An entry as data: the task, the fields, and the lines that it takes. -/
def Entry.parts (e : Entry) : Json :=
  .object [("task_id", .string e.id),
    ("fields", .object (e.fields.map fun (name, value) => (name, .string value))),
    ("start_line", .int (e.start : Nat)), ("end_line", .int (e.stop : Nat))]

abbrev Line := List Char

def linesOf (text : String) : List Line := (Text.lines text.toList).map Text.withoutBoundary

def title : Line := "## Harness Queue".toList

def isTitle (line : Line) : Bool := "## ".toList.isPrefixOf line

/-- The first line of the section and the line behind its last. The line right behind the title does not
    end it. -/
def bounds (lines : List Line) : Except Cause (Nat × Nat) :=
  if title ∈ lines then
    let start := lines.idxOf title + 1
    let behind := (lines.drop (start + 1)).findIdx isTitle
    .ok (start, min lines.length (start + 1 + behind))
  else .error .noQueue

def isHead (line : Line) : Bool := "- `".toList.isPrefixOf line

/-- The lines of an entry: its head line, where that is, and the lines behind it. -/
structure Block where
  start : Nat
  head : Line
  body : List Line
deriving Repr, DecidableEq

def Block.stop (b : Block) : Nat := b.start + 1 + b.body.length

/-- The lines before the first head line, and the blocks, where the first line has a number. -/
def blocksFrom (n : Nat) : List Line → List Line × List Block
  | [] => ([], [])
  | line :: rest =>
    let (loose, blocks) := blocksFrom (n + 1) rest
    if isHead line then ([], ⟨n, line, loose⟩ :: blocks) else (line :: loose, blocks)

def mark : Char := '\x60'

def trim (cs : List Char) : List Char := Text.trimEnd (Text.trimFront cs)

/-- The identifier in a head line: what stands between its first two marks. -/
def idOf (head : Line) : Except Cause String :=
  let head := trim head
  let behind := head.drop 3
  if isHead head && behind.contains mark then .ok (String.ofList (behind.takeWhile (· != mark)))
  else .error (.entryHeader (String.ofList head))

/-- A value without the marks around it, if it has just these two. -/
def unmarked (value : List Char) : List Char :=
  if value.head? == some mark && value.getLast? == some mark && value.count mark == 2 then
    (value.drop 1).dropLast
  else value

/-- The field of a line: a name and, behind a colon, a value. -/
def fieldOf? (line : Line) : Option (String × String) := do
  let line := trim line
  guard ("- ".toList.isPrefixOf line)
  let (name, value) ← Text.cutAt? [':'] (line.drop 2)
  return (String.ofList (trim name), String.ofList (unmarked (trim value)))

/-- The fields of some lines; of two with one name the later counts. -/
def fieldsOf (body : List Line) : Fields :=
  (body.filterMap fieldOf?).foldl (fun fields (name, value) => Fields.put name value fields) []

def requiredFields : List String := ["family", "layer", "status", "subsystem"]

def Block.entry (b : Block) : Except Cause Entry := do
  let id ← idOf b.head
  let fields := fieldsOf b.body
  let missing := requiredFields.filter fun name => (fields.lookup name).isNone
  if !missing.isEmpty then throw (.entryFields id missing)
  let entry : Entry := ⟨id, fields, b.start, b.stop⟩
  if (Status.ofText? (entry.field "status")).isNone then throw (.entryStatus id (entry.field "status"))
  return entry

/-- The entries of blocks, each behind those that have been read. -/
def entriesFrom (done : List Entry) : List Block → Except Cause (List Entry)
  | [] => .ok done
  | b :: rest => do
    let entry ← b.entry
    if done.any (·.id == entry.id) then throw (.duplicateEntry entry.id)
    entriesFrom (done ++ [entry]) rest

def entriesOf (lines : List Line) : Except Cause (List Entry) := do
  let (start, stop) ← bounds lines
  entriesFrom [] (blocksFrom start ((lines.take stop).drop start)).2

/-! ## 2. Tasks -/

structure Task where
  status : Option Status := none
  owner : Option String := none
deriving Repr, DecidableEq, Inhabited

/-- A task with another status; only a claimed one keeps its owner. -/
def Task.withStatus (t : Task) (status : Status) : Task :=
  ⟨some status, if status = .claimed then t.owner else none⟩

abbrev Tasks := List (String × Task)

def Tasks.put (id : String) (task : Task) : Tasks → Tasks
  | [] => [(id, task)]
  | (i, t) :: rest => if i = id then (id, task) :: rest else (i, t) :: Tasks.put id task rest

def Tasks.drop (tasks : Tasks) (id : String) : Tasks := tasks.filter (·.1 != id)

def Task.record (t : Task) : Fields :=
  (t.owner.toList.map fun o => ("owner", o)) ++ t.status.toList.map fun s => ("status", s.text)

/-- The fields of an entry once there is a record of its task. If the record is empty, they stay; if it has
    no owner, none is left. -/
def overlay (fields record : Fields) : Fields :=
  if record.isEmpty then fields
  else
    let fields := (record.lookup "status").elim fields fun s => Fields.put "status" s fields
    (record.lookup "owner").elim (fields.drop "owner") fun o => Fields.put "owner" o fields

def Entry.withTask (e : Entry) (task : Task) : Entry := { e with fields := overlay e.fields task.record }

def Entry.withTasks (e : Entry) (tasks : Tasks) : Entry := e.withTask ((tasks.lookup e.id).getD {})

/-- A text of a task; null counts as nothing. -/
def taskText (id : String) (task : Json) (key : String) : Except Cause (Option String) :=
  match task.field key with
  | .null => .ok none
  | .string s => .ok (some s)
  | _ => .error (.stateField id key)

def taskOf (id : String) : Json → Except Cause Task
  | .object fields => do
    let status ← taskText id (.object fields) "status"
    let owner ← taskText id (.object fields) "owner"
    match status with
    | none => return ⟨none, owner⟩
    | some word =>
      match Status.ofText? word with
      | some status => return ⟨some status, owner⟩
      | none => throw (.stateStatus id word)
  | _ => .error (.stateEntry id)

def tasksOf (path : String) : Json → Except Cause Tasks
  | .object fields => do
    let version := (fields.lookup "version").getD (.int 1)
    if !version.isOne then throw (.stateVersion version.shown)
    match (fields.lookup "tasks").getD (.object []) with
    | .object tasks => tasks.mapM fun (id, task) => return (id, ← taskOf id task)
    | _ => throw (.stateTasks path)
  | _ => .error (.stateFile path)

def Task.json (t : Task) : Json := .object (t.record.map fun (name, value) => (name, .string value))

def stateText (tasks : Tasks) : String :=
  let tasks := Json.object (tasks.map fun (id, task) => (id, task.json))
  (Json.object [("tasks", tasks), ("version", .int 1)]).sorted.render .tree ++ "\n"

/-! ## 3. The lock -/

structure Stamp where
  pid : Int
  time : Double
deriving Repr, DecidableEq

def Stamp.ofText? (text : List Char) : Option Stamp := do
  let (pid, time) ← Text.cutAt? [':'] (Text.trimSpace text)
  return ⟨← Text.readInteger? 10 pid, ← Double.ofText? time⟩

def Stamp.ofBytes? (bytes : List UInt8) : Option Stamp := (Text.decode bytes).toOption.bind Stamp.ofText?

def secondsOf (ticks : Nat) : Double :=
  if ticks = 0 then .finite false 0 0 else Double.ofFraction false ticks ticksPerSecond

def stampText (pid : Int) (now : Nat) : String := s!"{pid}:" ++ (secondsOf now).text

/-- Whether a time lies more than some seconds before another, which is given in ticks. -/
def isOlder (time : Double) (seconds now : Nat) : Bool :=
  match time with
  | .nan => false
  | .infinite isNegative => isNegative
  | .finite isNegative bits exponent =>
    let (num, den) := Double.scale 2 exponent bits 1
    let time : Int := if isNegative then -num else num
    (time + (seconds * den : Nat)) * ticksPerSecond < (now * den : Nat)

def staleSeconds : Nat := 300

/-- Whether a process is alive; no process has a number below one. -/
def isAlive (alive : List Int) (pid : Int) : Bool := 0 < pid && alive.contains pid

def Stamp.isStale (alive : List Int) (now : Nat) (s : Stamp) : Bool :=
  !isAlive alive s.pid || isOlder s.time staleSeconds now

/-- What stands at the path of the lock: nothing, a directory, or a file with its serial number and its
    bytes, if they can be read. -/
inductive Slot where
  | free
  | directory
  | file (serial : Nat) (bytes : Option (List UInt8))
deriving Repr, DecidableEq

def Slot.stamp? : Slot → Option Stamp
  | .file _ (some bytes) => Stamp.ofBytes? bytes
  | _ => none

/-- What processes share: the slot, the next serial number, the clock, and who is alive. -/
structure Shared where
  slot : Slot
  next : Nat := 0
  now : Nat
  alive : List Int

/-- What a process does next to take the lock, and its end: it holds the lock, or it has given up. -/
inductive Phase where
  | creating
  | stamping (serial : Nat)
  | reading
  | asking (stamp : Option Stamp)
  | unlinking
  | waiting
  | holding
  | refused (failure : Failure)
deriving Repr, DecidableEq

/-- A process that takes the lock at a path and does not wait beyond a time. -/
structure Taker where
  pid : Int
  path : Path
  deadline : Nat

def waitTicks : Nat := 429496730

def patience : Nat := 5

def Taker.step (t : Taker) (shared : Shared) : Phase → Phase × Shared
  | .creating =>
    match shared.slot with
    | .free =>
      (.stamping shared.next, { shared with slot := .file shared.next (some []), next := shared.next + 1 })
    | _ => (.reading, shared)
  | .stamping serial =>
    match shared.slot with
    | .file s _ =>
      let bytes := Text.encode (stampText t.pid shared.now)
      (.holding, if s = serial then { shared with slot := .file s (some bytes) } else shared)
    | _ => (.holding, shared)
  | .reading => (.asking shared.slot.stamp?, shared)
  | .asking none => (.unlinking, shared)
  | .asking (some stamp) =>
    (if stamp.isStale shared.alive shared.now then .unlinking else .waiting, shared)
  | .unlinking =>
    match shared.slot with
    | .directory => (.refused (.disk (.isDirectory t.path.text)), shared)
    | _ => (.creating, { shared with slot := .free })
  | .waiting =>
    if t.deadline ≤ shared.now then (.refused (.busy t.path.text), shared)
    else (.creating, { shared with now := shared.now + waitTicks })
  | .holding => (.holding, shared)
  | .refused failure => (.refused failure, shared)

/-- Steps of one process alone, up to its end or a number of steps. -/
def Taker.run (t : Taker) : Nat → Shared → Phase → Phase × Shared
  | 0, shared, phase => (phase, shared)
  | n + 1, shared, phase =>
    match phase with
    | .holding | .refused _ => (phase, shared)
    | _ => let (phase, shared) := t.step shared phase; t.run n shared phase

def stepsEnough : Nat := 4 * (patience * ticksPerSecond / waitTicks + 4)

def lockPath (p : Path) : Except Cause Path :=
  (p.withSuffix? (p.suffix ++ ".lock")).mapError .nameless

def lockPathOf (p : Path) : Action Path := do
  match lockPath p with
  | .ok lock => return lock
  | .error cause => refuse cause

def slotAt (disk : Disk) (p : Path) : Slot :=
  if disk.isDir p then .directory
  else
    match disk.files.lookup p.resolve with
    | some bytes => .file 0 bytes
    | none => .free

def withSlot (disk : Disk) (p : Path) : Slot → Disk
  | .free => disk.erase p
  | .directory => disk
  | .file _ bytes => disk.store p bytes

def readStamp (lock : Path) : Action (Option Stamp) := do return (slotAt (← get).disk lock).stamp?

/-- Whether the lock at a path has been left behind. -/
def isStaleAt (lock : Path) : Action Bool := do
  match ← readStamp lock with
  | none => return true
  | some stamp => return stamp.isStale (← read).alive (← get).now

def acquire (p : Path) : Action Unit := do
  let lock ← lockPathOf p
  makeDir lock.parent
  let host ← read
  let site ← get
  let taker : Taker := ⟨host.pid, lock, site.now + patience * ticksPerSecond⟩
  let shared : Shared := { slot := slotAt site.disk lock, next := 1, now := site.now, alive := host.alive }
  let (phase, shared) := taker.run stepsEnough shared .creating
  set { site with disk := withSlot site.disk lock shared.slot, now := shared.now }
  match phase with
  | .holding => return
  | .refused failure => throw failure
  | _ => throw (.busy lock.text)

def release (p : Path) : Action Unit := do
  let lock ← lockPathOf p
  changeDisk fun d => if d.isDir lock then .error (.isDirectory lock.text) else .ok (d.erase lock)

def locked {β : Type} (p : Path) (action : Action β) : Action β := do
  acquire p
  andThen action (release p)

/-! ## 4. Reading and changing -/

/-- Where the queue is kept: the list of things to do, and the states of tasks. -/
structure Store where
  todo : Path := repository.join ⟨"", ["TODO.md"]⟩
  state : Path := repository.join ⟨"", [".worktrees", "harness", "tasks.json"]⟩
deriving Repr, DecidableEq

namespace Store

def written (s : Store) : Action (List Entry) := do
  match entriesOf (linesOf (← readText s.todo)) with
  | .ok entries => return entries
  | .error cause => refuse cause

/-- The states of tasks; none if there is no file. -/
def tasks (s : Store) : Action Tasks := do
  if (← get).disk.has s.state then
    match tasksOf s.state.text (← readJson s.state) with
    | .ok tasks => return tasks
    | .error cause => refuse cause
  else return []

def load (s : Store) : Action (List Entry) := do
  let tasks ← s.tasks
  return (← s.written).map (·.withTasks tasks)

def entryFor (id : String) (entries : List Entry) : Action Entry :=
  match entries.find? (·.id == id) with
  | some entry => return entry
  | none => refuse (.unknownEntry id)

def find (s : Store) (id : String) : Action Entry := do entryFor id (← s.load)

def temporaryPath (p : Path) : Path := p.parent.join (Path.ofText (p.name ++ ".tmp.tmp"))

/-- Writes the states of tasks, first into a file beside the old one. -/
def save (s : Store) (tasks : Tasks) : Action Unit := do
  makeDir s.state.parent
  let temporary := temporaryPath s.state
  writeText temporary (stateText tasks)
  changeDisk fun d => do (d.erase temporary).write s.state (Text.encode (stateText tasks))

/-- Claims a task that is still to do. An empty owner is none. -/
def claim (s : Store) (id : String) (owner : Option String) : Action Entry :=
  locked s.state do
    let entry ← s.find id
    if entry.status? ≠ some Status.todo.text then refuse (.notClaimable id)
    let tasks ← s.tasks
    s.save (Tasks.put id ⟨some .claimed, owner.filter (· ≠ "")⟩ tasks)
    s.find id

/-- Gives a task another status. The one that is written in its entry needs no record. -/
def setStatus (s : Store) (id word : String) : Action Entry := do
  match Status.ofText? word with
  | none => refuse (.unknownStatus word)
  | some status =>
    locked s.state do
      let entry ← entryFor id (← s.written)
      let tasks ← s.tasks
      if entry.status? = some status.text then s.save (tasks.drop id)
      else s.save (Tasks.put id (((tasks.lookup id).getD {}).withStatus status) tasks)
      s.find id

end Store

/-! ## 5. The tool -/

def Entry.isTodo (e : Entry) : Bool := e.status? == some Status.todo.text

/-- Whether an entry comes before another: by layer, then by identifier. -/
def Entry.before (a b : Entry) : Bool :=
  let rank (e : Entry) : Nat := Frontier.layerRank (e.field "layer")
  rank a < rank b || (rank a = rank b && a.id ≤ b.id)

def ordered (entries : List Entry) : List Entry := (entries.filter Entry.isTodo).mergeSort Entry.before

def Store.next (s : Store) : Action (Option Entry) := do return (ordered (← s.load)).head?

open Arguments in
def storeOptions : List Spec := [⟨["--todo-path"], "todo", .any⟩, ⟨["--state-path"], "state", .any⟩]

open Arguments in
def commands : List (String × Usage) :=
  [("list", ⟨storeOptions, []⟩),
   ("claim", ⟨⟨["--owner"], "owner", .any⟩ :: storeOptions, [.single "task"]⟩),
   ("set-status", ⟨storeOptions, [.single "task", .single "status"]⟩),
   ("next", ⟨storeOptions, []⟩)]

def storeOf (m : Arguments.Matched) : Store :=
  ⟨pathOption m "todo" ({} : Store).todo, pathOption m "state" ({} : Store).state⟩

def tool (argv : List String) : Action Int :=
  withArguments (Arguments.readCommand commands argv) fun (command, m) => do
    let store := storeOf m
    let id := (m.text? "task").getD ""
    match command with
    | "list" => printJson (.ofList Entry.json (← store.load))
    | "claim" => printJson (← store.claim id (m.value? "owner")).json
    | "set-status" => printJson (← store.setStatus id ((m.text? "status").getD "")).json
    | _ => printJson (.ofOption Entry.json (← store.next))
    return 0

end CCompiler.Queue
