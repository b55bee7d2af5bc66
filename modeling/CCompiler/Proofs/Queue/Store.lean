import CCompiler.Proofs.Queue.File
import CCompiler.Proofs.Source.Seams
import CCompiler.Proofs.Upkeep.Disk

/-!
# The queue on a disk

Claiming a task and giving it another status read and write three files beside one another: the states of
tasks, the lock and a temporary file. Seen from outside, a call succeeds or fails, and changes what has
become of tasks.

* `acquire_ok`, `release_ok` -- a lock that nobody holds is taken and given back;
* `load_ok`, `save_ok` -- what is loaded, and what is there after a change;
* `perform_call` -- a call does what it says to the records of tasks, or fails and leaves them.
-/
namespace CCompiler.Queue

open List Upkeep

variable {p : Path} {β : Type} {tasks : Tasks}

/-! ## 1. The files -/

namespace Store

/-- The lock of a store. -/
def lock (s : Store) : Path := s.state.withSuffix (s.state.suffix ++ ".lock")

/-- The directory of the states, the lock and the temporary file. -/
def dir (s : Store) : Path := s.state.parent.resolve

/-- A store that can be used: the states have a name, which is one part of a path, and the list of things to
    do is none of the files that are changed. -/
structure Proper (s : Store) : Prop where
  named : s.state.name ≠ "" ∧ s.state.name ≠ ".."
  part : '/' ∉ s.state.name.toList
  apart : s.todo.resolve ∉ [s.state.resolve, s.lock.resolve, (temporaryPath s.state).resolve]

variable {s : Store}

theorem Proper.state_resolve (h : s.Proper) : s.state.resolve = s.dir.child s.state.name := by
  have hself : s.state.beside s.state.name = s.state := by
    have hne : s.state.parts ≠ [] := by
      intro hnil
      exact h.named.1 (by simp [Path.name, hnil])
    have hparts : s.state.parts.dropLast ++ [s.state.name] = s.state.parts := by
      rw [Path.name, getLastD_eq_getLast?, getLast?_eq_some_getLast hne]
      exact dropLast_concat_getLast hne
    rw [Path.beside, hparts]
  have hresolve := Path.resolve_beside s.state h.named.2
  rwa [hself] at hresolve

/-- A text does not end with one that makes it longer. -/
theorem append_ne {front back text : String} {n : Nat} (hn : back.length = n)
    (h : text.length < front.length + n) : front ++ back ≠ text := by
  rintro rfl
  rw [String.length_append] at h
  omega

theorem lock_resolve (s : Store) : s.lock.resolve = s.dir.child (s.state.stem ++ (s.state.suffix ++ ".lock")) := by
  refine Path.resolve_beside s.state ?_
  have : "..".length = 2 := by decide
  rw [← String.append_assoc]
  exact append_ne (n := 5) (by decide) (by omega)

theorem Proper.temporary_resolve (h : s.Proper) :
    (temporaryPath s.state).resolve = s.dir.child (s.state.name ++ ".tmp.tmp") := by
  have hlong : ∀ short : String, short.length < 8 → s.state.name ++ ".tmp.tmp" ≠ short :=
    fun _ hshort => append_ne (n := 8) (by decide) (by omega)
  have htemp : temporaryPath s.state = s.state.beside (s.state.name ++ ".tmp.tmp") := by
    have hplain : '/' ∉ (s.state.name ++ ".tmp.tmp").toList := by simp [String.toList_append, h.part]
    rw [temporaryPath, Path.ofText_name (hlong _ (by decide)) (hlong _ (by decide)) hplain]
    simp [Path.join, Path.isAbsolute, Path.parent, Path.beside]
  rw [htemp]
  exact Path.resolve_beside s.state (hlong _ (by decide))

theorem lock_name_ne (s : Store) : s.state.stem ++ (s.state.suffix ++ ".lock") ≠ s.state.name := by
  have hstem : s.state.stem.length = s.state.name.length - s.state.suffix.length := by
    rw [Path.stem, String.length_ofList, length_take, String.length_toList]
    omega
  rw [← String.append_assoc]
  refine append_ne (n := 5) (by decide) ?_
  rw [String.length_append]
  omega

/-! ## 2. What a disk holds -/

/-- What a disk holds for a store: the bytes of the list of things to do, those of the states if there are
    any, and no directory in the place of a file that is changed. -/
structure View (s : Store) (d : Disk) (todo : List UInt8) (state : Option (List UInt8)) : Prop where
  todo : d.files.lookup s.todo.resolve = some (some todo)
  state : d.files.lookup s.state.resolve = state.map some
  noDir : ∀ p ∈ [s.state, s.lock, temporaryPath s.state], d.isDir p = false

variable {d : Disk} {todo : List UInt8} {state : Option (List UInt8)}

/-- The files that are changed stand in one directory. -/
theorem Proper.changed (h : s.Proper) (hp : p ∈ [s.state, s.lock, temporaryPath s.state]) :
    ∃ name, p.resolve = s.dir.child name := by
  simp only [mem_cons, not_mem_nil, or_false] at hp
  rcases hp with rfl | rfl | rfl
  · exact ⟨_, h.state_resolve⟩
  · exact ⟨_, s.lock_resolve⟩
  · exact ⟨_, h.temporary_resolve⟩

/-- Making their directory makes no directory of them. -/
theorem Proper.noDir_makeDir (h : s.Proper) {p dir : Path} (hp : p ∈ [s.state, s.lock, temporaryPath s.state])
    (hdir : dir.resolve = s.dir) (hd : d.isDir p = false) : (d.makeDir dir).isDir p = false := by
  rw [Bool.eq_false_iff]
  intro hmade
  rcases (Disk.isDir_makeDir d dir p).mp hmade with hold | hnew
  · rw [hold] at hd
    cases hd
  · obtain ⟨name, hname⟩ := h.changed hp
    rw [hdir, hname] at hnew
    exact Disk.child_notMem_ancestry _ _ hnew

theorem dir_resolve (s : Store) : s.dir.resolve = s.dir := (Path.resolve_isResolved _).resolve_eq

/-- A file that is changed, stored or taken away leaves the rest of the view. -/
theorem View.store (hv : View s d todo state) (h : s.Proper)
    (hp : p ∈ [s.state, s.lock, temporaryPath s.state]) (bytes : List UInt8) :
    View s (d.store p (some bytes)) todo (if p.resolve = s.state.resolve then some bytes else state) := by
  have hdir : p.resolve.parent.resolve = s.dir := by
    obtain ⟨name, hname⟩ := h.changed hp
    rw [hname, Path.parent_child, dir_resolve]
  refine ⟨?_, ?_, fun q hq => h.noDir_makeDir hq hdir (hv.noDir q hq)⟩
  · rw [Disk.lookup_store, if_neg, hv.todo]
    intro heq
    exact h.apart (heq ▸ mem_map_of_mem hp)
  · rw [Disk.lookup_store]
    by_cases heq : p.resolve = s.state.resolve
    · rw [if_pos heq.symm, if_pos heq]
      rfl
    · rw [if_neg (Ne.symm heq), if_neg heq, hv.state]

theorem View.erase (hv : View s d todo state) (h : s.Proper)
    (hp : p ∈ [s.lock, temporaryPath s.state]) : View s (d.erase p) todo state := by
  have hother : s.state.resolve ≠ p.resolve := by
    simp only [mem_cons, not_mem_nil, or_false] at hp
    rw [h.state_resolve]
    rcases hp with rfl | rfl
    · rw [s.lock_resolve]
      exact fun heq => s.lock_name_ne (Path.child_injective heq).symm
    · rw [h.temporary_resolve]
      exact fun heq => append_ne (n := 8) (by decide) (by omega) (Path.child_injective heq).symm
  refine ⟨?_, ?_, hv.noDir⟩
  · rw [Disk.lookup_erase, if_neg, hv.todo]
    intro heq
    exact h.apart (heq ▸ mem_map_of_mem (mem_cons_of_mem s.state hp))
  · rw [Disk.lookup_erase, if_neg hother, hv.state]

theorem View.makeDir (hv : View s d todo state) (h : s.Proper) (dir : Path) (hdir : dir.resolve = s.dir) :
    View s (d.makeDir dir) todo state :=
  ⟨hv.todo, hv.state, fun p hp => h.noDir_makeDir hp hdir (hv.noDir p hp)⟩

/-! ## 3. The lock -/

/-- Nobody holds the lock: there is none, or what is there has been left behind. -/
def Unlocked (s : Store) (host : Host) (site : Site) : Prop :=
  ∀ stamp, (slotAt site.disk s.lock).stamp? = some stamp → stamp.isStale host.alive site.now = true

end Store

/-- A process alone takes a lock that nobody holds. -/
theorem Taker.run_holds (t : Taker) (shared : Shared) (hdir : shared.slot ≠ .directory)
    (hstale : ∀ stamp, shared.slot.stamp? = some stamp → stamp.isStale shared.alive shared.now) :
    ∃ serial bytes next, t.run stepsEnough shared .creating =
      (.holding, { shared with slot := .file serial (some bytes), next }) := by
  obtain ⟨more, hsteps⟩ : ∃ more, stepsEnough = more + 8 := ⟨stepsEnough - 8, by decide⟩
  have hheld : ∀ n shared, t.run n shared .holding = (.holding, shared) := by
    intro n shared
    cases n <;> rfl
  obtain ⟨slot, next, now, alive⟩ := shared
  have hfree : ∀ n, t.run (n + 2) ⟨.free, next, now, alive⟩ .creating =
      (.holding, ⟨.file next (some (Text.encode (stampText t.pid now))), next + 1, now, alive⟩) := by
    simp [Taker.run, Taker.step, hheld]
  refine ⟨next, Text.encode (stampText t.pid now), next + 1, ?_⟩
  rw [hsteps]
  cases slot with
  | free => exact hfree _
  | directory => exact absurd rfl hdir
  | file serial bytes =>
    -- reading and asking come to unlinking, and then the slot is free
    have hunlink : t.run (more + 8) ⟨.file serial bytes, next, now, alive⟩ .creating =
        t.run (more + 4) ⟨.free, next, now, alive⟩ .creating := by
      cases hstamp : (Slot.file serial bytes).stamp? with
      | none => simp [Taker.run, Taker.step, hstamp]
      | some stamp => simp [Taker.run, Taker.step, hstamp, hstale stamp hstamp]
    rw [hunlink]
    exact hfree _

namespace Store

variable {s : Store} {host : Host} {site : Site} {todo : List UInt8} {state : Option (List UInt8)}

theorem read_eq : (read : Action Host) host site = (.ok host, site) := rfl

theorem get_eq : (get : Action Site) host site = (.ok site, site) := rfl

theorem onDisk_ok (hf : f site.disk = .ok x) : onDisk f host site = (.ok x, site) := by
  unfold onDisk
  rw [bind_of_ok get_eq, hf]
  rfl

theorem onDisk_error (hf : f site.disk = .error fault) : onDisk f host site = (.error (.disk fault), site) := by
  unfold onDisk
  rw [bind_of_ok get_eq, hf]
  rfl

theorem changeDisk_ok (hf : f site.disk = .ok disk) : changeDisk f host site = (.ok (), { site with disk }) := by
  unfold changeDisk
  rw [bind_of_ok (onDisk_ok hf)]
  rfl

theorem lockPathOf_state (h : s.Proper) : lockPathOf s.state host site = (.ok s.lock, site) := by
  have hpath : lockPath s.state = .ok s.lock := by
    rw [lockPath, Path.withSuffix?, if_neg h.named.1]
    rfl
  unfold lockPathOf
  rw [hpath]
  rfl

variable (hv : View s site.disk todo state)

include hv

theorem slotAt_file : slotAt site.disk s.lock ≠ .directory := by
  rw [slotAt, hv.noDir s.lock (by simp)]
  simp only [Bool.false_eq_true, if_false]
  split <;> simp

/-- A lock that nobody holds is taken. -/
theorem acquire_ok (h : s.Proper) (hfree : s.Unlocked host site) :
    ∃ site', acquire s.state host site = (.ok (), site') ∧ View s site'.disk todo state := by
  have hparent : s.lock.parent.resolve = s.dir := congrArg Path.resolve (Path.parent_beside _ _)
  have hv' := hv.makeDir h _ hparent
  have hslot : slotAt (site.disk.makeDir s.lock.parent) s.lock = slotAt site.disk s.lock := by
    rw [slotAt, slotAt, hv.noDir s.lock (by simp), hv'.noDir s.lock (by simp), Disk.lookup_makeDir]
  obtain ⟨serial, bytes, next, hrun⟩ := Taker.run_holds ⟨host.pid, s.lock, site.now + patience * ticksPerSecond⟩
    ⟨slotAt site.disk s.lock, 1, site.now, host.alive⟩ (slotAt_file hv) hfree
  have hstored := hv'.store h (p := s.lock) (by simp) bytes
  have hother : s.lock.resolve ≠ s.state.resolve := by
    rw [s.lock_resolve, h.state_resolve]
    exact fun heq => s.lock_name_ne (Path.child_injective heq)
  rw [if_neg hother] at hstored
  refine ⟨{ site with disk := (site.disk.makeDir s.lock.parent).store s.lock (some bytes) }, ?_, hstored⟩
  have hmade : makeDir s.lock.parent host site =
      (.ok (), { site with disk := site.disk.makeDir s.lock.parent }) := rfl
  unfold acquire
  rw [bind_of_ok (lockPathOf_state h), bind_of_ok hmade]
  rw [bind_of_ok read_eq, bind_of_ok get_eq]
  rw [hslot, hrun]
  rfl

/-- The lock is given back. -/
theorem release_ok (host : Host) (h : s.Proper) :
    ∃ site', release s.state host site = (.ok (), site') ∧ View s site'.disk todo state ∧
      ∀ host', s.Unlocked host' site' := by
  refine ⟨{ site with disk := site.disk.erase s.lock }, ?_, hv.erase h (by simp), ?_⟩
  · unfold release
    rw [bind_of_ok (lockPathOf_state h)]
    have hchange : (if site.disk.isDir s.lock then Except.error (DiskFault.isDirectory s.lock.text)
        else .ok (site.disk.erase s.lock)) = .ok (site.disk.erase s.lock) := by
      rw [hv.noDir s.lock (by simp)]
      rfl
    exact changeDisk_ok hchange
  · intro host' stamp hstamp
    have hslot : slotAt (site.disk.erase s.lock) s.lock = .free := by
      rw [slotAt, Disk.isDir_erase, hv.noDir s.lock (by simp), Disk.lookup_erase, if_pos rfl]
      rfl
    rw [hslot] at hstamp
    cases hstamp

/-! ## 4. Reading and writing -/

/-- What the bytes of the list of things to do say. -/
def Lists (todo : List UInt8) (entries : List Entry) : Prop :=
  ∃ cs, Text.decode todo = .ok cs ∧ entriesOf (linesOf (String.ofList (Source.unifyLineEnds cs))) = .ok entries

/-- The record of a task among some. -/
def recordOf (tasks : Tasks) (id : String) : Option Task := tasks.lookup id

/-- What the bytes of the states say: the record of a task, if there is one. -/
def Records (state : Option (List UInt8)) (record : String → Option Task) : Prop :=
  (state = none ∧ record = fun _ => none) ∨
    ∃ tasks : Tasks, Distinct tasks ∧ state = some (Text.encode (stateText tasks)) ∧ record = recordOf tasks

omit hv in
theorem readText_ok (hfile : site.disk.files.lookup p.resolve = some (some bytes)) (hcs : Text.decode bytes = .ok cs) :
    readText p host site = (.ok (String.ofList (Source.unifyLineEnds cs)), site) := by
  have hread : site.disk.read p = .ok bytes := by
    rw [Disk.read, hfile]
  unfold readText
  rw [bind_of_ok (onDisk_ok hread), textOf, hcs]
  rfl

theorem written_ok {entries : List Entry} (hlist : Lists todo entries) :
    s.written host site = (.ok entries, site) := by
  obtain ⟨cs, hcs, hentries⟩ := hlist
  unfold written
  rw [bind_of_ok (readText_ok hv.todo hcs), hentries]
  rfl

/-- The tasks that are read are those that were written. -/
theorem tasks_ok (host : Host) {record : String → Option Task} (hrec : Records state record) :
    ∃ tasks : Tasks, s.tasks host site = (.ok tasks, site) ∧ Distinct tasks ∧ recordOf tasks = record := by
  have hnoDir := hv.noDir s.state (by simp)
  unfold tasks
  rw [bind_of_ok get_eq, Disk.has, Disk.isFile_eq, hv.state, hnoDir]
  rcases hrec with ⟨rfl, rfl⟩ | ⟨tasks, hdistinct, rfl, rfl⟩
  · exact ⟨[], rfl, nodup_nil, rfl⟩
  · refine ⟨tasks.inOrder, ?_, (tasks.inOrder_perm.map _).nodup_iff.mpr hdistinct,
      funext fun id => (lookup_perm tasks.inOrder_perm.symm hdistinct id).symm⟩
    have hplain := stateText_plain hdistinct
    have htext : readText s.state host site = (.ok (stateText tasks), site) := by
      refine (readText_ok hv.state (decode_encode fun c hc => (hplain c hc).1)).trans ?_
      rw [Source.unifyLineEnds_plain fun hmem => (hplain _ hmem).2 rfl, String.ofList_toList]
    have hjson : readJson s.state host site = (.ok (stateJson tasks).sorted, site) := by
      unfold readJson
      rw [bind_of_ok htext, stateText_eq, Json.parse_tree (readable_state hdistinct)]
      rfl
    rw [Option.map_some, Option.isSome_some, Bool.true_or, if_pos rfl, bind_of_ok hjson, tasksOf_state]
    rfl

/-- What is loaded are the entries with the records of their tasks. -/
theorem load_ok (hlist : Lists todo entries) (hrec : Records state record) :
    s.load host site = (.ok (entries.map fun e => e.withTask ((record e.id).getD {})), site) := by
  obtain ⟨tasks, htasks, -, rfl⟩ := tasks_ok hv host hrec
  unfold load
  rw [bind_of_ok htasks, bind_of_ok (written_ok hv hlist)]
  rfl

/-- After a change the states are those that were to be written. -/
theorem save_ok (host : Host) (h : s.Proper) (tasks : Tasks) : ∃ site', s.save tasks host site = (.ok (), site') ∧
      View s site'.disk todo (some (Text.encode (stateText tasks))) := by
  have hmade := hv.makeDir h s.state.parent rfl
  have htemp : ∀ d todo state, View s d todo state → d.write (temporaryPath s.state) (Text.encode (stateText tasks)) =
      .ok (d.store (temporaryPath s.state) (some (Text.encode (stateText tasks)))) := by
    intro d todo state hv
    rw [Disk.write, hv.noDir _ (by simp)]
    rfl
  have hstored := hmade.store h (p := temporaryPath s.state) (by simp) (Text.encode (stateText tasks))
  have herased := hstored.erase h (p := temporaryPath s.state) (by simp)
  have hsaved := herased.store h (p := s.state) (by simp) (Text.encode (stateText tasks))
  rw [if_pos rfl] at hsaved
  have hdir : makeDir s.state.parent host site =
      (.ok (), { site with disk := site.disk.makeDir s.state.parent }) := rfl
  refine ⟨{ site with disk := _ }, ?_, hsaved⟩
  unfold save
  rw [bind_of_ok hdir, writeText, bind_of_ok (changeDisk_ok (htemp _ _ _ hmade))]
  refine changeDisk_ok ?_
  rw [Disk.write, herased.noDir s.state (by simp)]
  rfl

/-! ## 5. Calls -/

/-- What is done between taking and giving back the lock is all that changes. -/
theorem locked_ok (h : s.Proper) (hfree : s.Unlocked host site) {action : Action β}
    {P : Except Failure β → Option (List UInt8) → Prop}
    (hbody : ∀ site, View s site.disk todo state → ∃ r site' state', action host site = (r, site') ∧
      View s site'.disk todo state' ∧ P r state') :
    ∃ r site' state', locked s.state action host site = (r, site') ∧ View s site'.disk todo state' ∧
      (∀ host', s.Unlocked host' site → s.Unlocked host' site') ∧ P r state' := by
  obtain ⟨site1, hacquire, hv1⟩ := acquire_ok hv h hfree
  obtain ⟨r, site2, state', haction, hv2, hP⟩ := hbody site1 hv1
  obtain ⟨site3, hrelease, hv3, hunlocked⟩ := release_ok hv2 host h
  refine ⟨r, site3, state', ?_, hv3, fun host' _ => hunlocked host', hP⟩
  unfold locked
  rw [bind_of_ok hacquire]
  exact andThen_of_cleanup haction hrelease

end Store

/-- A call: a task is claimed, perhaps for somebody, or gets the status of a word. -/
inductive Call where
  | claim (id : String) (owner : Option String)
  | setStatus (id word : String)
deriving Repr, DecidableEq

/-- The task of a call. -/
def Call.id : Call → String
  | .claim id _ => id
  | .setStatus id _ => id

/-- The call as an action. -/
def Call.perform (s : Store) : Call → Action Entry
  | .claim id owner => s.claim id owner
  | .setStatus id word => s.setStatus id word

/-- An entry with the record of its task. -/
def Entry.recorded (record : String → Option Task) (e : Entry) : Entry := e.withTask ((record e.id).getD {})

/-- The record that a call leaves of its task; nothing if it fails. -/
def Call.change? (entries : List Entry) (record : String → Option Task) : Call → Option (Option Task)
  | .claim id owner => do
    let e ← entries.find? (·.id == id)
    if (e.recorded record).status? = some Status.todo.text then
      some (some ⟨some .claimed, owner.filter (· ≠ "")⟩)
    else none
  | .setStatus id word => do
    let status ← Status.ofText? word
    let e ← entries.find? (·.id == id)
    some (if e.status? = some status.text then none else some (((record id).getD {}).withStatus status))

/-- Records with another one of a task. -/
def update (record : String → Option Task) (id : String) (task : Option Task) : String → Option Task :=
  fun i => if i = id then task else record i

/-- The records after a call. -/
def Call.after (entries : List Entry) (record : String → Option Task) (call : Call) : String → Option Task :=
  ((call.change? entries record).map (update record call.id)).getD record

namespace Store

theorem recordOf_put (id : String) (task : Task) (tasks : Tasks) :
    recordOf (Tasks.put id task tasks) = update (recordOf tasks) id (some task) :=
  funext fun i => Lookup.put (Tasks.put id task) rfl (fun _ _ _ => rfl) i tasks

theorem distinct_put (id : String) (task : Task) (h : Distinct tasks) : Distinct (Tasks.put id task tasks) := by
  have hnames : (Tasks.put id task tasks).map (·.1) =
      if id ∈ tasks.map (·.1) then tasks.map (·.1) else tasks.map (·.1) ++ [id] := by
    clear h
    induction tasks with
    | nil => rfl
    | cons t rest ih =>
      rw [Tasks.put]
      split
      · rename_i hname
        simp [hname]
      · rename_i hname
        rw [map_cons, ih]
        by_cases hmem : id ∈ rest.map (·.1)
        · simp [hmem]
        · simp [hmem, Ne.symm hname]
  unfold Distinct at h ⊢
  rw [hnames]
  split
  · exact h
  · rename_i hnew
    rw [nodup_append]
    refine ⟨h, by simp, fun name hname other hother heq => ?_⟩
    rw [mem_singleton] at hother
    exact hnew (hother ▸ heq ▸ hname)

variable {s : Store} {host : Host} {site : Site} {todo : List UInt8} {state : Option (List UInt8)}
  {entries : List Entry} {record : String → Option Task}

theorem find_recorded (id : String) : (entries.map (Entry.recorded record)).find? (·.id == id) =
      (entries.find? (·.id == id)).map (Entry.recorded record) := by
  rw [find?_map]
  rfl

/-- What a call does: it succeeds where it leaves a record, and leaves the others as they are. -/
def Done (entries : List Entry) (record : String → Option Task) (call : Call) (r : Except Failure Entry)
    (state' : Option (List UInt8)) : Prop :=
  r.isOk = (call.change? entries record).isSome ∧ Records state' (call.after entries record)

theorem done_of_error {call : Call} {r : Except Failure Entry} (hfail : call.change? entries record = none)
    (hr : r.isOk = false) (hrec : Records state record) : Done entries record call r state := by
  refine ⟨by rw [hfail, hr]; rfl, ?_⟩
  rw [Call.after, hfail]
  exact hrec

variable (hv : View s site.disk todo state) (hlist : Lists todo entries)

include hv hlist

/-- Finding a task. -/
theorem find_eq (hrec : Records state record) (id : String) : s.find id host site = ((entries.find? (·.id == id)).elim
      (.error (.value (.unknownEntry id))) fun e => .ok (e.recorded record), site) := by
  have hfind : (entries.map fun e => e.withTask ((record e.id).getD {})).find? (·.id == id) = _ := find_recorded id
  unfold find
  rw [bind_of_ok (load_ok hv hlist hrec), entryFor, hfind]
  cases entries.find? (·.id == id) <;> rfl

/-- The end of a call that saves tasks: the states are theirs, and the task is found. -/
theorem save_done (h : s.Proper) {call : Call} {task : Option Task}
    (hchange : call.change? entries record = some task) (hdistinct : Distinct tasks)
    (htasks : recordOf tasks = update record call.id task) {e : Entry}
    (he : entries.find? (·.id == call.id) = some e) :
    ∃ r site' state', (do s.save tasks; s.find call.id : Action Entry) host site = (r, site') ∧
      View s site'.disk todo state' ∧ Done entries record call r state' := by
  obtain ⟨site', hsave, hv'⟩ := save_ok hv host h tasks
  have hrec : Records (some (Text.encode (stateText tasks))) (recordOf tasks) := .inr ⟨tasks, hdistinct, rfl, rfl⟩
  refine ⟨.ok (e.recorded (recordOf tasks)), site', _, ?_, hv', by rw [hchange]; rfl, ?_⟩
  · rw [bind_of_ok hsave, find_eq hv' hlist hrec, he]
    rfl
  · rw [Call.after, hchange, Option.map_some, ← htasks]
    exact hrec

variable (h : s.Proper) (hfree : s.Unlocked host site) (hrec : Records state record)

include h hfree hrec

theorem claim_ok (id : String) (owner : Option String) :
    ∃ r site' state', s.claim id owner host site = (r, site') ∧ View s site'.disk todo state' ∧
      (∀ host', s.Unlocked host' site → s.Unlocked host' site') ∧
      Done entries record (.claim id owner) r state' := by
  refine locked_ok hv h hfree fun site1 hv1 => ?_
  have hfind : s.find id host site1 = _ := find_eq hv1 hlist hrec id
  cases he : entries.find? (·.id == id) with
  | none =>
    rw [he] at hfind
    refine ⟨_, site1, state, bind_of_error hfind, hv1, done_of_error ?_ rfl hrec⟩
    simp [Call.change?, he]
  | some e =>
    rw [he] at hfind
    rw [bind_of_ok hfind]
    by_cases htodo : (e.recorded record).status? = some Status.todo.text
    · have hchange : (Call.claim id owner).change? entries record =
          some (some ⟨some .claimed, owner.filter (· ≠ "")⟩) := by
        simp [Call.change?, he, htodo]
      obtain ⟨tasks, htasks, hdistinct, rfl⟩ := tasks_ok hv1 host hrec
      rw [if_neg (not_not_intro htodo)]
      dsimp only
      rw [bind_of_ok htasks]
      exact save_done hv1 hlist h hchange (distinct_put id _ hdistinct) (recordOf_put ..) he
    · refine ⟨.error (.value (.notClaimable id)), site1, state, ?_, hv1, done_of_error ?_ rfl hrec⟩
      · rw [if_pos htodo]
        rfl
      · simp [Call.change?, he, htodo]

theorem setStatus_ok (id word : String) :
    ∃ r site' state', s.setStatus id word host site = (r, site') ∧ View s site'.disk todo state' ∧
      (∀ host', s.Unlocked host' site → s.Unlocked host' site') ∧
      Done entries record (.setStatus id word) r state' := by
  unfold setStatus
  cases hstatus : Status.ofText? word with
  | none =>
    refine ⟨.error (.value (.unknownStatus word)), site, state, rfl, hv, fun _ h => h, done_of_error ?_ rfl hrec⟩
    simp [Call.change?, hstatus]
  | some status =>
    refine locked_ok hv h hfree fun site1 hv1 => ?_
    rw [bind_of_ok (written_ok hv1 hlist), entryFor]
    cases he : entries.find? (·.id == id) with
    | none =>
      refine ⟨.error (.value (.unknownEntry id)), site1, state, rfl, hv1, done_of_error ?_ rfl hrec⟩
      simp [Call.change?, he]
    | some e =>
      obtain ⟨tasks, htasks, hdistinct, rfl⟩ := tasks_ok hv1 host hrec
      have hpure : (pure e : Action Entry) host site1 = (.ok e, site1) := rfl
      rw [bind_of_ok hpure, bind_of_ok htasks]
      by_cases hsame : e.status? = some status.text
      · have hchange : (Call.setStatus id word).change? entries (recordOf tasks) = some none := by
          simp [Call.change?, hstatus, he, hsame]
        rw [if_pos hsame]
        exact save_done hv1 hlist h hchange (Nodup.sublist (filter_sublist.map _) hdistinct)
          (funext fun i => Lookup.filter_ne id i tasks) he
      · have hchange : (Call.setStatus id word).change? entries (recordOf tasks) =
            some (some (((recordOf tasks id).getD {}).withStatus status)) := by
          simp [Call.change?, hstatus, he, hsame]
        rw [if_neg hsame]
        exact save_done hv1 hlist h hchange (distinct_put id _ hdistinct) (recordOf_put ..) he

/-- **A call does what it says to the records of tasks, or fails and leaves them.** -/
theorem perform_call (call : Call) :
    ∃ r site' state', call.perform s host site = (r, site') ∧ View s site'.disk todo state' ∧
      (∀ host', s.Unlocked host' site → s.Unlocked host' site') ∧ Done entries record call r state' := by
  cases call with
  | claim id owner => exact claim_ok hv hlist h hfree hrec id owner
  | setStatus id word => exact setStatus_ok hv hlist h hfree hrec id word

end Store

end CCompiler.Queue
