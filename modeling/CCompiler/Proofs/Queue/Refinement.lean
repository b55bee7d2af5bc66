import Mathlib.Data.List.Nodup
import CCompiler.Proofs.Queue.Store

/-!
# The queue as a board of statuses

Whatever files hold, the queue is a board that shows a status for each task. A task that is to do can be
claimed, and any task can get any status; all else fails and changes nothing.

* `Call.board_step` -- one call does to the board what it says;
* `Store.performAll_ok` -- what the disk holds after any calls;
* `Store.queue_refines_board` -- the statuses and owners that are reported after any calls.
-/
namespace CCompiler.Queue

open List Upkeep
open Status (claimed ofText? ofText?_text text todo)
open Option (bind_some map_some getD_some bind_eq_some_iff isSome_iff_exists)
open Entry (recorded)

variable {id : String} {calls later : List (Host × Call)}

/-! ## 1. Boards -/

/-- The statuses of tasks. -/
abbrev Board := String → Option Status

namespace Board

/-- The board with another status of a task. -/
def set (b : Board) (id : String) (status : Status) : Board := fun i => if i = id then some status else b i

/-- The board after a call, if it succeeds. -/
def step? (b : Board) : Call → Option Board
  | .claim id _ => if b id = some .todo then some (b.set id .claimed) else none
  | .setStatus id word => do
    let status ← ofText? word
    if (b id).isSome then some (b.set id status) else none

/-- The board after calls; those that fail change nothing. -/
def run (b : Board) (calls : List Call) : Board := calls.foldl (fun b call => (b.step? call).getD b) b

/-- The board of some entries. -/
def ofEntries (entries : List Entry) : Board :=
  fun id => (entries.find? (·.id == id)).bind fun e => e.status?.bind ofText?

end Board

/-! ## 2. Entries with records -/

theorem Status.text_of_ofText? (h : ofText? word = some status) : status.text = word := by
  simpa using find?_some h

theorem Fields.lookup_put (name value : String) (fields : Fields) (key : String) :
    (Fields.put name value fields).lookup key = if key = name then some value else fields.lookup key :=
  Lookup.put (Fields.put name value) rfl (fun _ _ _ => rfl) key fields

theorem Fields.lookup_drop (fields : Fields) (name key : String) :
    (Fields.drop fields name).lookup key = if key = name then none else fields.lookup key :=
  Lookup.filter_ne name key fields

variable {record : String → Option Task} {entries : List Entry} {e : Entry}

/-- The status that is reported: that of the record, or the one that is written. -/
theorem status_withTask (e : Entry) (t : Task) : (e.withTask t).status? = (t.status.map text).or e.status? := by
  obtain ⟨status, owner⟩ := t
  cases status <;> cases owner <;>
    simp [Entry.withTask, Entry.status?, overlay, Task.record, Fields.lookup_put, Fields.lookup_drop, lookup_cons]

/-- The owner that is reported: that of the record, if it has a status. -/
theorem Entry.owner_withTask (e : Entry) (h : t.status.isSome) :
    (e.withTask t).fields.lookup "owner" = t.owner := by
  obtain ⟨status, owner⟩ := t
  cases status with
  | none => cases h
  | some status =>
    cases owner <;> simp [Entry.withTask, overlay, Task.record, Fields.lookup_put, Fields.lookup_drop, lookup_cons]

/-- A record without an owner leaves none, or the one that is written. -/
theorem Entry.owner_withTask_none (e : Entry) (h : t.owner = none) :
    (e.withTask t).fields.lookup "owner" = none ∨ (e.withTask t).fields.lookup "owner" = e.fields.lookup "owner" := by
  obtain ⟨status, owner⟩ := t
  cases status with
  | none =>
    subst h
    exact .inr rfl
  | some status => exact .inl ((e.owner_withTask rfl).trans h)

/-- Entries as they are read: each identifier once, and each status a known one. -/
structure Valid (entries : List Entry) : Prop where
  nodup : (entries.map Entry.id).Nodup
  status : ∀ e ∈ entries, ∃ status : Status, e.status? = some status.text

theorem id_of_find (h : entries.find? (·.id == id) = some e) : e.id = id := by
  simpa using find?_some h

theorem Valid.find_of_mem (h : Valid entries) (he : e ∈ entries) : entries.find? (·.id == e.id) = some e := by
  cases hfind : entries.find? (·.id == e.id) with
  | none =>
    have hne := find?_eq_none.mp hfind e he
    simp at hne
  | some found =>
    rw [inj_on_of_nodup_map h.nodup (mem_of_find?_eq_some hfind) he (id_of_find hfind)]

theorem Block.status_of_entry {b : Block} (h : b.entry = .ok e) : ∃ status : Status, e.status? = some status.text := by
  obtain ⟨id, -, h⟩ := bind_ok h
  dsimp only at h
  split at h
  · cases h
  split at h
  · cases h
  rename_i hstatus
  cases h
  -- an entry without a status would have the empty word for it, which is none
  cases hword : (fieldsOf b.body).lookup "status" with rw [Entry.field, hword] at hstatus
  | none => exact absurd rfl hstatus
  | some word =>
    rw [Option.isNone_iff_eq_none] at hstatus
    obtain ⟨status, hof⟩ := Option.ne_none_iff_exists'.mp hstatus
    exact ⟨status, Status.text_of_ofText? hof ▸ hword⟩

theorem valid_entriesFrom {done : List Entry} (hdone : Valid done) {blocks : List Block}
    (h : entriesFrom done blocks = .ok entries) : Valid entries := by
  induction blocks generalizing done with
  | nil =>
    injection h with h
    exact h ▸ hdone
  | cons b rest ih =>
    obtain ⟨entry, hb, h⟩ := bind_ok h
    split at h
    · cases h
    rename_i hold
    refine ih ⟨?_, ?_⟩ h
    · rw [map_append, nodup_append]
      refine ⟨hdone.nodup, by simp, fun id hid other hother heq => hold ?_⟩
      obtain ⟨e, he, rfl⟩ := mem_map.mp hid
      rw [map_singleton, mem_singleton] at hother
      exact any_eq_true.mpr ⟨e, he, by simp [heq, hother]⟩
    · exact forall_mem_append.mpr ⟨hdone.status, forall_mem_singleton.mpr (Block.status_of_entry hb)⟩

theorem Store.Lists.valid {todo : List UInt8} (h : Lists todo entries) : Valid entries := by
  obtain ⟨cs, -, h⟩ := h
  obtain ⟨range, -, h⟩ := bind_ok h
  have hnil : Valid [] := ⟨nodup_nil, nofun⟩
  exact valid_entriesFrom hnil h

/-! ## 3. One call -/

/-- The status on the board: that of the record, or the one that is written. -/
theorem board_recorded (id : String) : Board.ofEntries (entries.map (recorded record)) id =
      (entries.find? (·.id == id)).bind fun e => ((record id).getD {}).status.or (e.status?.bind ofText?) := by
  rw [Board.ofEntries, Store.find_recorded]
  cases he : entries.find? (·.id == id) with
  | none => rfl
  | some e =>
    rw [map_some, bind_some, recorded, status_withTask, id_of_find he]
    cases ((record id).getD {}).status with
    | none => rfl
    | some status => exact ofText?_text status

/-- An entry is reported with the status that the board shows. -/
theorem Valid.status_recorded (h : Valid entries) (record : String → Option Task)
    (he : entries.find? (·.id == id) = some e) :
    ∃ status : Status, (e.recorded record).status? = some status.text ∧
      Board.ofEntries (entries.map (recorded record)) id = some status := by
  obtain ⟨written, hwritten⟩ := h.status e (mem_of_find?_eq_some he)
  rw [board_recorded, he, bind_some, recorded, status_withTask, id_of_find he, hwritten]
  cases ((record id).getD {}).status with
  | none => exact ⟨written, rfl, ofText?_text written⟩
  | some status => exact ⟨status, rfl, rfl⟩

theorem Status.text_injective {a b : Status} (h : a.text = b.text) : a = b := by
  have hsome := ofText?_text a
  rw [h, ofText?_text] at hsome
  exact (Option.some.inj hsome).symm

/-- A call that succeeds puts a status onto the board. -/
theorem board_update (he : entries.find? (·.id == id) = some e)
    (hstatus : (task.getD {}).status.or (e.status?.bind ofText?) = some status) :
    Board.ofEntries (entries.map (recorded (update record id task))) =
      (Board.ofEntries (entries.map (recorded record))).set id status := by
  funext i
  rw [Board.set, board_recorded, board_recorded]
  by_cases hi : i = id
  · subst hi
    rw [if_pos rfl, he, bind_some, update, if_pos rfl, hstatus]
  · rw [if_neg hi, update, if_neg hi]

/-- **One call does to the board what it says**: it succeeds where the board can make the step. -/
theorem Call.board_step (h : Valid entries) (record : String → Option Task) (call : Call) :
    (call.change? entries record).isSome = ((Board.ofEntries (entries.map (recorded record))).step? call).isSome ∧
      Board.ofEntries (entries.map (recorded (call.after entries record))) =
        ((Board.ofEntries (entries.map (recorded record))).step? call).getD
          (Board.ofEntries (entries.map (recorded record))) := by
  cases call with
  | claim id owner =>
    cases he : entries.find? (·.id == id) with
    | none => simp [after, change?, Board.step?, board_recorded, he]
    | some e =>
      obtain ⟨status, hstatus, hboard⟩ := h.status_recorded record he
      by_cases htodo : status = .todo
      · subst htodo
        simp only [after, change?, Board.step?, he, hstatus, hboard, bind, bind_some, if_true]
        exact ⟨rfl, board_update he rfl⟩
      · have hne : status.text ≠ todo.text := fun heq => htodo (Status.text_injective heq)
        simp [after, change?, Board.step?, he, hstatus, hboard, hne, htodo]
  | setStatus id word =>
    cases hword : ofText? word with
    | none => simp [after, change?, Board.step?, hword]
    | some status =>
      cases he : entries.find? (·.id == id) with
      | none => simp [after, change?, Board.step?, board_recorded, he, hword]
      | some e =>
        obtain ⟨old, -, hboard⟩ := h.status_recorded record he
        simp only [after, change?, Board.step?, he, hword, hboard, bind, bind_some, Option.isSome_some, if_true]
        refine ⟨trivial, board_update he ?_⟩
        split
        · rename_i hsame
          rw [hsame]
          exact ofText?_text status
        · rfl

/-- A call leaves the records of other tasks. -/
theorem Call.after_of_ne (call : Call) (h : id ≠ call.id) : call.after entries record id = record id := by
  unfold after
  cases call.change? entries record with
  | none => rfl
  | some task => exact if_neg h

/-- The owner of a claimed task stays, as long as the task gets no other status. -/
theorem Call.keeps_owner (call : Call) (h : record id = some ⟨some .claimed, some owner⟩)
    (hcall : ∀ word, call ≠ .setStatus id word) :
    call.after entries record id = some ⟨some .claimed, some owner⟩ := by
  by_cases hid : id = call.id
  · cases call with
    | setStatus i word => exact absurd (congrArg (Call.setStatus · word) hid.symm) (hcall word)
    | claim i other =>
      obtain rfl : id = i := hid
      -- the task is no longer to do, so it cannot be claimed again
      have hfail : (Call.claim id other).change? entries record = none := by
        cases he : entries.find? (·.id == id) with
        | none => simp [change?, he]
        | some e =>
          have hstatus : (e.recorded record).status? = some claimed.text := by
            rw [recorded, id_of_find he, h, status_withTask]
            rfl
          simp only [change?, he, bind, bind_some, hstatus]
          exact if_neg (by decide)
      rw [after, hfail]
      exact h
  · rw [call.after_of_ne hid, h]

/-- A task without an owner gets none, unless it is claimed. -/
theorem Call.keeps_unowned (call : Call) (h : ((record id).getD {}).owner = none)
    (hcall : ∀ owner, call ≠ .claim id owner) : ((call.after entries record id).getD {}).owner = none := by
  by_cases hid : id = call.id
  · cases call with
    | claim i owner => exact absurd (congrArg (Call.claim · owner) hid.symm) (hcall owner)
    | setStatus i word =>
      obtain rfl : id = i := hid
      rw [after]
      cases hchange : (Call.setStatus id word).change? entries record with
      | none => exact h
      | some task =>
        simp only [map_some, getD_some, update, Call.id, if_true]
        simp only [change?, bind, bind_eq_some_iff, Option.some.injEq] at hchange
        obtain ⟨status, -, e, -, rfl⟩ := hchange
        split
        · rfl
        · simp only [getD_some, Task.withStatus, h, ite_self]
  · rwa [call.after_of_ne hid]

/-! ## 4. Many calls -/

/-- The records after calls. -/
def recordsAfter (entries : List Entry) (calls : List (Host × Call)) (record : String → Option Task) :
    String → Option Task :=
  calls.foldl (fun record c => c.2.after entries record) record

theorem recordsAfter_append (before later : List (Host × Call)) :
    recordsAfter entries (before ++ later) record = recordsAfter entries later (recordsAfter entries before record) :=
  foldl_append

theorem board_run (h : Valid entries) (calls : List (Host × Call)) (record : String → Option Task) :
    Board.ofEntries (entries.map (recorded (recordsAfter entries calls record))) =
      (Board.ofEntries (entries.map (recorded record))).run (calls.map (·.2)) := by
  induction calls generalizing record with
  | nil => rfl
  | cons c rest ih =>
    rw [map_cons, Board.run, foldl_cons, ← (c.2.board_step h record).2]
    exact ih _

/-- What calls on a record keep, if each does. -/
theorem recordsAfter_keeps (entries : List Entry) {P : (String → Option Task) → Prop}
    (hstep : ∀ c ∈ calls, ∀ record, P record → P (c.2.after entries record)) (h : P record) :
    P (recordsAfter entries calls record) := by
  induction calls generalizing record with
  | nil => exact h
  | cons c rest ih =>
    exact ih (forall_mem_cons.mp hstep).2 (hstep c mem_cons_self record h)

namespace Store

/-- The site after calls, each by a process on some host. -/
def after (s : Store) (site : Site) (calls : List (Host × Call)) : Site :=
  calls.foldl (fun site c => (c.2.perform s c.1 site).2) site

/-- The entries that are reported. -/
def reported (s : Store) (site : Site) : Except Failure (List Entry) := (s.load {} site).1

variable {s : Store} {site : Site} {todo : List UInt8} {state : Option (List UInt8)}

/-- **What the disk holds after any calls**: the list of things to do is as it was, and the states are the
    records that the calls leave. -/
theorem performAll_ok (h : s.Proper) (hlist : Lists todo entries)
    (hv : View s site.disk todo state) (hrec : Records state record)
    (hfree : ∀ c ∈ calls, s.Unlocked c.1 site) :
    ∃ state', View s (s.after site calls).disk todo state' ∧ Records state' (recordsAfter entries calls record) ∧
      ∀ host, s.Unlocked host site → s.Unlocked host (s.after site calls) := by
  induction calls generalizing site state record with
  | nil => exact ⟨state, hv, hrec, fun _ hhost => hhost⟩
  | cons c rest ih =>
    obtain ⟨r, site1, state1, hrun, hv1, hkeep, -, hrec1⟩ :=
      perform_call hv hlist h (hfree c mem_cons_self) hrec c.2
    obtain ⟨state2, hv2, hrec2, hkeep2⟩ :=
      ih hv1 hrec1 fun d hd => hkeep d.1 (hfree d (mem_cons_of_mem c hd))
    have hafter : s.after site (c :: rest) = s.after site1 rest := by
      rw [after, foldl_cons, hrun]
      rfl
    rw [hafter]
    exact ⟨state2, hv2, hrec2, fun host hhost => hkeep2 host (hkeep host hhost)⟩

/-! ## 5. The queue from its start -/

/-- A queue at its start: the list of things to do can be read and has entries, there are no states yet, and
    no directory is in the way of the files that are written. -/
structure Ready (s : Store) (site : Site) (entries : List Entry) : Prop where
  proper : s.Proper
  listed : (s.written {} site).1 = .ok entries
  fresh : site.disk.has s.state = false
  noDir : site.disk.isDir s.lock = false ∧ site.disk.isDir (temporaryPath s.state) = false

theorem lists_of_written (h : (s.written {} site).1 = .ok entries) :
    ∃ todo, site.disk.files.lookup s.todo.resolve = some (some todo) ∧ Lists todo entries := by
  unfold written at h
  cases hread : site.disk.read s.todo with
  | error fault =>
    have htext : readText s.todo {} site = (.error (.disk fault), site) := bind_of_error (onDisk_error hread)
    rw [bind_of_error htext] at h
    cases h
  | ok todo =>
    have hfile : site.disk.files.lookup s.todo.resolve = some (some todo) := by
      unfold Disk.read at hread
      split at hread <;> cases hread
      assumption
    refine ⟨todo, hfile, ?_⟩
    cases hcs : Text.decode todo with
    | error fault =>
      have htext : readText s.todo {} site = (.error (.text fault), site) := by
        unfold readText
        rw [bind_of_ok (onDisk_ok hread), textOf, hcs]
        rfl
      rw [bind_of_error htext] at h
      cases h
    | ok cs =>
      rw [bind_of_ok (readText_ok hfile hcs)] at h
      refine ⟨cs, hcs, ?_⟩
      cases hentries : entriesOf (linesOf (String.ofList (Source.unifyLineEnds cs))) with rw [hentries] at h
      | error cause => cases h
      | ok found =>
        cases h
        rfl

/-- The view of a disk at the start. -/
theorem Ready.view (h : s.Ready site entries) : ∃ todo, View s site.disk todo none ∧ Lists todo entries := by
  obtain ⟨todo, hfile, hlist⟩ := lists_of_written h.listed
  have hfresh := h.fresh
  rw [Disk.has, Bool.or_eq_false_iff, Disk.isFile_eq, Option.isSome_eq_false_iff, Option.isNone_iff_eq_none] at hfresh
  refine ⟨todo, ⟨hfile, hfresh.1, ?_⟩, hlist⟩
  intro p hp
  simp only [mem_cons, not_mem_nil, or_false] at hp
  rcases hp with rfl | rfl | rfl
  · exact hfresh.2
  · exact h.noDir.1
  · exact h.noDir.2

/-- What is reported after any calls. -/
theorem Ready.reported_after (h : s.Ready site entries) (hfree : ∀ c ∈ calls, s.Unlocked c.1 site) :
    s.reported (s.after site calls) = .ok (entries.map (recorded (recordsAfter entries calls fun _ => none))) := by
  obtain ⟨todo, hv, hlist⟩ := h.view
  obtain ⟨state, hv', hrec, -⟩ := performAll_ok h.proper hlist hv (.inl ⟨rfl, rfl⟩) hfree
  rw [reported, load_ok hv' hlist hrec]
  rfl

/-- A call after others succeeds exactly if it changes a record. -/
theorem Ready.perform_after (h : s.Ready site entries)
    (hfree : ∀ c ∈ calls, s.Unlocked c.1 site) (hhost : s.Unlocked host site) (call : Call) :
    (call.perform s host (s.after site calls)).1.isOk =
      (call.change? entries (recordsAfter entries calls fun _ => none)).isSome := by
  obtain ⟨todo, hv, hlist⟩ := h.view
  obtain ⟨state, hv', hrec, hkeep⟩ := performAll_ok h.proper hlist hv (.inl ⟨rfl, rfl⟩) hfree
  obtain ⟨r, site', state', hrun, -, -, hok, -⟩ := perform_call hv' hlist h.proper (hkeep host hhost) hrec call
  rw [hrun, hok]

/-- At the start entries are reported as they are written. -/
theorem recorded_none (entries : List Entry) : entries.map (recorded fun _ => none) = entries :=
  (map_congr_left fun _ _ => rfl).trans (map_id entries)

end Store

/-- The owner of a task among entries. -/
def ownerOf (entries : List Entry) (id : String) : Option String :=
  (entries.find? (·.id == id)).bind fun e => e.fields.lookup "owner"

theorem ownerOf_recorded (id : String) : ownerOf (entries.map (recorded record)) id =
      (entries.find? (·.id == id)).bind fun e => (e.withTask ((record id).getD {})).fields.lookup "owner" := by
  rw [ownerOf, Store.find_recorded]
  cases he : entries.find? (·.id == id) with
  | none => rfl
  | some e =>
    rw [map_some, bind_some, bind_some, recorded, id_of_find he]

theorem find_of_change {call : Call} (h : (call.change? entries record).isSome) :
    ∃ e task, entries.find? (·.id == call.id) = some e ∧ call.change? entries record = some task := by
  obtain ⟨task, htask⟩ := isSome_iff_exists.mp h
  cases call with
  | claim id owner =>
    obtain ⟨e, he, -⟩ := bind_eq_some_iff.mp htask
    exact ⟨e, task, he, htask⟩
  | setStatus id word =>
    obtain ⟨status, -, hfound⟩ := bind_eq_some_iff.mp htask
    obtain ⟨e, he, -⟩ := bind_eq_some_iff.mp hfound
    exact ⟨e, task, he, htask⟩

/-- The owner of a successful claim is there until the task gets another status. -/
theorem owner_of_claim {id owner : String} (howner : owner ≠ "")
    (hok : ((Call.claim id (some owner)).change? entries record).isSome)
    (hlater : ∀ c ∈ later, ∀ word, c.2 ≠ .setStatus id word) :
    ownerOf (entries.map (recorded
      (recordsAfter entries later ((Call.claim id (some owner)).after entries record)))) id = some owner := by
  obtain ⟨e, task, he, htask⟩ := find_of_change hok
  have hclaimed : (Call.claim id (some owner)).after entries record id = some ⟨some .claimed, some owner⟩ := by
    rw [Call.after, htask]
    simp only [Call.change?, bind, bind_eq_some_iff] at htask
    obtain ⟨e, -, htask⟩ := htask
    split at htask
    · simp [← htask, update, Call.id, howner]
    · cases htask
  have hkept := recordsAfter_keeps entries (P := fun record => record id = some ⟨some .claimed, some owner⟩)
    (fun c hc record hrecord => c.2.keeps_owner hrecord (hlater c hc)) hclaimed
  rw [ownerOf_recorded, show entries.find? (·.id == id) = some e from he, bind_some, hkept]
  exact e.owner_withTask rfl

/-- After a status other than claimed there is no owner but the one that is written, until the next claim. -/
theorem owner_of_setStatus {id word : String} (hword : word ≠ claimed.text)
    (hok : ((Call.setStatus id word).change? entries record).isSome)
    (hlater : ∀ c ∈ later, ∀ owner, c.2 ≠ .claim id owner) :
    let now := entries.map (recorded (recordsAfter entries later ((Call.setStatus id word).after entries record)))
    ownerOf now id = none ∨ ownerOf now id = ownerOf entries id := by
  obtain ⟨e, task, he, htask⟩ := find_of_change hok
  have hunowned : (((Call.setStatus id word).after entries record id).getD {}).owner = none := by
    rw [Call.after, htask]
    simp only [map_some, getD_some, update, Call.id, if_true]
    simp only [Call.change?, bind, bind_eq_some_iff, Option.some.injEq] at htask
    obtain ⟨status, hstatus, e, -, rfl⟩ := htask
    have hne : status ≠ .claimed := fun heq => hword ((Status.text_of_ofText? hstatus).symm.trans (congrArg _ heq))
    split
    · rfl
    · simp only [getD_some, Task.withStatus, hne, if_false]
  have hkept := recordsAfter_keeps entries (P := fun record => ((record id).getD {}).owner = none)
    (fun c hc record hrecord => c.2.keeps_unowned hrecord (hlater c hc)) hunowned
  intro now
  have hfound : entries.find? (·.id == id) = some e := he
  rw [show ownerOf now id = _ from ownerOf_recorded id, ownerOf, hfound]
  exact e.owner_withTask_none hkept

/-- **The queue refines a board of statuses.** After any calls, made one at a time, the statuses that are
    reported are those of the board. A call succeeds exactly if the board can make its step, one that fails
    changes nothing, and none changes another task. The owner of a claim is reported until the task gets
    another status; after one other than claimed no owner is reported but the one that is written, until the
    next claim. -/
theorem Store.queue_refines_board {s : Store} {site : Site} {entries : List Entry} (h : s.Ready site entries)
    (calls : List (Host × Call)) (hfree : ∀ c ∈ calls, s.Unlocked c.1 site) :
    ∃ now, s.reported (s.after site calls) = .ok now ∧ now.map (fun e => (e.id, e.status?)) = entries.map (fun e =>
        (e.id, ((Board.ofEntries entries).run (calls.map (·.2)) e.id).map text)) ∧
      ∀ before c later, calls = before ++ c :: later → ∃ old new, s.reported (s.after site before) = .ok old ∧
          s.reported (s.after site (before ++ [c])) = .ok new ∧
          let ok := (c.2.perform s c.1 (s.after site before)).1.isOk
          ok = (((Board.ofEntries entries).run (before.map (·.2))).step? c.2).isSome ∧
          (ok = false → new = old) ∧
          (∀ id, id ≠ c.2.id → new.find? (·.id == id) = old.find? (·.id == id)) ∧
          (∀ id owner, c.2 = .claim id (some owner) → owner ≠ "" → ok = true →
            (∀ d ∈ later, ∀ word, d.2 ≠ .setStatus id word) → ownerOf now id = some owner) ∧
          (∀ id word, c.2 = .setStatus id word → word ≠ claimed.text → ok = true →
            (∀ d ∈ later, ∀ owner, d.2 ≠ .claim id owner) →
              ownerOf now id = none ∨ ownerOf now id = ownerOf entries id) := by
  obtain ⟨todo, -, hlist⟩ := h.view
  have hvalid := hlist.valid
  have hrun := fun calls => board_run hvalid calls fun _ => none
  simp only [Store.recorded_none] at hrun
  refine ⟨_, h.reported_after hfree, ?_, ?_⟩
  · rw [← hrun, List.map_map]
    refine List.map_congr_left fun e he => ?_
    obtain ⟨status, hstatus, hboard⟩ :=
      hvalid.status_recorded (recordsAfter entries calls fun _ => none) (hvalid.find_of_mem he)
    rw [hboard, Option.map_some, ← hstatus]
    rfl
  · rintro before ⟨host, call⟩ later rfl
    have hbefore : ∀ c ∈ before, s.Unlocked c.1 site := fun c hc => hfree c (List.mem_append_left _ hc)
    have hhost : s.Unlocked host site := hfree (host, call) (by simp)
    have hnext : ∀ c ∈ before ++ [(host, call)], s.Unlocked c.1 site := by
      intro c hc
      refine hfree c ?_
      rw [List.append_cons]
      exact List.mem_append_left _ hc
    refine ⟨_, _, h.reported_after hbefore, h.reported_after hnext, ?_⟩
    have hok := h.perform_after hbefore hhost call
    rw [recordsAfter_append, recordsAfter_append]
    rw [hok]
    refine ⟨?_, ?_, ?_, ?_, ?_⟩
    · rw [← hrun before]
      exact (call.board_step hvalid _).1
    · intro hfail
      have hnone := Option.isSome_eq_false_iff.mp hfail
      rw [Option.isNone_iff_eq_none] at hnone
      show entries.map (Entry.recorded (call.after entries _)) = _
      rw [Call.after, hnone]
      rfl
    · intro id hid
      rw [Store.find_recorded, Store.find_recorded]
      cases he : entries.find? (·.id == id) with
      | none => rfl
      | some e =>
        show some (e.withTask ((call.after entries _ e.id).getD {})) = some (e.withTask _)
        rw [id_of_find he, call.after_of_ne hid]
    · rintro id owner rfl howner hsome hlater
      exact owner_of_claim howner hsome hlater
    · rintro id word rfl hword hsome hlater
      exact owner_of_setStatus hword hsome hlater

/-- A store at the root of a disk. -/
def rootStore : Store := ⟨⟨"/", ["t"]⟩, ⟨"/", ["s"]⟩⟩

/-- A disk with a list of one thing to do. -/
def rootSite : Site where
  disk := { files := [(⟨"/", ["t"]⟩, some (Text.encode
    "## Harness Queue\n- `T1`\n  - family: f\n  - layer: l\n  - status: todo\n  - subsystem: s\n"))] }

theorem rootStore_lock : rootStore.lock = ⟨"/", ["s.lock"]⟩ := by decide +kernel

theorem rootStore_ready : rootStore.Ready rootSite
    [⟨"T1", [("family", "f"), ("layer", "l"), ("status", "todo"), ("subsystem", "s")], 1, 6⟩] := by
  have htemporary : Store.temporaryPath rootStore.state = ⟨"/", ["s.tmp.tmp"]⟩ := by
    show Path.join _ (Path.ofText "s.tmp.tmp") = _
    rw [Path.ofText_name (by decide) (by decide) (by decide)]
    rfl
  refine ⟨⟨by decide, by decide, ?_⟩, rfl, ?_, ?_⟩
  · rw [rootStore_lock, htemporary]
    simp [Path.resolve, rootStore, Path.join, Path.isAbsolute, Path.resolveParts]
  · simp [Disk.has, Disk.isFile, Disk.isDir, rootSite, rootStore, Path.resolve, Path.join, Path.isAbsolute,
      Path.resolveParts, Path.workingDirectory]
  · rw [rootStore_lock, htemporary]
    simp [Disk.isDir, rootSite, Path.resolve, Path.join, Path.isAbsolute, Path.resolveParts, Path.workingDirectory]

theorem rootStore_unlocked (host : Host) : rootStore.Unlocked host rootSite := by
  intro stamp hstamp
  cases hstamp

theorem Store.queue_of_one_task :
    ∃ now, rootStore.reported (rootStore.after rootSite [({}, .claim "T1" (some "me"))]) = .ok now ∧
      now.map (fun e => (e.id, e.status?)) = [("T1", some "claimed")] ∧ ownerOf now "T1" = some "me" := by
  obtain ⟨now, hnow, hstatus, hcalls⟩ := Store.queue_refines_board rootStore_ready
    [({}, .claim "T1" (some "me"))] fun c _ => rootStore_unlocked c.1
  obtain ⟨old, new, -, -, hok, -, -, howner, -⟩ := hcalls [] _ [] rfl
  exact ⟨now, hnow, hstatus, howner "T1" "me" rfl (by decide) hok (fun d hd => by cases hd)⟩
end CCompiler.Queue
