import CCompiler.Proofs.Json.Reading
import CCompiler.Proofs.Steps
import CCompiler.Queue.Basic

/-!
# The file with the states of tasks

The file is written with all names in order and in characters of one byte each. What is read from it are the
same tasks, if no task stands there twice.

* `readable_state` -- the data of the file read back;
* `tasksOf_state` -- and are the tasks, in the order of their names;
* `decode_encode` -- a text of characters of one byte each reads back from its bytes.
-/
namespace CCompiler.Queue

open List Upkeep

section Lookup

variable {β : Type} {l l' : List (String × β)} {key : String} {value : β}

/-- Whether each name stands once. -/
def Distinct (l : List (String × β)) : Prop := (l.map (·.1)).Nodup

theorem lookup_of_mem (hl : Distinct l) (h : (key, value) ∈ l) : l.lookup key = some value := by
  induction l with
  | nil => cases h
  | cons f rest ih =>
    obtain ⟨name, v⟩ := f
    obtain ⟨hnew, hrest⟩ := nodup_cons.mp hl
    rcases mem_cons.mp h with heq | hmem
    · cases heq
      simp
    · have hne : key ≠ name := by
        rintro rfl
        exact hnew (mem_map_of_mem (f := (·.1)) hmem)
      rw [lookup_cons, beq_false_of_ne hne]
      exact ih hrest hmem

/-- Where each name stands once, order does not matter. -/
theorem lookup_perm (h : l.Perm l') (hl : Distinct l) (key : String) : l.lookup key = l'.lookup key := by
  have hl' : Distinct l' := (h.map _).nodup_iff.mp hl
  cases hlookup : l'.lookup key with
  | some value => exact lookup_of_mem hl (h.mem_iff.mpr (mem_of_lookup hlookup))
  | none =>
    cases hlookup' : l.lookup key with
    | none => rfl
    | some value =>
      rw [lookup_of_mem hl' (h.mem_iff.mp (mem_of_lookup hlookup'))] at hlookup
      cases hlookup

end Lookup

theorem sortedFields_eq (fields : List (String × Json)) :
    Json.sortedFields fields = fields.map fun f => (f.1, f.2.sorted) := by
  induction fields with
  | nil => rfl
  | cons f rest ih =>
    rw [Json.sortedFields, ih]
    rfl

/-- The fields of an object in order are the same fields. -/
theorem sorted_object (fields : List (String × Json)) : ∃ fields', (Json.object fields).sorted = .object fields' ∧
    fields'.Perm (fields.map fun f => (f.1, f.2.sorted)) := by
  rw [Json.sorted, sortedFields_eq]
  exact ⟨_, rfl, mergeSort_perm _ _⟩

/-- An object in order reads back. -/
theorem readable_sorted (depth : Nat) (h : Distinct fields)
    (hvalues : ∀ f ∈ fields, Json.Readable (depth + 1) f.2.sorted) :
    Json.Readable depth (Json.object fields).sorted := by
  obtain ⟨fields', hsorted, hperm⟩ := sorted_object fields
  rw [hsorted]
  refine Json.readable_object depth ((hperm.map _).nodup_iff.mpr ?_) fun f hf => ?_
  · rw [map_map]
    exact h
  · obtain ⟨f', hf', rfl⟩ := mem_map.mp (hperm.mem_iff.mp hf)
    exact hvalues f' hf'

theorem distinct_record (t : Task) : Distinct (t.record.map fun f => (f.1, Json.string f.2)) := by
  obtain ⟨status, owner⟩ := t
  cases status <;> cases owner <;> simp [Distinct, Task.record]

theorem Status.ofText?_text (s : Status) : Status.ofText? s.text = some s := by
  cases s <;> decide

/-- A task in order reads back as itself. -/
theorem taskOf_sorted (id : String) (t : Task) : taskOf id t.json.sorted = .ok t := by
  obtain ⟨fields, hsorted, hperm⟩ := sorted_object (t.record.map fun f => (f.1, Json.string f.2))
  have hsame : fields.Perm (t.record.map fun f => (f.1, Json.string f.2)) := by
    refine hperm.trans (Perm.of_eq ?_)
    rw [map_map]
    rfl
  have hlookup : ∀ key, fields.lookup key = (t.record.map fun f => (f.1, Json.string f.2)).lookup key :=
    fun key => (lookup_perm hsame.symm (distinct_record t) key).symm
  have hfield : ∀ key, (Json.object fields).field key =
      ((t.record.map fun f => (f.1, Json.string f.2)).lookup key).getD .null := by
    intro key
    rw [← hlookup]
    rfl
  have hjson : t.json.sorted = .object fields := hsorted
  have htexts : taskText id (.object fields) "status" = .ok (t.status.map Status.text) ∧
      taskText id (.object fields) "owner" = .ok t.owner := by
    rw [taskText, taskText, hfield, hfield]
    obtain ⟨status, owner⟩ := t
    cases status <;> cases owner <;> exact ⟨rfl, rfl⟩
  rw [hjson, taskOf, htexts.1, htexts.2]
  obtain ⟨status, owner⟩ := t
  cases status with
  | none => rfl
  | some status =>
    simp only [bind, Except.bind, Option.map_some, Status.ofText?_text]
    rfl

/-- The data of the file. -/
def stateJson (tasks : Tasks) : Json :=
  .object [("tasks", .object (tasks.map fun (id, task) => (id, task.json))), ("version", .int 1)]

theorem stateText_eq (tasks : Tasks) : stateText tasks = (stateJson tasks).sorted.render .tree ++ "\n" := rfl

variable {tasks : Tasks} {cs : List Char}

theorem distinct_tasks (h : Distinct tasks) : Distinct (tasks.map fun (id, task) => (id, task.json)) := by
  unfold Distinct at h ⊢
  rw [map_map]
  exact h

theorem readable_task (depth : Nat) (t : Task) : Json.Readable depth t.json.sorted := by
  refine readable_sorted depth (distinct_record t) fun f hf => ?_
  obtain ⟨field, -, rfl⟩ := mem_map.mp hf
  exact Json.readable_string _ _

/-- The data of the file reads back. -/
theorem readable_state (h : Distinct tasks) : Json.Readable 0 (stateJson tasks).sorted := by
  refine readable_sorted 0 (by simp [Distinct]) fun f hf => ?_
  simp only [mem_cons, not_mem_nil, or_false] at hf
  rcases hf with rfl | rfl
  · refine readable_sorted 1 (distinct_tasks h) fun f hf => ?_
    obtain ⟨⟨id, task⟩, -, rfl⟩ := mem_map.mp hf
    exact readable_task _ task
  · exact Json.readable_one 1

/-- Tasks in the order of their names. -/
def Tasks.inOrder (tasks : Tasks) : Tasks := tasks.mergeSort fun a b => a.1 ≤ b.1

theorem Tasks.inOrder_perm (tasks : Tasks) : tasks.inOrder.Perm tasks := mergeSort_perm _ _

theorem mapM_tasks (tasks : Tasks) :
    (tasks.map fun t => (t.1, t.2.json.sorted)).mapM (fun (id, task) => do return (id, ← taskOf id task)) =
      (.ok tasks : Except Cause Tasks) := by
  induction tasks with
  | nil => rfl
  | cons t rest ih =>
    rw [map_cons, mapM_cons, ih]
    simp only [taskOf_sorted]
    rfl

/-- What is read from the data of the file are the tasks in order. -/
theorem tasksOf_state (path : String) (tasks : Tasks) :
    tasksOf path (stateJson tasks).sorted = .ok tasks.inOrder := by
  obtain ⟨fields, hsorted, hperm⟩ := sorted_object
    [("tasks", .object (tasks.map fun (id, task) => (id, task.json))), ("version", .int 1)]
  have hdistinct : Distinct fields := (hperm.map _).nodup_iff.mpr (by simp)
  have hversion : fields.lookup "version" = some (.int 1) := by
    rw [lookup_perm hperm hdistinct]
    rfl
  have htasks : fields.lookup "tasks" = some (.object (tasks.inOrder.map fun t => (t.1, t.2.json.sorted))) := by
    rw [lookup_perm hperm hdistinct]
    have hinner : (Json.object (tasks.map fun (id, task) => (id, task.json))).sorted =
        .object (tasks.inOrder.map fun t => (t.1, t.2.json.sorted)) := by
      rw [Json.sorted, sortedFields_eq, map_map]
      refine congrArg Json.object (map_mergeSort ?_).symm
      exact fun a _ b _ => rfl
    rw [← hinner]
    rfl
  have hjson : (stateJson tasks).sorted = .object fields := hsorted
  rw [hjson, tasksOf, hversion, htasks]
  exact mapM_tasks tasks.inOrder

theorem decodeFrom_plain (h : ∀ c ∈ cs, c.toNat < 0x80) (done : List Char) (position : Nat) :
    Text.decodeFrom done position none (cs.flatMap String.utf8EncodeChar) = .ok (done.reverse ++ cs) := by
  induction cs generalizing done position with
  | nil => simp [Text.decodeFrom]
  | cons c rest ih =>
    have hc : c.toNat < 0x80 := h c mem_cons_self
    have hbytes : String.utf8EncodeChar c = [UInt8.ofNat c.toNat] := by
      exact if_pos (Nat.le_of_lt_succ hc)
    have hbyte : (UInt8.ofNat c.toNat).toNat = c.toNat := UInt8.toNat_ofNat_of_lt' (Nat.lt_trans hc (by decide))
    have hbegin : Text.beginAt position (UInt8.ofNat c.toNat) = .ok (.inl c) := by
      rw [Text.beginAt, hbyte, if_pos hc, Char.ofNat_toNat]
    rw [flatMap_cons, hbytes, singleton_append, Text.decodeFrom, Option.map_none, Option.getD_none, hbegin]
    dsimp only
    rw [ih (forall_mem_cons.mp h).2]
    simp

/-- A text of characters of one byte each reads back from its bytes. -/
theorem decode_encode (h : ∀ c ∈ text.toList, c.toNat < 0x80) : Text.decode (Text.encode text) = .ok text.toList := by
  have hbytes : Text.encode text = text.toList.flatMap String.utf8EncodeChar := by
    rw [Text.encode, String.toUTF8, ← String.ofList_toList (s := text), String.toByteArray_ofList, List.utf8Encode,
      data_toByteArray, String.ofList_toList]
  rw [hbytes, Text.decode, decodeFrom_plain h]
  rfl

theorem stateText_plain (h : Distinct tasks) : ∀ c ∈ (stateText tasks).toList, c.toNat < 0x80 ∧ c ≠ '\r' := by
  intro c hc
  rw [stateText_eq, String.toList_append, mem_append] at hc
  rcases hc with hc | hc
  · exact (readable_state h).plain c hc
  · obtain rfl : c = '\n' := by simpa using hc
    decide

end CCompiler.Queue
