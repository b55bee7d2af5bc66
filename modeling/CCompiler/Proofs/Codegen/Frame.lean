import CCompiler.Proofs.Codegen.Emission
import CCompiler.Proofs.Codegen.Meaning
import CCompiler.Proofs.Machine.Execution
import CCompiler.Proofs.Steps

/-!
# Frames at run time

How the locals of C lie in the frame of a function while its code runs. Places in memory are given by their
depth below the stack pointer at the entry of the function: the frame pointer stands at depth 16, the slots
lie between there and the end of the frame, and operands that wait lie deeper.

* `Run.Agrees` -- the slots hold the values of the locals;
* `Run.Framed` -- the frame pointer and the stack pointer stand where they should;
* `Run.Steady` -- what the code of a phrase leaves as it was;
* `Run.Does` -- code leads to a state with a property, wherever it stands;
* `Run.waits` -- a value that waits on the stack is still there behind any code that leaves its cell.
-/
namespace CCompiler.Codegen

open List
open Machine (Label Line Instr Reg Width Address Memory Reaches At effects below place?)
open Meaning (Env IntValue)

/-! ## 1. Runs -/

/-- What is fixed while the code of a function runs: the addresses of symbols, the code, the stack pointer at
    the entry and the size of the frame. Every label stands once in the code, the frame is in reach of the
    frame pointer, and the code is not so long that its stack would go once around the address space. -/
structure Run where
  address : Machine.Target → Address
  code : Code
  top : Address
  frame : Nat
  once : ∀ l : Label, code.count (.label l) ≤ 1
  frame_le : frame ≤ 256
  room : 16 + frame + 3 * code.length < 2 ^ 64

namespace Run

variable (r : Run)

/-- The depth that a run never exceeds: every operand that waits takes sixteen bytes, and there are more than
    five lines of code for it. -/
def limit : Nat := 16 + r.frame + 3 * r.code.length

theorem limit_lt : r.limit < 2 ^ 64 := r.room

/-- Some lines of the code lead from one place and state to another. -/
abbrev Leads (c d : Nat × Machine.State) : Prop := Reaches r.address r.code c d

/-- The address of a slot. -/
def slot (slot : Slot) : Address := below r.top (16 + slot.offset)

/-- A slot holds the value of a local, if the local has one. -/
def Holds (mem : Memory) (p : String × Slot) (q : String × Option IntValue) : Prop :=
  p.1 = q.1 ∧ ∀ v, q.2 = some v → mem.read 4 (r.slot p.2) = v

/-- The slots in scope hold the values of the locals. -/
def Agrees (scopes : Scopes) (env : Env) (mem : Memory) : Prop :=
  Forall₂ (Forall₂ (r.Holds mem)) scopes env

/-- The frame pointer stands above the slots, and the stack pointer at some depth below them. -/
structure Framed (depth : Nat) (m : Machine.State) : Prop where
  frame : m.regs 29 = below r.top 16
  stack : m.sp = below r.top depth
  deep : 16 + r.frame ≤ depth

/-- What the code of a phrase leaves as it was when the stack pointer stands at some depth: all but two
    registers, what lies on the stack below the slots, and all memory outside the part that is in use. -/
structure Steady (depth : Nat) (m m' : Machine.State) : Prop where
  sp : m'.sp = m.sp
  regs : ∀ i, i ≠ 0 → i ≠ 1 → m'.regs i = m.regs i
  mem : ∀ e < 2 ^ 64, e ≤ 16 ∨ 16 + r.frame < e ∧ e ≤ depth ∨ r.limit < e →
    m'.mem (below r.top e) = m.mem (below r.top e)

/-- The slots in scope lie in the frame, each at a place of its own. -/
structure Laid (scopes : Scopes) : Prop where
  distinct : (scopes.flatten.map (·.2.offset)).Nodup
  inFrame : ∀ p ∈ scopes.flatten, p.2.InFrame r.frame

variable {r} {scopes : Scopes} {env env' : Env} {depth : Nat} {m m1 m2 : Machine.State} {mem mem' : Memory}

theorem Laid.of_placed (h : Placed r.frame st) : r.Laid st.scopes where
  distinct := by
    have hsub : (st.scopes.flatten.map (·.2.offset)).Sublist (st.slots.map Slot.offset) := by
      unfold State.slots
      rw [map_append, map_map]
      exact sublist_append_left _ _
    exact h.distinct.sublist hsub
  inFrame := fun p hp => h.inFrame p.2 (mem_append_left _ (mem_map_of_mem hp))

theorem Steady.refl : r.Steady depth m m := ⟨rfl, fun _ _ _ => rfl, fun _ _ _ => rfl⟩

theorem Steady.trans (h : r.Steady depth m m1) (h' : r.Steady depth m1 m2) : r.Steady depth m m2 where
  sp := h'.sp.trans h.sp
  regs := fun i h0 h1 => (h'.regs i h0 h1).trans (h.regs i h0 h1)
  mem := fun e he hr => (h'.mem e he hr).trans (h.mem e he hr)

/-- A new value of register 0 or 1 changes nothing else. -/
theorem Steady.set (hq : q.index = 0 ∨ q.index = 1) : r.Steady depth m (m.set q v) where
  sp := rfl
  regs := fun i h0 h1 => Machine.State.set_regs_other m q v (by omega)
  mem := fun _ _ _ => rfl

theorem Framed.steady (h : r.Framed depth m) (hs : r.Steady depth m m1) : r.Framed depth m1 :=
  ⟨(hs.regs 29 (by decide) (by decide)).trans h.frame, hs.sp.trans h.stack, h.deep⟩

/-! ## 2. Locals -/

section Scopes

variable {scope : List (String × Slot)} {values : Meaning.Scope} {name : String} {slot : Slot} {v : IntValue}

theorem Holds.congr (h : r.Holds mem p q)
    (hm : mem'.read 4 (r.slot p.2) = mem.read 4 (r.slot p.2)) : r.Holds mem' p q :=
  ⟨h.1, fun v hv => hm.trans (h.2 v hv)⟩

theorem mem_of_slotOf (h : slotOf scopes name = some slot) : (name, slot) ∈ scopes.flatten := by
  obtain ⟨scope, hs, hl⟩ := exists_of_findSome?_eq_some h
  exact mem_flatten.mpr ⟨scope, hs, mem_of_lookup hl⟩

/-- A name that has a slot in a scope is one of the locals of the scope, and the other way round. -/
theorem lookup_scope (h : Forall₂ (r.Holds mem) scope values) (name : String) :
    (scope.lookup name = none ∧ values.lookup name = none) ∨
      ∃ slot value, scope.lookup name = some slot ∧ values.lookup name = some value ∧
        ∀ v, value = some v → mem.read 4 (r.slot slot) = v := by
  induction h with
  | nil => exact .inl ⟨rfl, rfl⟩
  | @cons p q ps qs hpq _ ih =>
    rw [lookup_cons, lookup_cons, ← hpq.1]
    cases name == p.1 with
    | true => exact .inr ⟨p.2, q.2, rfl, rfl, hpq.2⟩
    | false => exact ih

theorem forall₂_congr (h : Forall₂ (r.Holds mem) scope values)
    (hm : ∀ p ∈ scope, mem'.read 4 (r.slot p.2) = mem.read 4 (r.slot p.2)) :
    Forall₂ (r.Holds mem') scope values := by
  induction h with
  | nil => exact .nil
  | cons hpq _ ih =>
    exact .cons (hpq.congr (hm _ mem_cons_self)) (ih (forall_mem_cons.mp hm).2)

/-- Locals keep their values when the bytes of their slots stay. -/
theorem Agrees.congr (h : r.Agrees scopes env mem)
    (hm : ∀ p ∈ scopes.flatten, mem'.read 4 (r.slot p.2) = mem.read 4 (r.slot p.2)) :
    r.Agrees scopes env mem' := by
  induction h with
  | nil => exact .nil
  | cons hs _ ih =>
    exact .cons (forall₂_congr hs fun p hp => hm p (mem_append_left _ hp))
      (ih fun p hp => hm p (mem_append_right _ hp))

/-- **The value of a local is what its slot holds.** -/
theorem Agrees.read (h : r.Agrees scopes env mem) (hs : slotOf scopes name = some slot)
    (hv : Meaning.read env name = some v) : mem.read 4 (r.slot slot) = v := by
  unfold Meaning.read at hv
  unfold slotOf at hs
  induction h with
  | nil => cases hs
  | cons hsc _ ih =>
    rw [findSome?_cons] at hs hv
    rcases lookup_scope hsc name with ⟨h1, h2⟩ | ⟨slot', value, h1, h2, hval⟩ <;> rw [h1] at hs <;> rw [h2] at hv
    · exact ih hs hv
    · cases hs
      exact hval v hv

/-- A store into a block, when every other slot of the block stays. -/
theorem forall₂_storeIn (h : Forall₂ (r.Holds mem) scope values)
    (hl : scope.lookup name = some slot) (hn : (scope.map (·.2.offset)).Nodup)
    (hnew : mem'.read 4 (r.slot slot) = v)
    (hm : ∀ p ∈ scope, p.2.offset ≠ slot.offset → mem'.read 4 (r.slot p.2) = mem.read 4 (r.slot p.2)) :
    Forall₂ (r.Holds mem') scope (Meaning.storeIn name v values) := by
  induction h with
  | nil => cases hl
  | @cons p q ps qs hpq hrest ih =>
    rw [map_cons, nodup_cons] at hn
    have hrestm : ∀ p ∈ ps, p.2.offset ≠ slot.offset → mem'.read 4 (r.slot p.2) = mem.read 4 (r.slot p.2) :=
      (forall_mem_cons.mp hm).2
    obtain ⟨qname, qvalue⟩ := q
    have hname : p.1 = qname := hpq.1
    subst hname
    rw [lookup_cons] at hl
    unfold Meaning.storeIn
    cases heq : name == p.1 with rw [heq] at hl
    | true =>
      cases hl
      refine .cons ⟨rfl, fun u hu => ?_⟩ (forall₂_congr hrest fun p' hp' => hrestm p' hp' fun ho => ?_)
      · cases hu
        exact hnew
      · exact hn.1 (ho ▸ mem_map_of_mem hp')
    | false =>
      refine .cons (hpq.congr (hm p mem_cons_self fun ho => ?_)) (ih hl hn.2 hrestm)
      exact hn.1 (ho ▸ mem_map_of_mem (mem_of_lookup hl))

/-- A store into the blocks, when every other slot stays. -/
theorem Agrees.store_of (h : r.Agrees scopes env mem) (hs : slotOf scopes name = some slot)
    (hn : (scopes.flatten.map (·.2.offset)).Nodup) (he : Meaning.store name v env = some env')
    (hnew : mem'.read 4 (r.slot slot) = v)
    (hm : ∀ p ∈ scopes.flatten, p.2.offset ≠ slot.offset →
      mem'.read 4 (r.slot p.2) = mem.read 4 (r.slot p.2)) : r.Agrees scopes env' mem' := by
  induction h generalizing env' with
  | nil => cases hs
  | @cons scope values scopes env hsc hrest ih =>
    rw [flatten_cons, map_append] at hn
    obtain ⟨hn1, hn2, hdisj⟩ := nodup_append.mp hn
    have hm1 := fun p (hp : p ∈ scope) => hm p (mem_append_left _ hp)
    have hm2 := fun p (hp : p ∈ scopes.flatten) => hm p (mem_append_right _ hp)
    unfold slotOf at hs
    rw [findSome?_cons] at hs
    unfold Meaning.store at he
    rcases lookup_scope hsc name with ⟨h1, h2⟩ | ⟨slot', value, h1, h2, -⟩ <;> rw [h1] at hs <;> rw [h2] at he
    · obtain ⟨outer, ho, rfl⟩ := Option.map_eq_some_iff.mp he
      have hslot := mem_map_of_mem (f := (·.2.offset)) (mem_of_slotOf hs)
      refine .cons (forall₂_congr hsc fun p hp => hm1 p hp fun hoff => ?_) (ih hs hn2 ho hm2)
      exact hdisj _ (mem_map_of_mem hp) _ hslot hoff
    · cases hs
      cases he
      have hslot := mem_map_of_mem (f := (·.2.offset)) (mem_of_lookup h1)
      refine .cons (forall₂_storeIn hsc h1 hn1 hnew hm1) (Agrees.congr hrest fun p hp => ?_)
      exact hm2 p hp fun hoff => hdisj _ hslot _ (mem_map_of_mem hp) hoff.symm

/-- A new local has a slot and no value yet. -/
theorem Agrees.declare {st : State} {pending : List Slot} (h : r.Agrees st.scopes env mem) :
    r.Agrees (st.declared name slot pending).scopes (Meaning.declare name env) mem := by
  have hnew : r.Holds mem (name, slot) (name, none) := ⟨rfl, fun v hv => by cases hv⟩
  unfold State.declared Meaning.declare
  revert h
  cases st.scopes with
  | nil =>
    intro h
    cases h
    exact .cons (.cons hnew .nil) .nil
  | cons scope rest =>
    intro h
    cases h with
    | cons hs hrest => exact .cons (.cons hnew hs) hrest

end Scopes

/-! ## 3. Slots -/

section Slots

variable {name : String} {slot : Slot} {v : IntValue}

theorem Laid.slotOf (h : r.Laid scopes) (hs : slotOf scopes name = some slot) :
    slot.InFrame r.frame := h.inFrame _ (mem_of_slotOf hs)

/-- Slots are multiples of eight, so that two different ones are far enough apart. -/
theorem read_write_slot (hs : slot.InFrame r.frame) (hs' : slot'.InFrame r.frame)
    (hne : slot'.offset ≠ slot.offset) (v : IntValue) :
    (mem.write 4 (r.slot slot) v).read 4 (r.slot slot') = mem.read 4 (r.slot slot') := by
  have hfr := r.frame_le
  obtain ⟨-, ⟨k, hk⟩, hlow, hhigh⟩ := hs
  obtain ⟨-, ⟨j, hj⟩, hlow', hhigh'⟩ := hs'
  exact @Memory.read_write_below_other mem r.top 4 4 (16 + slot.offset) (16 + slot'.offset) v
    (by omega) (by omega) (by omega) (by omega) (by omega)

/-- **A store into the slot of a local is a store into the local.** -/
theorem Agrees.store (h : r.Agrees scopes env mem) (hl : r.Laid scopes)
    (hs : Codegen.slotOf scopes name = some slot) (he : Meaning.store name v env = some env') :
    r.Agrees scopes env' (mem.write 4 (r.slot slot) v) :=
  h.store_of hs hl.distinct he (Memory.read_write mem 4 _ v (by decide))
    fun p hp hne => read_write_slot (hl.slotOf hs) (hl.inFrame p hp) hne v

variable (hslot : slot.InFrame r.frame) (hf : r.Framed depth m)

include hslot hf

/-- A store into a slot is seen by no other place. -/
theorem Steady.store (hlim : depth ≤ r.limit) (x : BitVec Width.word.bits) :
    r.Steady depth m (m.store .word (r.slot slot) x) where
  sp := rfl
  regs := fun _ _ _ => rfl
  mem := by
    intro e he hr
    obtain ⟨-, -, hlow, hhigh⟩ := hslot
    have hfr := r.frame_le
    have hdeep := hf.deep
    exact Memory.write_below_other m.mem r.top x (by omega) he (by show 4 ≤ _; omega) (by show _ ∨ e + 4 ≤ _; omega)

/-- Loads a slot. -/
theorem effect_loadSlot : (Instr.loadSlot (word 0) slot.offset).effect r.address m =
    some (m.set (word 0) (m.mem.read 4 (r.slot slot))) := by
  have hfr := r.frame_le
  obtain ⟨-, -, -, hhigh⟩ := hslot
  show (if slot.offset ≤ 256 then _ else _) = _
  rw [if_pos (by omega), hf.frame, Machine.below_sub]
  rfl

/-- Stores a slot. -/
theorem effect_storeSlot (index : Nat) : (Instr.storeSlot (word index) slot.offset).effect r.address m =
    some (m.store .word (r.slot slot) (m.get (word index))) := by
  have hfr := r.frame_le
  obtain ⟨-, -, -, hhigh⟩ := hslot
  show (if slot.offset ≤ 256 then _ else _) = _
  rw [if_pos (by omega), hf.frame, Machine.below_sub]
  rfl

end Slots

/-! ## 4. Code that leads on -/

/-- Code leads from a state to one with a property, wherever it stands. -/
def Does (r : Run) (c : Code) (m : Machine.State) (Q : Machine.State → Prop) : Prop :=
  ∀ ⦃pc : Nat⦄, At r.code pc c → ∃ m', r.Leads (pc, m) (pc + c.length, m') ∧ Q m'

section Does

variable {c c' : Code} {P Q : Machine.State → Prop}

theorem does_instrs (h : effects r.address is m = some m1) (hQ : Q m1) : r.Does (instrs is) m Q := by
  intro pc hat
  rw [length_instrs]
  exact ⟨m1, hat.reaches_instrs h, hQ⟩

theorem Does.append (h : r.Does c m P) (h' : ∀ m1, P m1 → r.Does c' m1 Q) : r.Does (c ++ c') m Q := by
  intro pc hat
  obtain ⟨m1, hrun1, hP⟩ := h hat.left
  obtain ⟨m2, hrun2, hQ⟩ := h' m1 hP hat.right
  rw [length_append, ← Nat.add_assoc]
  exact ⟨m2, hrun1.trans hrun2, hQ⟩

theorem Does.mono (h : r.Does c m P) (himp : ∀ m1, P m1 → Q m1) : r.Does c m Q := by
  intro pc hat
  obtain ⟨m1, hrun, hP⟩ := h hat
  exact ⟨m1, hrun, himp m1 hP⟩

end Does

/-! ## 5. Waiting operands -/

/-- **A value that waits on the stack is taken back** behind any code that leaves its cell and the stack pointer
    as they were. -/
theorem waits {Q : Machine.State → Prop} (hf : r.Framed depth m) (hlim : depth + 16 ≤ r.limit)
    (hmid : ∀ m1, r.Framed (depth + 16) m1 → m1.regs = m.regs →
      (∀ e < 2 ^ 64, e ≤ depth ∨ r.limit < e → m1.mem (below r.top e) = m.mem (below r.top e)) →
      r.Does mid m1 fun m2 => m2.sp = m1.sp ∧ Q m2 ∧
        ∀ e, depth < e → e ≤ depth + 16 → m2.mem (below r.top e) = m1.mem (below r.top e)) :
    r.Does (pushCode ++ (mid ++ popCode i)) m fun m3 => ∃ m2, Q m2 ∧ m3.sp = m.sp ∧ m3.mem = m2.mem ∧
      m3.regs i = m.regs 0 ∧ ∀ j, j ≠ i → m3.regs j = m2.regs j := by
  have hlt := r.limit_lt
  -- The cell of the value lies just below the stack pointer.
  let m1 : Machine.State :=
    { m with sp := below r.top (depth + 16), mem := m.mem.write 8 (below r.top (depth + 16)) (m.regs 0) }
  have hpush : effects r.address [.growStack 16, .storeTop] m = some m1 := by
    have hsp : m.sp - BitVec.ofNat 64 16 = below r.top (depth + 16) := by rw [hf.stack, Machine.below_sub]
    show some (Machine.State.mk _ _ (m.mem.write 8 (m.sp - BitVec.ofNat 64 16) ((m.regs 0).setWidth 64)) _) = _
    rw [hsp, BitVec.setWidth_eq]
  have hframed : r.Framed (depth + 16) m1 := ⟨hf.frame, rfl, Nat.le_add_right_of_le hf.deep⟩
  have hother : ∀ e < 2 ^ 64, e ≤ depth ∨ r.limit < e → m1.mem (below r.top e) = m.mem (below r.top e) :=
    fun e he _ => Memory.write_below_other m.mem r.top _ (by omega) he (by omega) (by omega)
  have hrun := hmid m1 hframed rfl hother
  refine Does.append (does_instrs hpush rfl) ?_
  rintro _ rfl
  refine hrun.append ?_
  rintro m2 ⟨hsp, hQ, hcell⟩
  have hsaved : m2.mem.read 8 m2.sp = m.regs 0 := by
    rw [hsp, Memory.read_below_congr (by omega) fun e h1 h2 => hcell e (by omega) (by omega)]
    exact Memory.read_write m.mem 8 _ _ (by decide)
  have hpop : effects r.address [.loadTop i, .shrinkStack 16] m2 = some _ := rfl
  refine does_instrs hpop ⟨m2, hQ, ?_, rfl, ?_, fun j hj => ?_⟩
  · show m2.sp + BitVec.ofNat 64 16 = m.sp
    rw [hsp, hf.stack, Machine.below_add r.top (by omega), Nat.add_sub_cancel]
  · show (if i = i then BitVec.setWidth 64 (m2.mem.read 8 m2.sp) else _) = _
    rw [if_pos rfl, hsaved]
    exact BitVec.setWidth_eq _
  · exact Machine.State.set_regs_other m2 ⟨i, .long⟩ _ hj

end Run

end CCompiler.Codegen
