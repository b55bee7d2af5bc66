import CCompiler.Proofs.Codegen.Legality

/-!
# Values that code leaves

The code of an expression without side effects leaves one value in register 0, wherever it stands and however
deep the stack is: the value comes from memory outside the part of the stack where operands wait. From that
follows what the generator makes of a remainder and of a comparison.

* `Turns` -- straight code that makes register 0 from registers 0 and 1;
* `Run.Leaves` -- code leaves a value, and leaves memory and the stack as they were;
* `ExprGen.leaves` -- the code of every expression without side effects does so;
* `remainder_gives` -- the value of a remainder;
* `comparison_leaves` -- the value of a comparison.
-/
namespace CCompiler.Codegen

open List
open Machine (Label Line Instr Reg Width Address Memory Reaches At effects below place?)
open BitVec (ofNat setWidth_eq setWidth)

/-! ## 1. Straight code -/

/-- Register 0 behind the conversion from one width to another. -/
def converted : Width → Width → BitVec 64 → BitVec 64
  | .word, .long, x => (x.setWidth 32).signExtend 64
  | .long, .word, x => (x.setWidth 32).setWidth 64
  | .word, .word, x | .long, .long, x => x

section Straight

variable {is js : List Instr} {g g' : BitVec 64 → BitVec 64 → BitVec 64} {w w' : Width}

theorem turns_nil : Turns [] fun x _ => x := fun _ m => ⟨m, rfl, .refl m, rfl⟩

/-- Register 1 is still there behind the first piece. -/
theorem Turns.append (h : Turns is g) (h' : Turns js g') : Turns (is ++ js) fun x y => g' (g x y) y := by
  intro address m
  obtain ⟨m1, he1, hq1, hv1⟩ := h address m
  obtain ⟨m2, he2, hq2, hv2⟩ := h' address m1
  refine ⟨m2, Machine.effects_append he1 he2, hq1.trans hq2, ?_⟩
  rw [hv2, hv1, hq1.regs 1 (by decide)]

theorem turns_conversion : Turns (conversion w w') fun x _ => converted w w' x := by
  cases w <;> cases w'
  · exact turns_nil
  · exact turns_set (w := .long) (f := fun x _ => (x.setWidth 32).signExtend 64) fun _ _ => rfl
  · exact turns_set (w := .word) fun _ _ => rfl
  · exact turns_nil

theorem turns_sign (op : UnaryOp) : ∃ g : BitVec 64 → BitVec 64, Turns (signInstrs w op) fun x _ => g x := by
  unfold signInstrs
  split
  · exact ⟨_, turns_set (f := fun x _ => -x.setWidth w.bits) fun _ _ => rfl⟩
  · exact ⟨_, turns_set (f := fun x _ => ~~~x.setWidth w.bits) fun _ _ => rfl⟩
  · exact ⟨_, turns_nil⟩

theorem turns_operate (op : Machine.Operation) : Turns [.operate op ⟨0, w⟩ ⟨1, w⟩ ⟨0, w⟩]
    fun x y => (op.eval (y.setWidth w.bits) (x.setWidth w.bits)).setWidth 64 :=
  turns_set fun _ _ => by
    rw [Instr.effect, if_pos ⟨rfl, rfl⟩]
    rfl

/-- **A remainder multiplies the quotient by the dividend**, where the divisor would have to stand: the
    division has overwritten it. -/
theorem turns_rem : Turns (computeInstrs .rem w w) fun x y =>
    (y.setWidth w.bits - (y.setWidth w.bits).sdiv (x.setWidth w.bits) * y.setWidth w.bits).setWidth 64 := by
  have hle : w.bits ≤ 64 := by cases w <;> decide
  have hsub : Turns [.multiplySub ⟨0, w⟩ ⟨0, w⟩ ⟨1, w⟩ ⟨1, w⟩] fun x y =>
      (y.setWidth w.bits - x.setWidth w.bits * y.setWidth w.bits).setWidth 64 :=
    turns_set fun _ _ => by
      rw [Instr.effect, if_pos ⟨rfl, rfl, rfl⟩]
      rfl
  have h := (turns_operate (w := w) .sdiv).append hsub
  simp only [BitVec.setWidth_setWidth_of_le _ hle, setWidth_eq] at h
  exact h

theorem turns_compute (op : ArithOp) : ∃ g, Turns (computeInstrs op w w) g := by
  cases op with
  | rem => exact ⟨_, turns_rem⟩
  | _ => exact ⟨_, turns_operate _⟩

theorem turns_keep {cs : List (Nat × Nat)} (h : ∀ c ∈ cs, c.1 < 65536 ∧ c.2 % 16 = 0 ∧ c.2 < w.bits) :
    ∃ g : BitVec 64 → BitVec 64,
      Turns (cs.map fun (chunk, shift) => .moveKeep ⟨0, w⟩ chunk shift) fun x _ => g x := by
  induction cs with
  | nil => exact ⟨_, turns_nil⟩
  | cons c cs ih =>
    obtain ⟨g, hg⟩ := ih (forall_mem_cons.mp h).2
    have hfirst : Turns [.moveKeep ⟨0, w⟩ c.1 c.2] _ :=
      turns_set (f := fun x _ => x.setWidth w.bits &&& ~~~(ofNat _ 65535 <<< c.2) |||
        ofNat _ c.1 <<< c.2) fun _ _ => by
          rw [Instr.effect, if_pos (h c mem_cons_self)]
          rfl
    exact ⟨_, hfirst.append hg⟩

theorem mem_chunks (h : c ∈ chunks w n) : c.1 < 65536 ∧ c.2 % 16 = 0 ∧ c.2 < w.bits := by
  obtain ⟨i, hi, rfl⟩ := mem_map.mp h
  have hi' := mem_range.mp hi
  exact ⟨Nat.mod_lt _ (by decide), Nat.mul_mod_right 16 i, by omega⟩

/-- A number is put into register 0, whatever was there. -/
theorem turns_immediate (n : Int) : ∃ v, Turns (immediateInstrs w n) fun _ _ => v := by
  have hne : chunks w n ≠ [] := by cases w <;> exact cons_ne_nil _ _
  unfold immediateInstrs
  split
  · contradiction
  · rename_i low shift rest heq
    have hlow : low < 65536 := (mem_chunks (heq ▸ mem_cons_self : (low, shift) ∈ chunks w n)).1
    have hrest : ∀ c ∈ rest.filter (·.1 != 0), c.1 < 65536 ∧ c.2 % 16 = 0 ∧ c.2 < w.bits := fun c hc =>
      mem_chunks (heq ▸ mem_cons_of_mem _ (mem_filter.mp hc).1)
    obtain ⟨g, hg⟩ := turns_keep hrest
    have hfirst : Turns [.moveZero ⟨0, w⟩ low 0] _ :=
      turns_set (f := fun _ _ => ofNat _ low <<< 0) fun _ _ => by
        rw [Instr.effect, if_pos ⟨hlow, rfl, by cases w <;> decide⟩]
    exact ⟨_, hfirst.append hg⟩

theorem length_immediate_pos (n : Int) : 0 < (immediateInstrs w n).length := by
  cases w <;> exact Nat.succ_pos _

/-- A conversion keeps the lower word. -/
theorem setWidth_converted (x : BitVec 64) : (converted w w' x).setWidth 32 = x.setWidth 32 := by
  cases w <;> cases w'
  · rfl
  · exact setWidth_signExtend _
  · exact BitVec.setWidth_setWidth_of_le _ (by decide)
  · rfl

end Straight

/-! ## 2. Code that leaves a value -/

namespace Run

/-- The stack pointer stands below the frame, and memory is as given outside the part of the stack where
    operands wait. -/
structure Ready (r : Run) (mem : Memory) (depth : Nat) (m : Machine.State) : Prop where
  framed : r.Framed depth m
  sees : ∀ e < 2 ^ 64, e ≤ 16 + r.frame ∨ r.limit < e → m.mem (below r.top e) = mem (below r.top e)

/-- What code without side effects leaves as it was: the stack pointer, all registers but three, and all
    memory but the free part of the stack. -/
structure Still (r : Run) (depth : Nat) (m m' : Machine.State) : Prop where
  sp : m'.sp = m.sp
  regs : ∀ i, i ≠ 0 → i ≠ 1 → i ≠ 9 → m'.regs i = m.regs i
  mem : ∀ e < 2 ^ 64, e ≤ depth ∨ r.limit < e → m'.mem (below r.top e) = m.mem (below r.top e)

/-- Code leaves a value in register 0, wherever it stands and however deep the stack is. -/
def Leaves (r : Run) (mem : Memory) (c : Code) (v : BitVec 64) : Prop :=
  ∀ ⦃pc depth : Nat⦄ ⦃m : Machine.State⦄, At r.code pc c → r.Ready mem depth m → depth + 3 * c.length ≤ r.limit →
      ∃ m', r.Leads (pc, m) (pc + c.length, m') ∧ r.Still depth m m' ∧ m'.regs 0 = v

/-- No named object lies in the part of the stack where operands wait. -/
def Apart (r : Run) : Prop :=
  ∀ name, ∀ i < 8, ∀ e, 16 + r.frame < e → e ≤ r.limit → r.address (.symbol name) + ofNat 64 i ≠ below r.top e

variable {r : Run} {mem : Memory} {depth pc : Nat} {m m1 m2 : Machine.State} {c c1 c2 c3 : Code}
  {v v1 v2 v3 : BitVec 64} {is : List Instr} {w w' : Width}

theorem Still.trans (h : r.Still depth m m1) (h' : r.Still depth m1 m2) : r.Still depth m m2 where
  sp := h'.sp.trans h.sp
  regs := fun i h0 h1 h9 => (h'.regs i h0 h1 h9).trans (h.regs i h0 h1 h9)
  mem := fun e he hr => (h'.mem e he hr).trans (h.mem e he hr)

theorem Still.of_quiet (h : Quiet m m1) : r.Still depth m m1 where
  sp := h.sp
  regs := fun i h0 _ _ => h.regs i h0
  mem := fun e _ _ => by rw [h.mem]

theorem Ready.still (h : r.Ready mem depth m) (hs : r.Still depth m m1) : r.Ready mem depth m1 where
  framed := ⟨(hs.regs 29 (by decide) (by decide) (by decide)).trans h.framed.frame,
    hs.sp.trans h.framed.stack, h.framed.deep⟩
  sees := fun e he hr => (hs.mem e he (by have := h.framed.deep; omega)).trans (h.sees e he hr)

/-- What is read outside the free part of the stack is what the given memory holds. -/
theorem Ready.read_slot (h : r.Ready mem depth m) {slot : Slot} (hs : slot.offset ≤ r.frame) :
    m.mem.read w.bytes (r.slot slot) = mem.read w.bytes (r.slot slot) := by
  have hw : w.bytes ≤ 8 := by cases w <;> decide
  have hfr := r.frame_le
  exact Memory.read_below_congr (by omega) fun e h1 _ => h.sees e (by omega) (by omega)

theorem Ready.read_symbol (h : r.Ready mem depth m) (ha : r.Apart) (name : String) :
    m.mem.read w.bytes (r.address (.symbol name)) = mem.read w.bytes (r.address (.symbol name)) := by
  have hw : w.bytes ≤ 8 := by cases w <;> decide
  apply Memory.read_congr
  intro i hi
  obtain ⟨e, he, heq⟩ := Machine.exists_below r.top (r.address (.symbol name) + ofNat 64 i)
  rw [heq]
  refine h.sees e he ?_
  by_contra hmid
  exact ha name i (by omega) e (by omega) (by omega) heq

theorem Leaves.does (h : r.Leaves mem c v) (hready : r.Ready mem depth m) (hlim : depth + 3 * c.length ≤ r.limit) :
    r.Does c m fun m' => r.Still depth m m' ∧ m'.regs 0 = v := fun _ hat => h hat hready hlim

theorem leaves_instrs (h : Turns is fun _ _ => v) : r.Leaves mem (instrs is) v := by
  intro pc depth m hat _ _
  obtain ⟨m', heff, hq, hv⟩ := h r.address m
  exact does_instrs heff ⟨.of_quiet hq, hv⟩ hat

/-- Straight code behind code that leaves a value. -/
theorem Leaves.turned {g : BitVec 64 → BitVec 64} (h : r.Leaves mem c v) (ht : Turns is fun x _ => g x) :
    r.Leaves mem (c ++ instrs is) (g v) := by
  intro pc depth m hat hready hlim
  rw [length_append] at hlim
  refine (h.does hready (by omega)).append (fun m1 ⟨hstill, hv⟩ => ?_) hat
  obtain ⟨m2, heff, hq, hv'⟩ := ht r.address m1
  exact does_instrs heff ⟨hstill.trans (.of_quiet hq), by rw [hv', hv]⟩

/-- The value of the first piece is given up. -/
theorem Leaves.comma (h1 : r.Leaves mem c1 v1) (h2 : r.Leaves mem c2 v2) : r.Leaves mem (c1 ++ c2) v2 := by
  intro pc depth m hat hready hlim
  rw [length_append] at hlim
  refine (h1.does hready (by omega)).append (fun m1 ⟨hstill1, _⟩ => ?_) hat
  exact (h2.does (hready.still hstill1) (by omega)).mono fun m2 ⟨hstill2, hv⟩ => ⟨hstill1.trans hstill2, hv⟩

/-! ## 3. Objects -/

theorem leaves_slot {slot : Slot} (hs : slot.offset ≤ r.frame) : r.Leaves mem (instrs [.loadSlot ⟨0, w⟩ slot.offset])
      ((mem.read w.bytes (r.slot slot)).setWidth 64) := by
  intro pc depth m hat hready _
  have hfr := r.frame_le
  have heff : (Instr.loadSlot ⟨0, w⟩ slot.offset).effect r.address m =
      some (m.set ⟨0, w⟩ (mem.read w.bytes (r.slot slot))) := by
    rw [Instr.effect, if_pos (by omega), hready.framed.frame, Machine.below_sub, ← hready.read_slot hs]
    rfl
  refine ⟨m.set ⟨0, w⟩ (mem.read w.bytes (r.slot slot)), hat.reaches_instrs ?_, ⟨rfl, ?_, fun _ _ _ => rfl⟩, rfl⟩
  · rw [effects, heff, Option.bind_some, effects]
  · exact fun i h0 _ _ => Machine.State.set_regs_other m ⟨0, w⟩ _ h0

/-- The address of a target is put into a register that no operand waits in. -/
theorem effects_address : effects r.address [.page i target, .pageOffset i target] m =
      some { m with regs := fun j => if j = i then r.address target else m.regs j } := by
  have hregs : (fun j => if j = i then
      setWidth 64 ((m.set ⟨i, .long⟩ (r.address target - Machine.inPage (r.address target))).regs i +
        Machine.inPage (r.address target)) else
      (m.set ⟨i, .long⟩ (r.address target - Machine.inPage (r.address target))).regs j) =
      fun j => if j = i then r.address target else m.regs j := by
    funext j
    by_cases hj : j = i
    · rw [if_pos hj, if_pos hj]
      have hvalue (a b : Address) : ((a - b).setWidth 64 + b).setWidth 64 = a := by
        rw [setWidth_eq, setWidth_eq, BitVec.sub_add_cancel]
      show setWidth 64 ((if i = i then setWidth 64 _ else _) + _) = _
      rw [if_pos rfl]
      exact hvalue _ _
    · rw [if_neg hj, if_neg hj]
      exact if_neg hj
  exact congrArg (fun regs => some { m with regs }) hregs

theorem leaves_symbol (ha : r.Apart) : r.Leaves mem (addressCode 9 (.symbol name) ++ instrs [.loadAt ⟨0, w⟩ 9])
      ((mem.read w.bytes (r.address (.symbol name))).setWidth 64) := by
  intro pc depth m hat hready _
  have hat' : At r.code pc (instrs [.page 9 (.symbol name), .pageOffset 9 (.symbol name), .loadAt ⟨0, w⟩ 9]) :=
    hat
  let m1 : Machine.State := { m with regs := fun j => if j = 9 then r.address (.symbol name) else m.regs j }
  have hload : (Instr.loadAt ⟨0, w⟩ 9).effect r.address m1 =
      some (m1.set ⟨0, w⟩ (mem.read w.bytes (r.address (.symbol name)))) := by
    rw [← hready.read_symbol ha name]
    rfl
  have hlast : effects r.address [.loadAt ⟨0, w⟩ 9] m1 =
      some (m1.set ⟨0, w⟩ (mem.read w.bytes (r.address (.symbol name)))) := by
    rw [effects, hload, Option.bind_some, effects]
  have heff := Machine.effects_append effects_address hlast
  refine ⟨_, hat'.reaches_instrs heff, ⟨rfl, fun i h0 _ h9 => ?_, fun _ _ _ => rfl⟩, rfl⟩
  exact (Machine.State.set_regs_other m1 ⟨0, w⟩ _ h0).trans (if_neg h9)

theorem leaves_label : r.Leaves mem (addressCode 0 (.label l)) (r.address (.label l)) := by
  intro pc depth m hat hready _
  exact ⟨_, hat.reaches_instrs effects_address, ⟨rfl, fun i h0 _ _ => if_neg h0, fun _ _ _ => rfl⟩, rfl⟩

/-! ## 4. Operators and branches -/

/-- **The left operand waits on the stack while the right one is computed**, and is in register 1 behind. -/
theorem Ready.spilled (hready : r.Ready mem depth m) (hmid : r.Leaves mem mid v)
    (hlim : depth + 16 + 3 * mid.length ≤ r.limit) :
    r.Does (instrs (spillInstrs w) ++ (mid ++ popCode 1)) m fun m' => r.Still depth m m' ∧
      m'.regs 0 = v ∧ m'.regs 1 = converted w .long (m.regs 0) := by
  have hdeep := hready.framed.deep
  have hcode : instrs (spillInstrs w) = instrs (conversion w .long) ++ pushCode := by cases w <;> rfl
  have hturns : Turns (conversion w .long) fun x _ => converted w .long x := turns_conversion
  obtain ⟨m1, hconvert, hq, hv1⟩ := hturns r.address m
  have hready1 := hready.still (.of_quiet hq)
  have hwaits := waits (i := 1) (Q := fun m2 => r.Still depth m { m2 with sp := m.sp } ∧ m2.regs 0 = v)
    hready1.framed (by omega) fun m2 hf2 hregs hmem => by
      have hready2 : r.Ready mem (depth + 16) m2 :=
        ⟨hf2, fun e he hr => (hmem e he (by omega)).trans (hready1.sees e he hr)⟩
      refine (hmid.does hready2 hlim).mono fun m3 ⟨hs, hv⟩ => ⟨hs.sp, ⟨⟨rfl, fun i h0 h1 h9 => ?_, ?_⟩, hv⟩, ?_⟩
      · exact ((hs.regs i h0 h1 h9).trans (congrFun hregs i)).trans (hq.regs i h0)
      · exact fun e he hr => ((hs.mem e he (by omega)).trans (hmem e he hr)).trans (by rw [hq.mem])
      · exact fun e _ h2 => hs.mem e (by have := r.limit_lt; omega) (.inl h2)
  rw [hcode, append_assoc]
  refine (does_instrs hconvert rfl).append ?_
  rintro _ rfl
  refine hwaits.mono fun m' ⟨m3, ⟨hs, hv⟩, hsp, hmem, hreg, hregs⟩ => ⟨⟨hsp.trans hq.sp, ?_, ?_⟩, ?_, ?_⟩
  · exact fun i h0 h1 h9 => (hregs i h1).trans (hs.regs i h0 h1 h9)
  · exact hmem ▸ hs.mem
  · exact (hregs 0 (by decide)).trans hv
  · exact hreg.trans hv1

/-- Straight code on two operands. -/
theorem Leaves.pair (h1 : r.Leaves mem c1 v1)
    (h2 : r.Leaves mem c2 v2) (ht : Turns is g) (hc : 0 < c1.length) (his : 0 < is.length) :
    r.Leaves mem (c1 ++ instrs (spillInstrs w) ++ (c2 ++ popCode 1) ++ instrs is) (g v2 (converted w .long v1)) := by
  intro pc depth m hat hready hlim
  have hspill : 2 ≤ (spillInstrs w).length := by cases w <;> decide
  have hpop : (popCode 1).length = 2 := rfl
  simp only [length_append, length_instrs, hpop] at hlim
  rw [append_assoc c1, append_assoc c1] at hat ⊢
  refine (h1.does hready (by omega)).append (fun m1 ⟨hstill1, hv1⟩ => ?_) hat
  refine ((hready.still hstill1).spilled h2 (by omega)).append fun m2 ⟨hstill2, hv2, hw2⟩ => ?_
  obtain ⟨m3, heff, hq, hv3⟩ := ht r.address m2
  refine does_instrs heff ⟨(hstill1.trans hstill2).trans (.of_quiet hq), ?_⟩
  rw [hv3, hv2, hw2, hv1]

theorem Leaves.logical (h1 : r.Leaves mem c1 v1) (h2 : r.Leaves mem c2 v2) :
    ∃ v, r.Leaves mem (c1 ++ [Line.instr (branchIf z ⟨0, w⟩ l)] ++ c2 ++
      [Line.instr (branchIf z ⟨0, w'⟩ l)] ++ verdictCode z l done) v := by
  refine ⟨if (v1.setWidth w.bits == 0) = z then bit !z else bit (v2.setWidth w'.bits != 0), ?_⟩
  intro pc depth m hat hready hlim
  simp only [length_append] at hlim
  refine (h1.does hready (by omega)).logical (fun m1 hm1 hz m' hq hv => ?_) (fun m1 hm1 hz => ?_) hat
  · obtain ⟨hstill1, rfl⟩ := hm1
    exact ⟨hstill1.trans (.of_quiet hq), hv.trans (if_pos hz).symm⟩
  · obtain ⟨hstill1, rfl⟩ := hm1
    refine (h2.does (hready.still hstill1) (by omega)).mono fun m2 hm2 m' hq hv => ?_
    obtain ⟨hstill2, rfl⟩ := hm2
    exact ⟨(hstill1.trans hstill2).trans (.of_quiet hq), hv.trans (if_neg hz).symm⟩

/-- One of two operands is looked at. -/
theorem Leaves.conditional (h1 : r.Leaves mem c1 v1) (h2 : r.Leaves mem c2 v2) (h3 : r.Leaves mem c3 v3) :
    r.Leaves mem (c1 ++ [Line.instr (.branchZero ⟨0, w⟩ otherwise)] ++ c2 ++ [Line.instr (.branch done)] ++
      [Line.label otherwise] ++ c3 ++ [Line.label done]) (if v1.setWidth w.bits = 0 then v3 else v2) := by
  intro pc depth m hat hready hlim
  simp only [length_append] at hlim
  refine (h1.does hready (by omega)).conditional (fun m1 hm1 hz => ?_) (fun m1 hm1 hz => ?_) hat
  · obtain ⟨hstill1, rfl⟩ := hm1
    exact (h3.does (hready.still hstill1) (by omega)).mono fun m2 ⟨hstill2, hv⟩ =>
      ⟨hstill1.trans hstill2, hv.trans (if_pos hz).symm⟩
  · obtain ⟨hstill1, rfl⟩ := hm1
    exact (h2.does (hready.still hstill1) (by omega)).mono fun m2 ⟨hstill2, hv⟩ =>
      ⟨hstill1.trans hstill2, hv.trans (if_neg hz).symm⟩

end Run

/-! ## 5. Expressions without side effects -/

/-- Whether an expression has no side effect of its own. -/
def isPure : Expr NodeId → Bool
  | .assign .. | .update .. | .call .. => false
  | _ => true

section Expressions

variable {r : Run} {mem : Memory} {scene : Scene} {st st' : State} {code : Code} {name : String} {t : CType}

/-- Every local, declared or still to be declared, lies in the frame. -/
def Inside (r : Run) (st : State) : Prop := ∀ slot ∈ st.slots, slot.offset ≤ r.frame

theorem Inside.mono (h : Inside r st) (hsub : st'.slots.Subperm st.slots) : Inside r st' :=
  fun slot hm => h slot (hsub.subset hm)

theorem Loads.leaves (h : Loads scene st name code t) (hin : Inside r st) (ha : r.Apart) :
    0 < code.length ∧ ∃ v, r.Leaves mem code v := by
  cases h with
  | slot hs =>
    have hmem := mem_append_left st.pending (mem_map_of_mem (f := (·.2)) (Run.mem_of_slotOf hs))
    exact ⟨Nat.succ_pos _, _, Run.leaves_slot (hin _ hmem)⟩
  | global => exact ⟨Nat.succ_pos _, _, Run.leaves_symbol ha⟩

theorem ExprGen.eq_of_slotOf (h : ExprGen scene st (.ident a name) code t st')
    (hs : slotOf st.scopes name = some slot) : t = slot.type ∧ st' = st := by
  cases h with
  | ident h =>
    cases h with
    | slot hs' =>
      cases hs.symm.trans hs'
      exact ⟨rfl, rfl⟩
    | global hs' => cases hs.symm.trans hs'
  | measure hm => cases hm

theorem Converts.leaves (h : Converts source target convert) (hc : r.Leaves mem c v) : ∃ v', r.Leaves mem (c ++ convert) v' := by
  obtain ⟨w, w', rfl⟩ := h.exists_instrs
  exact ⟨_, hc.turned turns_conversion⟩

theorem length_compute_pos (op : ArithOp) (w count : Width) : 0 < (computeInstrs op w count).length := by
  cases op <;> exact Nat.succ_pos _

theorem computeInstrs_of_legal {op : ArithOp} {w count : Width} (h : Legal (instrs (computeInstrs op w count))) :
    computeInstrs op w count = computeInstrs op w w := by
  have hcount := legal_compute_iff.mp h
  cases op with
  | shl | shr => rw [hcount rfl]
  | _ => rfl

/-- **The code of an expression without side effects leaves a value.** -/
theorem ExprGen.leaves {e : Expr NodeId} (h : ExprGen scene st e code t st')
    (hpure : allEmitted scene isPure e) (hlegal : Legal code) (hin : Inside r st) (ha : r.Apart) :
    0 < code.length ∧ ∃ v, r.Leaves mem code v := by
  induction h using @ExprGen.rec scene _ (fun _ _ _ _ _ _ => True) with
    try simp only [allEmitted, isPure, Bool.true_and, Bool.and_eq_true, legal_append] at hpure hlegal
  | int | char | measure =>
    obtain ⟨v, hv⟩ := turns_immediate _
    exact ⟨by rw [length_instrs]; exact length_immediate_pos _, v, Run.leaves_instrs hv⟩
  | string => exact ⟨Nat.succ_pos _, _, Run.leaves_label⟩
  | ident h => exact h.leaves hin ha
  | sign _ _ _ hc _ ih =>
    obtain ⟨hpos, v, hv⟩ := ih hpure hlegal.1.1 hin
    obtain ⟨v', hv'⟩ := hc.leaves hv
    obtain ⟨g, hg⟩ := turns_sign _
    exact ⟨by simp only [length_append]; omega, _, hv'.turned hg⟩
  | logicalNot _ _ ih =>
    obtain ⟨hpos, v, hv⟩ := ih hpure hlegal.1 hin
    exact ⟨by simp only [length_append]; omega, _, hv.turned turns_not⟩
  | logicalAnd hl _ _ _ ihl ihr =>
    obtain ⟨hpos, v1, hv1⟩ := ihl hpure.1 hlegal.1.1.1.1 hin
    obtain ⟨-, v2, hv2⟩ := ihr hpure.2 hlegal.1.1.2 (hin.mono hl.calm.kept.slots)
    exact ⟨by simp only [length_append]; omega, hv1.logical (z := true) hv2⟩
  | logicalOr hl _ _ _ _ _ ihl ihr =>
    obtain ⟨hpos, v1, hv1⟩ := ihl hpure.1 hlegal.1.1.1.1 hin
    obtain ⟨-, v2, hv2⟩ := ihr hpure.2 hlegal.1.1.2 (hin.mono hl.calm.kept.slots)
    exact ⟨by simp only [length_append]; omega, hv1.logical (z := false) hv2⟩
  | arith hl ht hc hw _ htarget hc' hcount _ ihl ihr =>
    obtain ⟨hpos, v1, hv1⟩ := ihl hpure.1 hlegal.1.1.1.1 hin
    obtain ⟨-, v2, hv2⟩ := ihr hpure.2 hlegal.1.2.1.1 (hin.mono hl.calm.kept.slots)
    obtain ⟨v1', hv1'⟩ := hc.leaves hv1
    obtain ⟨v2', hv2'⟩ := hc'.leaves hv2
    rw [computeInstrs_of_legal hlegal.2]
    obtain ⟨g, hg⟩ := turns_compute _
    exact ⟨by simp only [length_append]; omega, _,
      hv1'.pair hv2' hg (by simp only [length_append]; omega) (length_compute_pos ..)⟩
  | relation hl _ hc _ _ hc' ihl ihr =>
    obtain ⟨hpos, v1, hv1⟩ := ihl hpure.1 hlegal.1.1.1.1 hin
    obtain ⟨-, v2, hv2⟩ := ihr hpure.2 hlegal.1.2.1.1 (hin.mono hl.calm.kept.slots)
    obtain ⟨v1', hv1'⟩ := hc.leaves hv1
    obtain ⟨v2', hv2'⟩ := hc'.leaves hv2
    exact ⟨by simp only [length_append]; omega, _,
      hv1'.pair hv2' (turns_relation _) (by simp only [length_append]; omega) (Nat.succ_pos _)⟩
  | comma hl _ ihl ihr =>
    obtain ⟨hpos, v1, hv1⟩ := ihl hpure.1 hlegal.1 hin
    obtain ⟨-, v2, hv2⟩ := ihr hpure.2 hlegal.2 (hin.mono hl.calm.kept.slots)
    exact ⟨by simp only [length_append]; omega, _, hv1.comma hv2⟩
  | conditional _ hc _ hthen _ hcv _ _ hcv' ihc iht ihe =>
    have hin1 : Inside r _ := hin.mono hc.calm.kept.slots
    have hin2 := hin1.mono hthen.calm.kept.slots
    obtain ⟨hpos, v1, hv1⟩ := ihc hpure.1.1 hlegal.1.1.1.1.1.1 hin
    obtain ⟨-, v2, hv2⟩ := iht hpure.1.2 hlegal.1.1.1.1.2.1 hin1
    obtain ⟨-, v3, hv3⟩ := ihe hpure.2 hlegal.1.2.1 hin2
    obtain ⟨v2', hv2'⟩ := hcv.leaves hv2
    obtain ⟨v3', hv3'⟩ := hcv'.leaves hv3
    exact ⟨by simp only [length_append]; omega, _, hv1.conditional hv2' hv3'⟩
  | cast _ _ hc ih =>
    obtain ⟨hpos, v, hv⟩ := ih hpure hlegal.1 hin
    refine ⟨by simp only [length_append]; omega, ?_⟩
    rcases hc with ⟨-, rfl⟩ | ⟨-, hc⟩
    · rw [append_nil]
      exact ⟨v, hv⟩
    · exact hc.leaves hv
  | assign | assignOp | update | postUpdate | call => simp at hpure
  | nil | cons => trivial

theorem Converts.eq_nil (h : Converts source target code)
    (hs : widthOf source = .ok w) (ht : widthOf target = .ok w) : code = [] := by
  cases h with
  | void => rfl
  | widths hs' ht' =>
    cases hs.symm.trans hs'
    cases ht.symm.trans ht'
    cases w <;> rfl

/-- A store keeps register 0. -/
theorem Stores.runs (h : Stores scene st name t code) (hin : Inside r st) (hat : At r.code pc code)
    (m : Machine.State) : ∃ m', r.Leads (pc, m) (pc + code.length, m') ∧ m'.regs 0 = m.regs 0 := by
  have hfr := r.frame_le
  cases h with
  | @slot slot w hs =>
    have hmem := mem_append_left st.pending (mem_map_of_mem (f := (·.2)) (Run.mem_of_slotOf hs))
    have hreach : slot.offset ≤ 256 := Nat.le_trans (hin _ hmem) hfr
    refine ⟨m.store w (m.regs 29 - ofNat 64 slot.offset) (m.get ⟨0, w⟩), hat.reaches_instrs ?_, rfl⟩
    rw [effects, Instr.effect, if_pos hreach]
    rfl
  | @global _ w =>
    have hat' : At r.code pc (instrs ([.page 9 (.symbol name), .pageOffset 9 (.symbol name)] ++
      [.storeAt ⟨0, w⟩ 9])) := hat
    exact ⟨_, hat'.reaches_instrs (Machine.effects_append Run.effects_address rfl), rfl⟩

end Expressions

/-! ## 6. Functions of two arguments -/

namespace Pairing

open Counting (intSpec)
open Shifting (longSpec)

/-- An operator on the parameters. -/
def pair (op : BinaryOp) : Expr NodeId := .binary 3 op (.ident 4 "a") (.ident 5 "b")

/-- The function `int f(T a, T b)` that returns it. -/
def function (spec : NodeId → TypeSpec NodeId) (op : BinaryOp) : FunctionDef NodeId where
  returnType := intSpec 0
  name := "f"
  params := [⟨spec 1, some "a"⟩, ⟨spec 2, some "b"⟩]
  body := some [.return_ (some (pair op))]

/-- The types of the expressions in it. -/
def types (t : CType) (a : NodeId) : Option CType :=
  if a = 3 then some .int else if a = 4 ∨ a = 5 then some t else none

/-- A call with two arguments. -/
def start (x y : BitVec 64) : Machine.State where
  regs := fun i => if i = 0 then x else if i = 1 then y else 0
  sp := 0x10000
  mem := fun _ => 0
  flags := ⟨false, false, false⟩

/-- What the function returns when it has run so many lines. -/
def returned? (spec : NodeId → TypeSpec NodeId) (t : CType) (op : BinaryOp) (lines : Nat) (x y : BitVec 64) :
    Option (BitVec 32) := do
  let code ← (programCode (types t) ⟨[.function (function spec op)]⟩).toOption
  let (pc, m) ← Machine.runFor (fun _ => 0) code lines (1, start x y)
  if code[pc]? = some (.instr .ret) then some (m.get (word 0)) else none

def scene (t : CType) : Scene := { typeOf := types t }

/-- The state in front of the expression. -/
def state (t : CType) : State := { scopes := [[("a", ⟨8, t⟩), ("b", ⟨16, t⟩)]] }

/-- The expression runs alone. -/
def run (is : List Instr) (h : is.length < 100) : Run where
  address := fun _ => 0
  code := instrs is
  top := 0x10000
  frame := 16
  once := fun l => by rw [count_instrs]; exact Nat.zero_le 1
  frame_le := by decide
  room := by rw [length_instrs]; omega

theorem run_apart : (run is h).Apart := by
  intro name i hi e he hle heq
  have hlen : 32 + 3 * is.length = (run is h).limit := by
    unfold Run.limit run
    rw [length_instrs]
    rfl
  have hvalue : (0 : BitVec 64) + ofNat 64 i = 0x10000 - ofNat 64 e := heq
  bv_omega

theorem inside_state : Inside (run is h) (state t) := by
  intro slot hm
  simp only [State.slots, state, flatten_cons, flatten_nil, append_nil, map_cons,
    map_nil, mem_cons, not_mem_nil, or_false] at hm
  rcases hm with rfl | rfl
  · show 8 ≤ 16
    decide
  · show 16 ≤ 16
    decide

/-- The code of `a % b` for two values of type `int`. -/
def remInstrs : List Instr :=
  [.loadSlot (word 0) 8, .extend, .growStack 16, .storeTop, .loadSlot (word 0) 16, .loadTop 1, .shrinkStack 16,
   .operate .sdiv (word 0) (word 1) (word 0), .multiplySub (word 0) (word 0) (word 1) (word 1)]

theorem exprCode_rem : exprCode (pair (.arith .rem)) (scene .int) (state .int) =
    .ok ((instrs remInstrs, .int), state .int) := by
  unfold pair
  rw [exprCode]
  · cbv
  all_goals decide

/-- The code of `a < b` for two values of type `long`. -/
def lessInstrs : List Instr :=
  [.loadSlot ⟨0, .long⟩ 8, .truncate, .extend, .growStack 16, .storeTop, .loadSlot ⟨0, .long⟩ 16, .truncate,
   .loadTop 1, .shrinkStack 16, .compare (word 1) (word 0), .setIf .lt]

theorem exprCode_less : exprCode (pair (.relation .lt)) (scene .long) (state .long) =
    .ok ((instrs lessInstrs, .int), state .long) := by
  unfold pair
  rw [exprCode]
  · cbv
  all_goals decide

end Pairing

/-! ## 7. Remainders -/

/-- The operands of a remainder: those of `%`, and the object and the value of `%=`. -/
def remainderOperands? : Expr NodeId → Option (Expr NodeId × Expr NodeId)
  | .binary _ (.arith .rem) left right => some (left, right)
  | .assign _ (.compound .rem) (.ident a name) value => some (.ident a name, value)
  | _ => none

/-- Code ends with a value in register 0. -/
def Run.Gives (r : Run) (mem : Memory) (c : Code) (v : BitVec 64) : Prop :=
  ∀ ⦃pc depth : Nat⦄ ⦃m : Machine.State⦄, At r.code pc c → r.Ready mem depth m →
    depth + 3 * c.length ≤ r.limit → ∃ m', r.Leads (pc, m) (pc + c.length, m') ∧ m'.regs 0 = v

section Remainders

variable {r : Run} {mem : Memory} {scene : Scene} {st st' : State} {code : Code} {t : CType} {w : Width}
  {c1 c2 : Code} {x y : BitVec 64}

theorem Run.Leaves.gives (h : r.Leaves mem code v) : r.Gives mem code v := by
  intro pc depth m hat hready hlim
  obtain ⟨m', hrun, -, hv⟩ := h hat hready hlim
  exact ⟨m', hrun, hv⟩

theorem setWidth_converted_long (x : BitVec 64) : (converted w .long x).setWidth w.bits = x.setWidth w.bits := by
  cases w
  · exact setWidth_signExtend _
  · rfl

/-- The value that the code of a remainder leaves. -/
def remainderValue (w : Width) (x y : BitVec w.bits) : BitVec w.bits := x - x.sdiv y * x

theorem leaves_remainder (h1 : r.Leaves mem c1 x) (h2 : r.Leaves mem c2 y) (hc : 0 < c1.length) :
    r.Leaves mem (c1 ++ instrs (spillInstrs w) ++ (c2 ++ popCode 1) ++ instrs (computeInstrs .rem w w))
      ((remainderValue w (x.setWidth w.bits) (y.setWidth w.bits)).setWidth 64) := by
  have h := h1.pair (w := w) h2 (turns_rem (w := w)) hc (length_compute_pos ..)
  rw [setWidth_converted_long] at h
  exact h

theorem remainderValue_eq_iff (x y : BitVec w.bits) :
    remainderValue w x y = x - y * x.sdiv y ↔ x.sdiv y * (x - y) = 0 := by
  unfold remainderValue
  rw [sub_right_inj, mul_sub, sub_eq_zero, mul_comm y]

/-- **The code of a remainder leaves the dividend less the product of quotient and dividend**, for `%` and for
    `%=` with operands of one width. That is C's remainder exactly when the quotient or the difference of the
    operands makes the error vanish. -/
theorem remainder_gives {e left right : Expr NodeId} (h : exprCode e scene st = .ok ((code, t), st'))
    (he : remainderOperands? e = some (left, right)) (hleft : allEmitted scene isPure left = true)
    (hright : allEmitted scene isPure right = true) (hw : widthOf t = .ok w) (hlegal : Legal code)
    (hin : Inside r st) (ha : r.Apart) :
    ∃ leftCode rightCode tl tr st₁, ExprGen scene st left leftCode tl st₁ ∧ ExprGen scene st₁ right rightCode tr st' ∧
      (widthOf tl = .ok w → widthOf tr = .ok w → (∀ u, scene.typeOf right.note = some u → widthOf u = .ok w) →
        ∀ mem, ∃ x y, r.Leaves mem leftCode x ∧ r.Leaves mem rightCode y ∧
          r.Gives mem code ((remainderValue w (x.setWidth w.bits) (y.setWidth w.bits)).setWidth 64) ∧
          (remainderValue w (x.setWidth w.bits) (y.setWidth w.bits) =
              x.setWidth w.bits - y.setWidth w.bits * (x.setWidth w.bits).sdiv (y.setWidth w.bits) ↔
            (x.setWidth w.bits).sdiv (y.setWidth w.bits) * (x.setWidth w.bits - y.setWidth w.bits) = 0)) := by
  cases exprCode_gen e h with
  | @arith _ _ _ _ op _ _ leftCode convert rightCode convert' tl tr _ target w' count
      hl ht hc hw' hr htarget hc' hcount =>
    cases op <;> cases he
    cases hw.symm.trans hw'
    simp only [legal_append] at hlegal
    refine ⟨leftCode, rightCode, tl, tr, _, hl, hr, fun htl htr hu mem => ?_⟩
    obtain ⟨hpos, x, hx⟩ := hl.leaves hleft hlegal.1.1.1.1 hin ha
    obtain ⟨-, y, hy⟩ := hr.leaves hright hlegal.1.2.1.1 (hin.mono hl.calm.kept.slots) ha
    cases htarget
    refine ⟨x, y, hx, hy, ?_, remainderValue_eq_iff _ _⟩
    rw [hc.eq_nil htl hw, hc'.eq_nil htr hw, List.append_nil, List.append_nil]
    exact (leaves_remainder hx hy hpos).gives
  | @assignOp _ _ _ b op name _ load rightCode convert store _ s tr v w' ht hint hl hw' hr hv hc hs =>
    cases op <;> cases he
    cases hw.symm.trans hw'
    simp only [legal_append] at hlegal
    refine ⟨load, rightCode, s, tr, st, .ident hl, hr, fun htl htr hu mem => ?_⟩
    obtain ⟨hpos, x, hx⟩ := hl.leaves hin ha
    obtain ⟨-, y, hy⟩ := hr.leaves hright hlegal.1.1.2.1.1 hin ha
    refine ⟨x, y, hx, hy, ?_, remainderValue_eq_iff _ _⟩
    rw [hc.eq_nil (hu v hv) hw, List.append_nil]
    intro pc depth m hat hready hlim
    rw [List.length_append] at hlim ⊢
    obtain ⟨m₁, hrun, -, hv₁⟩ := leaves_remainder hx hy hpos hat.left hready (by omega)
    obtain ⟨m₂, hrun₂, hv₂⟩ := hs.runs (hin.mono hr.calm.kept.slots) hat.right m₁
    exact ⟨m₂, (hrun.trans hrun₂).cast (by omega), hv₂.trans hv₁⟩
  | measure hm => cases e <;> cases hm <;> cases he
  | _ => cases he

/-- The code of `a % b` gives the value of a remainder, as the code of both operands leaves one. -/
theorem Pairing.remainder_of_locals : ∃ x y : BitVec 64,
    (Pairing.run Pairing.remInstrs (by decide)).Gives (fun _ => 0) (instrs Pairing.remInstrs)
      ((remainderValue .word (x.setWidth 32) (y.setWidth 32)).setWidth 64) := by
  have hlegal : Legal (instrs Pairing.remInstrs) := legal_instrs.mpr (by decide)
  obtain ⟨leftCode, rightCode, tl, tr, st₁, hl, hr, hvalue⟩ := remainder_gives Pairing.exprCode_rem rfl rfl rfl
    (widthOf_int rfl) hlegal Pairing.inside_state Pairing.run_apart
  obtain ⟨rfl, rfl⟩ := hl.eq_of_slotOf rfl
  obtain ⟨rfl, -⟩ := hr.eq_of_slotOf rfl
  have hright : ∀ u, (Pairing.scene .int).typeOf 5 = some u → widthOf u = .ok .word := by
    rintro u ⟨⟩
    exact widthOf_int rfl
  obtain ⟨x, y, -, -, h, -⟩ := hvalue (widthOf_int rfl) (widthOf_int rfl) hright fun _ => 0
  exact ⟨x, y, h⟩

/-- **The function that returns `a % b` returns -14 for 7 and 2**, where C asks for 1. -/
theorem Pairing.remainder_of_seven : Pairing.returned? Counting.intSpec .int (.arith .rem) 21 7 2 = some (-14) ∧
      (7 : BitVec 32) - 2 * (7 : BitVec 32).sdiv 2 = 1 := by
  constructor
  · cbv
  · decide

end Remainders

/-! ## 8. Comparisons -/

/-- The number that a register of some width holds. -/
def valueOf (w : Width) (v : BitVec 64) : Int := (v.setWidth w.bits).toInt

section Comparisons

variable {r : Run} {mem : Memory} {scene : Scene} {st st' : State} {code : Code} {t : CType}

theorem relates_condition (op : Relation) (x y : BitVec n) :
    (condition op).relates x y = Analysis.evalRelation op x.toInt y.toInt := by
  cases op with
  | lt | gt => exact BitVec.slt_eq_decide
  | le | ge => exact BitVec.sle_eq_decide
  | eq =>
    exact (beq_eq_decide x y).trans (decide_eq_decide.mpr BitVec.toInt_inj.symm)
  | ne =>
    have heq : (x == y) = decide (x.toInt = y.toInt) :=
      (beq_eq_decide x y).trans (decide_eq_decide.mpr BitVec.toInt_inj.symm)
    exact (congrArg (! ·) heq).trans (decide_not).symm

theorem valueOf_word (hlo : -2 ^ 31 ≤ valueOf w v) (hhi : valueOf w v < 2 ^ 31) : valueOf .word v = valueOf w v := by
  cases w with
  | word => rfl
  | long =>
    have hlong : valueOf .long v = v.toInt := congrArg BitVec.toInt (setWidth_eq v)
    have hword : valueOf .word v = (v.setWidth 32).toInt := rfl
    rw [hlong] at hlo hhi ⊢
    rw [hword, BitVec.toInt_eq_toNat_cond, BitVec.toNat_setWidth]
    rw [BitVec.toInt_eq_toNat_cond] at hlo hhi ⊢
    split_ifs at hlo hhi ⊢ <;> omega

theorem Converts.of_int (h : Converts source .int code) :
    ∃ w, widthOf source = .ok w ∧ code = instrs (conversion w .word) := by
  cases h with
  | void h => cases (show (CType.int == .void) = false by cbv).symm.trans h
  | widths hs ht =>
    cases ht.symm.trans (widthOf_int rfl)
    exact ⟨_, hs, rfl⟩

/-- Operands that are integers are compared in the type of the comparison. -/
theorem typeOf_of_operandType (h : operandType e op left right scene st = .ok (t, st')) (hu : scene.typeOf left.note = some u)
    (hu' : scene.typeOf right.note = some u') (hi : isMachineInteger u)
    (hi' : isMachineInteger u') : scene.typeOf e.note = some t := by
  have hpointer : ∀ {v : CType}, isMachineInteger v → v.isPointer = false := by
    intro v hv
    unfold isMachineInteger at hv
    rw [Bool.and_eq_true, List.isEmpty_iff] at hv
    unfold CType.isPointer CType.pointee?
    rw [hv.1]
    rfl
  obtain ⟨-, l, r, hl, hr, hp | hresult⟩ := Yields.operandType h
  · cases hu.symm.trans hl
    cases hu'.symm.trans hr
    rw [hpointer hi, hpointer hi'] at hp
    cases hp.2
  · exact hresult

/-- **A comparison of integers compares the lower words**, also of operands that are longer. That is what C
    asks for as long as the values of both operands are values of type `int`. -/
theorem comparison_leaves {a : NodeId} {op : Relation} {left right : Expr NodeId} {u u' : CType}
    (h : exprCode (.binary a (.relation op) left right) scene st = .ok ((code, t), st'))
    (hint : scene.typeOf a = some .int) (hu : scene.typeOf left.note = some u)
    (hu' : scene.typeOf right.note = some u') (hi : isMachineInteger u = true)
    (hi' : isMachineInteger u' = true) (hleft : allEmitted scene isPure left = true)
    (hright : allEmitted scene isPure right = true) (hlegal : Legal code) (hin : Inside r st) (ha : r.Apart) :
    ∃ leftCode rightCode tl tr w w' st₁, ExprGen scene st left leftCode tl st₁ ∧
      ExprGen scene st₁ right rightCode tr st' ∧ widthOf tl = .ok w ∧ widthOf tr = .ok w' ∧
      ∀ mem, ∃ x y, r.Leaves mem leftCode x ∧ r.Leaves mem rightCode y ∧
        r.Leaves mem code (bit (Analysis.evalRelation op (valueOf .word x) (valueOf .word y))) ∧
        (-2 ^ 31 ≤ valueOf w x → valueOf w x < 2 ^ 31 → -2 ^ 31 ≤ valueOf w' y → valueOf w' y < 2 ^ 31 →
          Analysis.evalRelation op (valueOf .word x) (valueOf .word y) =
            Analysis.evalRelation op (valueOf w x) (valueOf w' y)) := by
  cases exprCode_gen _ h with
  | @relation _ _ _ _ _ _ _ leftCode convert rightCode convert' tl tr t' w' hl ht hc hw hr hc' =>
    cases hint.symm.trans (typeOf_of_operandType ht hu hu' hi hi')
    cases hw.symm.trans (widthOf_int rfl)
    simp only [legal_append] at hlegal
    obtain ⟨w, htl, rfl⟩ := hc.of_int
    obtain ⟨w', htr, rfl⟩ := hc'.of_int
    refine ⟨leftCode, rightCode, tl, tr, w, w', _, hl, hr, htl, htr, fun mem => ?_⟩
    obtain ⟨hpos, x, hx⟩ := hl.leaves hleft hlegal.1.1.1.1 hin ha
    obtain ⟨-, y, hy⟩ := hr.leaves hright hlegal.1.2.1.1 (hin.mono hl.calm.kept.slots) ha
    refine ⟨x, y, hx, hy, ?_, ?_⟩
    · have hx' : r.Leaves mem (leftCode ++ instrs (conversion w .word)) _ := hx.turned turns_conversion
      have hy' : r.Leaves mem (rightCode ++ instrs (conversion w' .word)) _ := hy.turned turns_conversion
      have hpair := hx'.pair (w := .word) hy' (turns_relation (w := .word) (condition op))
        (by rw [List.length_append]; omega) (Nat.succ_pos _)
      have hvalue : ∀ (x : BitVec 64) (w : Width), (converted w .word x).setWidth Width.word.bits =
          x.setWidth Width.word.bits := fun x w => setWidth_converted x
      rw [setWidth_converted_long, hvalue, hvalue, relates_condition] at hpair
      exact hpair
    · intro hlo hhi hlo' hhi'
      rw [valueOf_word hlo hhi, valueOf_word hlo' hhi']
  | measure hm => cases hm

/-- The code of `a < b` compares the lower words of two values of type `long`. -/
theorem Pairing.comparison_of_locals : ∃ x y : BitVec 64,
    (Pairing.run Pairing.lessInstrs (by decide)).Leaves (fun _ => 0) (instrs Pairing.lessInstrs)
      (bit (Analysis.evalRelation .lt (valueOf .word x) (valueOf .word y))) := by
  have hlegal : Legal (instrs Pairing.lessInstrs) := legal_instrs.mpr (by decide)
  obtain ⟨_, _, _, _, _, _, _, -, -, -, -, hvalue⟩ := comparison_leaves Pairing.exprCode_less rfl rfl rfl rfl rfl rfl rfl hlegal
    Pairing.inside_state Pairing.run_apart
  obtain ⟨x, y, -, -, h, -⟩ := hvalue fun _ => 0
  exact ⟨x, y, h⟩

/-- **The function that returns `a < b` returns 0 for the values 0 and 2³² of type `long`**, where C asks
    for 1. -/
theorem Pairing.comparison_of_longs :
    Pairing.returned? Shifting.longSpec .long (.relation .lt) 23 0 0x100000000 = some 0 ∧
      Analysis.evalRelation .lt (valueOf .long 0) (valueOf .long 0x100000000) = true := by
  constructor
  · cbv
  · decide

end Comparisons

end CCompiler.Codegen
