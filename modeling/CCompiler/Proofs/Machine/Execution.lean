import CCompiler.Proofs.Machine.Memory

/-!
# Execution of machine code

What the instructions of the target do. A register of 64 bits is used whole or by its lower word; writing
the word clears the upper half. An instruction that cannot be encoded -- an immediate out of its range, or
operands of different widths -- has no effect at all, and code that reaches it is stuck.

* `Instr.effect` -- the effect of an instruction that goes on to the next line;
* `step`, `runFor`, `Reaches` -- one line of code, so many lines, and any number of lines;
* `At` -- that a piece of code stands at a place of a larger one;
* `reaches_instrs` -- straight code runs as its instructions do, one after the other.
-/
namespace CCompiler.Machine

open List
open BitVec (ofNat)

variable {l : Label} {r : Reg} {target : Nat}

/-! ## 1. States -/

/-- What the last comparison found: the sign of the difference, whether it is zero, and whether it is out
    of the range of its width. -/
structure Flags where
  negative : Bool
  zero : Bool
  overflow : Bool
deriving Repr, DecidableEq

/-- The machine between two instructions. -/
structure State where
  regs : Nat → BitVec 64
  sp : Address
  mem : Memory
  flags : Flags

namespace State

/-- The value of a register. -/
def get (s : State) (r : Reg) : BitVec r.width.bits := (s.regs r.index).setWidth r.width.bits

/-- A register with a new value. -/
def set (s : State) (r : Reg) (v : BitVec r.width.bits) : State :=
  { s with regs := fun i => if i = r.index then v.setWidth 64 else s.regs i }

/-- Memory with a new value of some width. -/
def store (s : State) (w : Width) (a : Address) (v : BitVec w.bits) : State :=
  { s with mem := s.mem.write w.bytes a v }

/-- A register with a value from memory. -/
def load (s : State) (r : Reg) (a : Address) : State := s.set r (s.mem.read r.width.bytes a)

theorem set_regs_other (s : State) (r : Reg) (v) (h : i ≠ r.index) : (s.set r v).regs i = s.regs i := if_neg h

/-- A register holds what was written into it. -/
@[simp] theorem get_set (s : State) (r : Reg) (v) : (s.set r v).get r = v := by
  have hw : r.width.bits ≤ 64 := by cases r.width <;> decide
  show BitVec.setWidth _ (if r.index = r.index then _ else _) = v
  rw [if_pos rfl, BitVec.setWidth_setWidth_of_le _ hw, BitVec.setWidth_eq]

end State

/-! ## 2. Operations and comparisons -/

/-- The result of an operation. A shift takes its count by the width of the register. -/
def Operation.eval {n : Nat} (left right : BitVec n) : Operation → BitVec n
  | .add => left + right
  | .sub => left - right
  | .mul => left * right
  | .sdiv => left.sdiv right
  | .and => left &&& right
  | .eor => left ^^^ right
  | .orr => left ||| right
  | .lsl => left <<< (right.toNat % n)
  | .asr => left.sshiftRight (right.toNat % n)

/-- What a comparison of two values finds. -/
def Flags.compare {n : Nat} (left right : BitVec n) : Flags where
  negative := (left - right).msb
  zero := left - right == 0
  overflow := (left - right).toInt != left.toInt - right.toInt

/-- Whether a condition holds of the last comparison. -/
def Condition.holds (flags : Flags) : Condition → Bool
  | .lt => flags.negative != flags.overflow
  | .le => flags.zero || flags.negative != flags.overflow
  | .gt => !flags.zero && flags.negative == flags.overflow
  | .ge => flags.negative == flags.overflow
  | .eq => flags.zero
  | .ne => !flags.zero

/-- A difference out of range is taken once around. -/
theorem bmod_sub_cases (hm : 0 < m) (hlo : -m < x) (hhi : x < m) :
    x.bmod m.toNat = x ∨ x < 0 ∧ x.bmod m.toNat = x + m ∨ 0 ≤ x ∧ x.bmod m.toNat = x - m := by
  have hnat : (m.toNat : Int) = m := Int.toNat_of_nonneg (by omega)
  rw [Int.bmod_def, hnat]
  by_cases hx : x < 0
  · have hmod : x % m = x + m := by
      rw [← Int.add_emod_right, Int.emod_eq_of_lt (by omega) (by omega)]
    split <;> omega
  · rw [Int.emod_eq_of_lt (by omega) hhi]
    split <;> omega

variable {n : Nat} {is : List Instr} {s t : State} {c d e : Nat × State} {line : Line}

/-- **Sign and overflow together say which of two values is less.** -/
theorem negative_ne_overflow (left right : BitVec n) :
    ((Flags.compare left right).negative != (Flags.compare left right).overflow) = left.slt right := by
  rcases n with _ | n
  · simp [BitVec.of_length_zero, Flags.compare]
  have hl := BitVec.le_toInt left
  have hl' := BitVec.toInt_lt (x := left)
  have hr := BitVec.le_toInt right
  have hr' := BitVec.toInt_lt (x := right)
  have hnat : ((2 : Int) ^ (n + 1)).toNat = 2 ^ (n + 1) := by
    rw [show (2 : Int) ^ (n + 1) = ((2 ^ (n + 1) : Nat) : Int) from rfl, Int.toNat_natCast]
  rw [Nat.add_sub_cancel] at hl hl' hr hr'
  have hcases := bmod_sub_cases (x := left.toInt - right.toInt) (m := 2 ^ (n + 1)) (by omega) (by omega) (by omega)
  rw [hnat, ← BitVec.toInt_sub] at hcases
  rw [BitVec.slt_eq_decide]
  simp only [Flags.compare, BitVec.msb_eq_toInt]
  have hover : (left - right).toInt ≠ left.toInt - right.toInt → _ := bne_iff_ne.mpr
  rcases hcases with h | ⟨h, h'⟩ | ⟨h, h'⟩
  · rw [h]
    simp only [bne_self_eq_false, Bool.bne_false, decide_eq_decide]
    omega
  · rw [hover (by omega), decide_eq_false (by omega), decide_eq_true (by omega)]
    rfl
  · rw [hover (by omega), decide_eq_true (by omega), decide_eq_false (by omega)]
    rfl

/-- What a condition says of two values. -/
def Condition.relates {n : Nat} (left right : BitVec n) : Condition → Bool
  | .lt => left.slt right
  | .le => left.sle right
  | .gt => right.slt left
  | .ge => right.sle left
  | .eq => left == right
  | .ne => left != right

/-- **A condition holds of a comparison when it relates the two values.** -/
theorem holds_compare (left right : BitVec n) (condition : Condition) :
    condition.holds (Flags.compare left right) = condition.relates left right := by
  have hlt := negative_ne_overflow left right
  have hzero : (Flags.compare left right).zero = (left == right) := by
    simp only [Flags.compare]
    rw [Bool.eq_iff_iff, beq_iff_eq, beq_iff_eq]
    exact ⟨fun h => by rw [← BitVec.sub_add_cancel left right, h]; simp, fun h => by simp [h]⟩
  have hle : ((Flags.compare left right).negative == (Flags.compare left right).overflow) = right.sle left := by
    rw [BitVec.sle_eq_not_slt, ← hlt, bne, Bool.not_not]
  cases condition with
  | lt => exact hlt
  | le =>
    show ((Flags.compare left right).zero || _) = left.sle right
    rw [hzero, hlt, Bool.or_comm, BitVec.sle_eq_slt_or_eq]
  | gt =>
    show (!(Flags.compare left right).zero && _) = right.slt left
    rw [hzero, hle, Bool.and_comm, BitVec.slt_eq_sle_and_ne, bne, BEq.comm]
  | ge => exact hle
  | eq => exact hzero
  | ne => exact congrArg (! ·) hzero

/-! ## 3. Instructions -/

/-- The offset of an address in its page. -/
def inPage (a : Address) : Address := a &&& 0xfff

/-- The effect of an instruction that goes on to the next line; nothing for the others and for those that
    cannot be encoded. Symbols and labels of data have their addresses from outside. -/
def Instr.effect (address : Target → Address) (s : State) : Instr → Option State
  | .enter =>
    let frame := s.sp - 16
    some { ((s.store .long frame (s.get ⟨29, .long⟩)).store .long (frame + 8) (s.get ⟨30, .long⟩)) with sp := frame }
  | .setFrame => some (s.set ⟨29, .long⟩ s.sp)
  | .leave =>
    some { ((s.load ⟨29, .long⟩ s.sp).load ⟨30, .long⟩ (s.sp + 8)) with sp := s.sp + 16 }
  | .growStack bytes =>
    if bytes < 4096 then some { s with sp := s.sp - ofNat 64 bytes } else none
  | .shrinkStack bytes =>
    if bytes < 4096 then some { s with sp := s.sp + ofNat 64 bytes } else none
  | .storeSlot r offset =>
    if offset ≤ 256 then some (s.store r.width (s.regs 29 - ofNat 64 offset) (s.get r)) else none
  | .loadSlot r offset =>
    if offset ≤ 256 then some (s.load r (s.regs 29 - ofNat 64 offset)) else none
  | .storeTop => some (s.store .long s.sp (s.get ⟨0, .long⟩))
  | .loadTop index => some (s.load ⟨index, .long⟩ s.sp)
  | .loadStack r offset =>
    if offset % r.width.bytes = 0 ∧ offset / r.width.bytes < 4096 then
      some (s.load r (s.sp + ofNat 64 offset))
    else none
  | .storeAt r base => some (s.store r.width (s.regs base) (s.get r))
  | .loadAt r base => some (s.load r (s.regs base))
  | .page index target =>
    some (s.set ⟨index, .long⟩ (address target - inPage (address target)))
  | .pageOffset index target =>
    some (s.set ⟨index, .long⟩ (s.regs index + inPage (address target)))
  | .moveZero r chunk shift =>
    if chunk < 65536 ∧ shift % 16 = 0 ∧ shift < r.width.bits then
      some (s.set r (ofNat _ chunk <<< shift))
    else none
  | .moveKeep r chunk shift =>
    if chunk < 65536 ∧ shift % 16 = 0 ∧ shift < r.width.bits then
      some (s.set r (s.get r &&& ~~~(ofNat _ 65535 <<< shift) ||| ofNat _ chunk <<< shift))
    else none
  | .moveBit value => if value < 65536 then some (s.set ⟨0, .word⟩ (ofNat _ value)) else none
  | .truncate => some (s.set ⟨0, .word⟩ (s.get ⟨0, .word⟩))
  | .extend => some (s.set ⟨0, .long⟩ ((s.get ⟨0, .word⟩).signExtend _))
  | .negate r => some (s.set r (- s.get r))
  | .complement r => some (s.set r (~~~ s.get r))
  | .operate op dest left right =>
    if left.width = dest.width ∧ right.width = dest.width then
      some (s.set dest (op.eval (s.get ⟨left.index, dest.width⟩) (s.get ⟨right.index, dest.width⟩)))
    else none
  | .multiplySub dest left right minuend =>
    if left.width = dest.width ∧ right.width = dest.width ∧ minuend.width = dest.width then
      some (s.set dest (s.get ⟨minuend.index, dest.width⟩ -
        s.get ⟨left.index, dest.width⟩ * s.get ⟨right.index, dest.width⟩))
    else none
  | .addOne r => some (s.set r (s.get r + 1))
  | .subOne r => some (s.set r (s.get r - 1))
  | .compare left right =>
    if right.width = left.width then
      some { s with flags := Flags.compare (s.get left) (s.get ⟨right.index, left.width⟩) }
    else none
  | .compareZero r => some { s with flags := Flags.compare (s.get r) 0 }
  | .setIf condition => some (s.set ⟨0, .word⟩ (if condition.holds s.flags then 1 else 0))
  | .branch _ | .branchZero .. | .branchNonzero .. | .ret | .call _ => none

/-- The effect of instructions, one after the other. -/
def effects (address : Target → Address) : List Instr → State → Option State
  | [], s => some s
  | i :: is, s => (i.effect address s).bind (effects address is)

theorem effects_append (h : effects address is s = some t) (h' : effects address js t = some u) :
    effects address (is ++ js) s = some u := by
  induction is generalizing s with
  | nil => cases h; exact h'
  | cons i is ih =>
    obtain ⟨s', hi, his⟩ := Option.bind_eq_some_iff.mp h
    exact Option.bind_eq_some_iff.mpr ⟨s', hi, ih his⟩

/-! ## 4. Code -/

/-- The place that a label marks. -/
def place? (code : List Line) (l : Label) : Option Nat := code.idxOf? (.label l)

/-- One line of code, from a place in it. What the assembler reads only is passed over. The code ends where
    control leaves it. -/
def step (address : Target → Address) (code : List Line) : Nat × State → Option (Nat × State)
  | (pc, s) =>
    match code[pc]? with
    | some (.instr (.branch l)) => (place? code l).map (·, s)
    | some (.instr (.branchZero r l)) =>
      if s.get r = 0 then (place? code l).map (·, s) else some (pc + 1, s)
    | some (.instr (.branchNonzero r l)) =>
      if s.get r = 0 then some (pc + 1, s) else (place? code l).map (·, s)
    | some (.instr i) => (i.effect address s).map (pc + 1, ·)
    | some (.label _) | some (.symbol _) | some (.global _) | some (.align _) => some (pc + 1, s)
    | _ => none

/-- So many lines of code. -/
def runFor (address : Target → Address) (code : List Line) : Nat → Nat × State → Option (Nat × State)
  | 0, c => some c
  | n + 1, c => (step address code c).bind (runFor address code n)

/-- Some number of lines lead from one place and state to another. -/
def Reaches (address : Target → Address) (code : List Line) (c d : Nat × State) : Prop :=
  ∃ n, runFor address code n c = some d

section Runs

variable {address : Target → Address} {code : List Line}

theorem Reaches.refl (c : Nat × State) : Reaches address code c c := ⟨0, rfl⟩

theorem runFor_add (h : runFor address code n c = some d) (h' : runFor address code m d = some e) :
    runFor address code (n + m) c = some e := by
  induction n generalizing c with
  | zero => cases h; rwa [Nat.zero_add]
  | succ n ih =>
    obtain ⟨c', hc, hn⟩ := Option.bind_eq_some_iff.mp h
    rw [Nat.succ_add]
    exact Option.bind_eq_some_iff.mpr ⟨c', hc, ih hn⟩

theorem Reaches.trans (h : Reaches address code c d) (h' : Reaches address code d e) : Reaches address code c e := by
  obtain ⟨n, hn⟩ := h
  obtain ⟨m, hm⟩ := h'
  exact ⟨n + m, runFor_add hn hm⟩

/-- The place that is reached, written otherwise. -/
theorem Reaches.cast (h : Reaches address code c (p, s)) (hpq : p = q) : Reaches address code c (q, s) := hpq ▸ h

theorem Reaches.of_step (h : step address code c = some d) : Reaches address code c d := ⟨1, by simp [runFor, h]⟩

end Runs

/-! ## 5. Pieces of code -/

/-- A piece of code stands at a place of a larger one. -/
def At (code : List Line) (pc : Nat) (piece : List Line) : Prop :=
  ∃ front back, code = front ++ piece ++ back ∧ front.length = pc

section Pieces

variable {address : Target → Address} {code piece more : List Line} {pc : Nat}

theorem At.left (h : At code pc (piece ++ more)) : At code pc piece := by
  obtain ⟨front, back, rfl, hlen⟩ := h
  exact ⟨front, more ++ back, by simp, hlen⟩

theorem At.right (h : At code pc (piece ++ more)) : At code (pc + piece.length) more := by
  obtain ⟨front, back, rfl, hlen⟩ := h
  exact ⟨front ++ piece, back, by simp, by simp [hlen]⟩

theorem At.tail (h : At code pc (line :: more)) : At code (pc + 1) more :=
  show At code (pc + [line].length) more from At.right h

/-- Two pieces that follow each other stand at their places. -/
theorem At.append_iff : At code pc (piece ++ more) ↔ At code pc piece ∧ At code (pc + piece.length) more := by
  refine ⟨fun h => ⟨h.left, h.right⟩, ?_⟩
  rintro ⟨⟨front, back, hcode, hlen⟩, ⟨front', back', hcode', hlen'⟩⟩
  have hfront : front ++ piece = front' := by
    rw [hcode, append_assoc front'] at hcode'
    exact append_inj_left hcode' (by simp [hlen, hlen'])
  exact ⟨front, back', by rw [hcode', ← hfront]; simp, hlen⟩

/-- The first line of a piece stands at its place. -/
theorem At.get (h : At code pc (line :: more)) : code[pc]? = some line := by
  obtain ⟨front, back, rfl, rfl⟩ := h
  simp

/-- A label that occurs once marks the place where it stands. -/
theorem At.place (h : At code pc (.label l :: more)) (hu : code.count (.label l) ≤ 1) : place? code l = some pc := by
  obtain ⟨front, back, rfl, rfl⟩ := h
  have hfront : Line.label l ∉ front := by
    intro hm
    have := count_pos_iff.mpr hm
    simp only [count_append, count_cons_self] at hu
    omega
  unfold place?
  induction front with
  | nil => simp [idxOf?_cons]
  | cons line front ih =>
    have hne : (line == Line.label l) = false := by
      rw [beq_eq_false_iff_ne]
      exact fun h => hfront (h ▸ mem_cons_self)
    simp only [count_append, count_cons, cons_append] at hu ih ⊢
    rw [idxOf?_cons, hne, ih (by omega) (fun hm => hfront (mem_cons_of_mem _ hm))]
    rfl

/-- A label is passed over. -/
theorem At.reaches_label (h : At code pc (.label l :: more)) (s : State) : Reaches address code (pc, s) (pc + 1, s) :=
  .of_step (by simp only [step, h.get])

/-- The lines in front of a function are passed over. -/
theorem At.reaches_symbol (h : At code pc [.global name, .align exponent, .symbol symbol]) (s : State) :
    Reaches address code (pc, s) (pc + 3, s) := by
  have h1 : Reaches address code (pc, s) (pc + 1, s) := .of_step (by simp only [step, h.get])
  have h2 : Reaches address code (pc + 1, s) (pc + 2, s) := .of_step (by simp only [step, h.tail.get])
  have h3 : Reaches address code (pc + 2, s) (pc + 3, s) :=
    .of_step (by simp only [step, h.tail.tail.get])
  exact (h1.trans h2).trans h3

/-- A branch leads to the place of its label. -/
theorem At.reaches_branch (h : At code pc (.instr (.branch l) :: more))
    (hl : place? code l = some target) (s : State) : Reaches address code (pc, s) (target, s) :=
  .of_step (by simp only [step, h.get, hl, Option.map_some])

/-- A branch on zero is taken when the register is zero. -/
theorem At.reaches_zero (h : At code pc (.instr (.branchZero r l) :: more)) (hl : place? code l = some target)
    (hz : s.get r = 0) : Reaches address code (pc, s) (target, s) :=
  .of_step (by simp only [step, h.get, hl, if_pos hz, Option.map_some])

theorem At.reaches_zero_not (h : At code pc (.instr (.branchZero r l) :: more)) (hz : s.get r ≠ 0) :
    Reaches address code (pc, s) (pc + 1, s) :=
  .of_step (by simp only [step, h.get, if_neg hz])

/-- A branch on a value other than zero is taken when the register has one. -/
theorem At.reaches_nonzero (h : At code pc (.instr (.branchNonzero r l) :: more)) (hl : place? code l = some target)
    (hz : s.get r ≠ 0) : Reaches address code (pc, s) (target, s) :=
  .of_step (by simp only [step, h.get, hl, if_neg hz, Option.map_some])

theorem At.reaches_nonzero_not (h : At code pc (.instr (.branchNonzero r l) :: more)) (hz : s.get r = 0) :
    Reaches address code (pc, s) (pc + 1, s) :=
  .of_step (by simp only [step, h.get, if_pos hz])

/-- **Straight code runs as its instructions do.** -/
theorem At.reaches_instrs (h : At code pc (is.map .instr)) (he : effects address is s = some t) :
    Reaches address code (pc, s) (pc + is.length, t) := by
  induction is generalizing pc s with
  | nil => cases he; exact .refl _
  | cons i is ih =>
    obtain ⟨s', hi, his⟩ := Option.bind_eq_some_iff.mp he
    have hstep : step address code (pc, s) = some (pc + 1, s') := by
      simp only [step, h.get]
      cases i <;> simp_all [Instr.effect]
    have htail := ih h.tail his
    rw [length_cons, Nat.add_comm is.length, ← Nat.add_assoc]
    exact (Reaches.of_step hstep).trans htail

end Pieces

end CCompiler.Machine
