import CCompiler.Proofs.Machine.Execution

/-!
# Paths through code and what they do to the stack

A path takes either way at a branch and comes back from a call with the stack as it was. Along it the stack
is followed as far as its pointers tell: bytes are counted from the stack pointer at the entry, and a cell is
open from the push that makes it until the stack pointer is raised above it.

* `Stack` -- the stack and frame pointers and the open cells;
* `Flow` -- one line of a path;
* `Walk.stack_eq` -- the stack at a place, if every branch finds it as the lines above its target leave it;
* `Flow.of_step` -- whatever line the machine executes is a line of a path.
-/
namespace CCompiler.Machine

/-- The stack pointer and the frame pointer, counted from the stack pointer at the entry, and the places of
    the open cells, the last pushed first. -/
structure Stack where
  sp : Int := 0
  fp : Int := 0
  cells : List Int := []
deriving Repr, DecidableEq

/-- The stack behind a line, where another may come next: room that is filled at once is a cell, and what
    lies below the stack pointer is given up. -/
def Stack.past (s : Stack) (next : Option Line) : Line → Stack
  | .instr .enter => { s with sp := s.sp - 16 }
  | .instr .setFrame => { s with fp := s.sp }
  | .instr .leave => { s with sp := s.sp + 16 }
  | .instr (.growStack bytes) =>
    { s with
      sp := s.sp - bytes
      cells := if next = some (.instr .storeTop) then (s.sp - bytes) :: s.cells else s.cells }
  | .instr (.shrinkStack bytes) =>
    { s with sp := s.sp + bytes, cells := s.cells.filter (s.sp + bytes ≤ ·) }
  | _ => s

/-- The label that an instruction may branch to. -/
def Instr.target? : Instr → Option Label
  | .branch l | .branchZero _ l | .branchNonzero _ l => some l
  | _ => none

/-- Whether the next line may follow. -/
def Line.goesOn : Line → Bool
  | .instr (.branch _) | .instr .ret => false
  | .instr _ | .label _ | .symbol _ | .global _ | .align _ => true
  | _ => false

/-- One line of a path. -/
inductive Flow (code : List Line) : Nat × Stack → Nat × Stack → Prop where
  | next {pc : Nat} {s : Stack} {line : Line} (h : code[pc]? = some line) (hline : line.goesOn = true) :
      Flow code (pc, s) (pc + 1, s.past code[pc + 1]? line)
  | jump {pc target : Nat} {s : Stack} {i : Instr} {l : Label} (h : code[pc]? = some (.instr i))
      (hi : i.target? = some l) (hl : place? code l = some target) : Flow code (pc, s) (target, s)

/-- A path from the first line with an empty stack. -/
def Walk (code : List Line) (pc : Nat) (s : Stack) : Prop :=
  Relation.ReflTransGen (Flow code) (0, {}) (pc, s)

variable {pc : Nat} {line : Line} {i : Instr}

theorem Walk.next (h : Walk code pc s) (hline : code[pc]? = some line) (hgoes : line.goesOn) :
    Walk code (pc + 1) (s.past code[pc + 1]? line) := .tail h (.next hline hgoes)

theorem Walk.jump (h : Walk code pc s)
    (hi : code[pc]? = some (.instr i)) (ht : i.target? = some l) (hl : place? code l = some target) :
    Walk code target s := .tail h (.jump hi ht hl)

/-- The stack at a place if no branch is taken before it. -/
def stackAt (code : List Line) : Nat → Stack
  | 0 => {}
  | pc + 1 =>
    match code[pc]? with
    | some line => (stackAt code pc).past code[pc + 1]? line
    | none => stackAt code pc

/-- Every branch finds the stack as the lines above its target leave it. -/
def Agrees (code : List Line) : Prop :=
  ∀ ⦃pc target : Nat⦄ ⦃i : Instr⦄ ⦃l : Label⦄, code[pc]? = some (.instr i) → i.target? = some l →
    place? code l = some target → stackAt code pc = stackAt code target

theorem stackAt_succ (h : code[pc]? = some line) :
    stackAt code (pc + 1) = (stackAt code pc).past code[pc + 1]? line := by
  rw [stackAt, h]

/-- **The stack at a place does not depend on the path to it.** -/
theorem Walk.stack_eq (h : Walk code pc s) (ha : Agrees code) : s = stackAt code pc := by
  suffices hall : ∀ c, Relation.ReflTransGen (Flow code) (0, {}) c → c.2 = stackAt code c.1 from hall _ h
  intro c hc
  induction hc with
  | refl => rfl
  | tail _ hflow ih =>
    cases hflow with
    | next hline _ =>
      rw [stackAt_succ hline, ← ih]
    | jump hline hi hl => exact ih.trans (ha hline hi hl)

section Steps

variable {address : Target → Address} {code : List Line} {m m' : State} {s : Stack} {top : Address}

/-- The stack pointer of the machine moves as that of the path. -/
theorem Instr.sp_of_effect (next : Option Line) (h : i.effect address m = some m')
    (hsp : m.sp = top + BitVec.ofInt 64 s.sp) : m'.sp = top + BitVec.ofInt 64 (s.past next (.instr i)).sp := by
  have hdown (n : Nat) : m.sp - BitVec.ofNat 64 n = top + BitVec.ofInt 64 (s.sp - n) := by
    rw [hsp, Int.sub_eq_add_neg, BitVec.ofInt_add, BitVec.ofInt_neg, BitVec.ofInt_natCast, ← add_assoc,
      sub_eq_add_neg]
  have hup (n : Nat) : m.sp + BitVec.ofNat 64 n = top + BitVec.ofInt 64 (s.sp + n) := by
    rw [hsp, BitVec.ofInt_add, BitVec.ofInt_natCast, add_assoc]
  cases i with
  | enter =>
    cases h
    exact hdown 16
  | leave =>
    cases h
    exact hup 16
  | growStack bytes =>
    simp only [Instr.effect] at h
    split_ifs at h
    cases h
    exact hdown bytes
  | shrinkStack bytes =>
    simp only [Instr.effect] at h
    split_ifs at h
    cases h
    exact hup bytes
  | storeSlot | loadSlot | loadStack | moveZero | moveKeep | moveBit | operate | multiplySub | compare =>
    simp only [Instr.effect] at h
    split_ifs at h
    cases h
    exact hsp
  | branch | branchZero | branchNonzero | ret | call => cases h
  | _ =>
    cases h
    exact hsp

/-- **Whatever line the machine executes is a line of a path**, and the stack pointer moves along. -/
theorem Flow.of_step (h : step address code (pc, m) = some (pc', m'))
    (hsp : m.sp = top + BitVec.ofInt 64 s.sp) :
    ∃ s', Flow code (pc, s) (pc', s') ∧ m'.sp = top + BitVec.ofInt 64 s'.sp := by
  have hjump : ∀ {i : Instr} {l : Label}, code[pc]? = some (.instr i) → i.target? = some l →
      (place? code l).map (·, m) = some (pc', m') →
      ∃ s', Flow code (pc, s) (pc', s') ∧ m'.sp = top + BitVec.ofInt 64 s'.sp := by
    intro i l hi ht hp
    obtain ⟨target, htarget, heq⟩ := Option.map_eq_some_iff.mp hp
    cases heq
    exact ⟨s, .jump hi ht htarget, hsp⟩
  cases hline : code[pc]? with
  | none =>
    simp only [step, hline] at h
    cases h
  | some line =>
    cases line with
    | instr i =>
      cases i with simp only [step, hline] at h
      | branch l => exact hjump hline rfl h
      | branchZero | branchNonzero =>
        split_ifs at h
        all_goals first
          | exact hjump hline rfl h
          | cases h
            exact ⟨s, .next hline rfl, hsp⟩
      | _ =>
        obtain ⟨m1, heffect, heq⟩ := Option.map_eq_some_iff.mp h
        cases heq
        first
          | exact ⟨_, .next hline rfl, Instr.sp_of_effect _ heffect hsp⟩
          | cases heffect
    | label | symbol | global | align =>
      simp only [step, hline] at h
      cases h
      exact ⟨s, .next hline rfl, hsp⟩
    | _ =>
      simp only [step, hline] at h
      cases h

end Steps

end CCompiler.Machine
