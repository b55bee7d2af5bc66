import CCompiler.Proofs.Codegen.IntProgram
import CCompiler.Proofs.Machine.Flow

/-!
# Pieces of code and states of generation

The pieces that the code of phrases over `int` is put together from, and what a phrase does to the state of
generation. Values travel through the word register 0; the left operand of an operator waits on the stack.

* `Fresh` -- the labels of a phrase are new, and each of them stands once in its code;
* `Placed` -- every local has a cell of its own in the frame;
* `Kept` -- what every phrase keeps: fresh labels, placed locals and the scopes around it.
-/
namespace CCompiler.Codegen

open List
open Machine (Label Line Instr Reg Width)

/-! ## 1. Pieces and states -/

/-- A register used as a word. -/
def word (index : Nat) : Reg := ⟨index, .word⟩

/-- Puts a value into register 0. -/
def immediate (value : Int) : List Instr :=
  let bits := (value % 2 ^ 32).toNat
  .moveZero (word 0) (bits % 65536) 0 :: if bits / 65536 = 0 then [] else [.moveKeep (word 0) (bits / 65536) 16]

/-- Puts register 0 on the stack. -/
def spill : List Instr := [.extend, .growStack 16, .storeTop]

/-- Takes a register from the stack. -/
def unspill (index : Nat) : List Instr := [.loadTop index, .shrinkStack 16]

/-- Computes a unary operator on register 0. -/
def unaryInstrs : UnaryOp → List Instr
  | .minus => [.negate (word 0)]
  | .complement => [.complement (word 0)]
  | .logicalNot => [.compareZero (word 0), .setIf .eq]
  | _ => []

/-- Computes an operator on registers 1 and 0. -/
def arithInstr (op : ArithOp) : Instr := .operate (operation op) (word 0) (word 1) (word 0)

/-- Computes an operator with two values on registers 1 and 0. -/
def binaryInstrs : BinaryOp → List Instr
  | .arith op => [arithInstr op]
  | .relation relation => [.compare (word 1) (word 0), .setIf (condition relation)]
  | _ => []

/-- Computes `++` or `--` on register 0. -/
def updateInstr : UpdateOp → Instr
  | .decrement => .subOne (word 0)
  | _ => .addOne (word 0)

/-- The end of a logical operator: one truth behind the operands, the other behind a label. -/
def verdictCode (b : Bool) (l done : Label) : Code :=
  [Line.instr (.moveBit (if b then 1 else 0)), .instr (.branch done), .label l,
    .instr (.moveBit (if !b then 1 else 0)), .label done]

/-- The slots of the locals in scope, those of the innermost scope first. -/
abbrev Scopes := List (List (String × Slot))

/-- The slot of a name. -/
def slotOf (scopes : Scopes) (name : String) : Option Slot :=
  scopes.findSome? (·.lookup name)

/-- The state behind some labels. -/
def State.labelled (st : State) (n : Nat) : State := { st with labels := n }

/-- The state behind the declaration of a local. -/
def State.declared (st : State) (name : String) (slot : Slot) (pending : List Slot) : State :=
  match st.scopes with
  | [] => { st with pending, scopes := [[(name, slot)]] }
  | scope :: rest => { st with pending, scopes := ((name, slot) :: scope) :: rest }

/-- The state in a new scope. -/
def State.opened (st : State) : State := { st with scopes := [] :: st.scopes }

/-- The state behind the innermost scope. -/
def State.closed (st : State) : State := { st with scopes := st.scopes.drop 1 }

theorem length_instrs (is : List Instr) : (instrs is).length = is.length := length_map ..

/-! ## 2. Labels -/

/-- The label whose address an instruction takes. -/
def address? : Instr → Option Label
  | .page _ (.label l) | .pageOffset _ (.label l) => some l
  | _ => none

/-- Whether an instruction moves neither the stack pointer nor control, and names no label. -/
def isFlat : Instr → Bool
  | .enter | .setFrame | .leave | .ret | .growStack _ | .shrinkStack _ | .storeTop => false
  | .branch _ | .branchZero .. | .branchNonzero .. | .page _ (.label _) | .pageOffset _ (.label _) => false
  | _ => true

/-- An instruction branches to some labels only, and takes the addresses of some strings only. -/
def Names (outer : Label → Prop) (strings : List (String × Label)) (i : Instr) : Prop :=
  (∀ l, i.target? = some l → outer l) ∧ ∀ l, address? i = some l → l ∈ strings.map (·.2)

/-- The labels that stand in code, and those of the strings that are met first in it, are new, and each of them
    stands once. A branch leads to a label in the code or to some outside, and an address is that of a string. -/
structure Fresh (outer : Label → Prop) (st st' : State) (code : Code) : Prop where
  le : st.labels ≤ st'.labels
  once : ∃ new, st'.strings = st.strings ++ new ∧ ∀ l : Label,
    code.count (.label l) + (new.map (·.2)).count l ≤ if st.labels < l.number ∧ l.number ≤ st'.labels then 1 else 0
  names : ∀ i, .instr i ∈ code → Names (fun l => outer l ∨ .label l ∈ code) st'.strings i

theorem count_instrs (l : Label) (is : List Instr) : (instrs is).count (.label l) = 0 := by
  rw [count_eq_zero]
  simp [instrs]

theorem count_instr (l : Label) (i : Instr) : [Line.instr i].count (.label l) = 0 := count_instrs l [i]

theorem count_label (l : Label) (purpose : String) (number : Nat) :
    [Line.label ⟨purpose, number⟩].count (.label l) ≤ if l.number = number then 1 else 0 := by
  by_cases h : (⟨purpose, number⟩ : Label) = l
  · rw [← h]
    simp
  · simp [h]

theorem count_verdict (b : Bool) (l m done : Label) : (verdictCode b m done).count (.label l) =
    [Line.label m].count (.label l) + [Line.label done].count (.label l) := by
  have hcode : verdictCode b m done = instrs [.moveBit (if b then 1 else 0), .branch done] ++
      ([Line.label m] ++ (instrs [.moveBit (if !b then 1 else 0)] ++ [Line.label done])) := rfl
  rw [hcode, count_append, count_append, count_append, count_instrs, count_instrs]
  omega

variable {outer outer' : Label → Prop} {st st1 st2 st' : State} {n : Nat} {p q : String} {inner : Code} {slot : Slot} {pending : List Slot}

/-- Nothing leads out of the code. -/
def nowhere : Label → Prop := fun _ => False

theorem Names.mono (h : Names outer strings i) (ho : ∀ l, outer l → outer' l) (hs : strings ⊆ strings') :
    Names outer' strings' i :=
  ⟨fun l hl => ho l (h.1 l hl), fun l hl => map_subset _ hs (h.2 l hl)⟩

theorem names_of_isFlat (h : isFlat i) : Names outer strings i := by
  unfold isFlat at h
  split at h <;> simp_all [Names, Instr.target?, address?]

theorem Fresh.instrs (h : ∀ i ∈ is, Names outer st.strings i) : Fresh outer st st (instrs is) := by
  refine ⟨Nat.le_refl _, ⟨[], (append_nil _).symm, fun l => ?_⟩, fun i hi => ?_⟩
  · rw [count_instrs]
    exact Nat.zero_le _
  · obtain ⟨_, hm, heq⟩ := mem_map.mp hi
    cases heq
    exact (h i hm).mono (fun _ => .inl) (Subset.refl _)

theorem Fresh.mono (h : Fresh outer st st' code) (ho : ∀ l, outer l → outer' l) : Fresh outer' st st' code :=
  ⟨h.le, h.once, fun i hi => (h.names i hi).mono (fun l hl => hl.imp_left (ho l)) (Subset.refl _)⟩

theorem Fresh.count_le (h : Fresh outer st st' code) (l : Label) : code.count (.label l) ≤ 1 := by
  obtain ⟨new, -, hl⟩ := h.once
  have := hl l
  split at this <;> omega

/-- Phrases that follow each other have labels of their own. -/
theorem Fresh.append (h : Fresh outer st st1 code) (h' : Fresh outer st1 st2 more) :
    Fresh outer st st2 (code ++ more) := by
  obtain ⟨hle, ⟨new, hs, hl⟩, hn⟩ := h
  obtain ⟨hle', ⟨new', hs', hl'⟩, hn'⟩ := h'
  refine ⟨Nat.le_trans hle hle', ⟨new ++ new', by rw [hs', hs, append_assoc], fun l => ?_⟩, fun i hi => ?_⟩
  · have := hl l
    have := hl' l
    rw [count_append, map_append, count_append]
    split_ifs at * <;> omega
  · rcases mem_append.mp hi with hi | hi
    · exact (hn i hi).mono (fun _ h => h.imp_right (mem_append_left _)) (hs' ▸ subset_append_left ..)
    · exact (hn' i hi).mono (fun _ h => h.imp_right (mem_append_right _)) (Subset.refl _)

/-- Labels with numbers from the `i`-th behind `n` on, one for each purpose. -/
def taken (n i : Nat) : List String → Code
  | [] => []
  | p :: ps => [Line.label ⟨p, n + i⟩] ++ taken n (i + 1) ps

theorem count_taken (l : Label) (n i : Nat) (ps : List String) :
    (taken n i ps).count (.label l) ≤ if n + i ≤ l.number ∧ l.number < n + i + ps.length then 1 else 0 := by
  induction ps generalizing i with
  | nil => exact Nat.zero_le _
  | cons p ps ih =>
    have hp := count_label l p (n + i)
    have hrest := ih (i + 1)
    rw [taken, count_append, length_cons]
    split_ifs at * <;> omega

/-- Labels that are taken before a phrase can stand anywhere in its code. -/
theorem Fresh.taken (ps : List String) (h : Fresh outer' (st.labelled (st.labels + ps.length)) st' inner)
    (hc : ∀ l : Label, code.count (.label l) ≤ inner.count (.label l) + (taken st.labels 1 ps).count (.label l))
    (hn : (∀ i, Line.instr i ∈ code → .instr i ∈ inner ∨ Names (Line.label · ∈ code) [] i) ∧
      ∀ l, outer' l ∨ Line.label l ∈ inner → outer l ∨ .label l ∈ code) : Fresh outer st st' code := by
  obtain ⟨hle, ⟨new, hs, hl⟩, hi⟩ := h
  have hle' : st.labels + ps.length ≤ st'.labels := hle
  refine ⟨by omega, ⟨new, hs, fun l => ?_⟩, fun i hm => ?_⟩
  · have htaken := count_taken l st.labels 1 ps
    have hcl := hc l
    have hnew : _ ≤ if st.labels + ps.length < l.number ∧ l.number ≤ st'.labels then 1 else 0 := hl l
    split_ifs at * <;> omega
  · rcases hn.1 i hm with hm | hm
    · exact (hi i hm).mono hn.2 (Subset.refl _)
    · exact hm.mono (fun _ => .inr) (nil_subset _)

/-! ## 3. Slots -/

/-- The slots of the locals in scope and of those that are still to be declared. -/
def State.slots (st : State) : List Slot := st.scopes.flatten.map (·.2) ++ st.pending

/-- Whether a slot is a cell of an `int` in a frame. -/
def Slot.InFrame (frame : Nat) (slot : Slot) : Prop :=
  isInt slot.type = true ∧ 8 ∣ slot.offset ∧ 8 ≤ slot.offset ∧ slot.offset ≤ frame

/-- Every local has a cell of its own in the frame. -/
structure Placed (frame : Nat) (st : State) : Prop where
  scopes : st.scopes ≠ []
  distinct : (st.slots.map Slot.offset).Nodup
  inFrame : ∀ slot ∈ st.slots, slot.InFrame frame

section Slots

variable {frame : Nat}

/-- The next slot is one for an `int`. -/
theorem Placed.isInt_pending (h : Placed frame st) (hp : st.pending = slot :: pending) : isInt slot.type :=
  (h.inFrame slot (mem_append_right _ (hp ▸ mem_cons_self))).1

@[simp] theorem State.labelled_labels (st : State) (n : Nat) : (st.labelled n).labels = n := rfl

@[simp] theorem State.labelled_slots (st : State) (n : Nat) : (st.labelled n).slots = st.slots := rfl

@[simp] theorem State.opened_labels (st : State) : st.opened.labels = st.labels := rfl

/-- A name that is declared stands for its new slot. -/
theorem State.slotOf_declared (st : State) (name : String) (slot : Slot) (pending : List Slot)
    (x : String) : slotOf (st.declared name slot pending).scopes x =
      if x == name then some slot else slotOf st.scopes x := by
  unfold State.declared slotOf
  cases hx : x == name <;> cases st.scopes <;> simp [findSome?_cons, lookup_cons, hx]

/-- A declaration moves a slot into the innermost scope. -/
theorem State.declared_slots (hp : st.pending = slot :: pending) :
    (st.declared name slot pending).slots.Perm st.slots := by
  unfold slots
  rw [hp]
  unfold declared
  split
  next heq => simp [heq]
  next scope rest heq =>
    simp only [heq, flatten_cons, cons_append, map_cons]
    exact perm_middle.symm

/-- Closing a scope gives up its slots. -/
theorem State.closed_slots (st : State) : st.closed.slots.Sublist st.slots := by
  unfold slots closed
  cases st.scopes with
  | nil => exact .refl _
  | cons scope rest =>
    rw [flatten_cons, map_append]
    exact (sublist_append_right _ _).append_right _

/-- What has no other slots is placed as well. -/
theorem Placed.of_subperm (h : Placed frame st) (hs : st'.scopes ≠ [])
    (hsub : st'.slots.Subperm st.slots) : Placed frame st' where
  scopes := hs
  distinct := by
    obtain ⟨l, hperm, hl⟩ := hsub
    exact (hperm.map _).nodup_iff.mp (h.distinct.sublist (hl.map _))
  inFrame := fun slot hm => h.inFrame slot (hsub.subset hm)

theorem Placed.labelled (h : Placed frame st) : Placed frame (st.labelled n) :=
  ⟨h.scopes, h.distinct, h.inFrame⟩

theorem Placed.opened (h : Placed frame st) : Placed frame st.opened :=
  ⟨cons_ne_nil _ _, h.distinct, h.inFrame⟩

end Slots

/-! ## 4. What phrases keep -/

/-- What the code of a phrase keeps: its labels are new, the scopes around the innermost stay, and its slots
    are taken from those that were there. -/
structure Kept (outer : Label → Prop) (st : State) (code : Code) (st' : State) : Prop where
  fresh : Fresh outer st st' code
  outer : st'.scopes.drop 1 = st.scopes.drop 1
  nonempty : st.scopes ≠ [] → st'.scopes ≠ []
  slots : st'.slots.Subperm st.slots

section Phrases

variable {code more : Code} {frame : Nat}

theorem Kept.placed (h : Kept outer st code st') (hp : Placed frame st) : Placed frame st' :=
  hp.of_subperm (h.nonempty hp.scopes) h.slots

theorem Kept.refl : Kept outer st [] st := ⟨@Fresh.instrs _ _ [] nofun, rfl, id, .refl _⟩

theorem Kept.append (h : Kept outer st code st1) (h' : Kept outer st1 more st2) : Kept outer st (code ++ more) st2 where
  fresh := h.fresh.append h'.fresh
  outer := h'.outer.trans h.outer
  nonempty := h'.nonempty ∘ h.nonempty
  slots := h'.slots.trans h.slots

theorem Kept.mono (h : Kept outer st code st') (ho : ∀ l, outer l → outer' l) : Kept outer' st code st' :=
  ⟨h.fresh.mono ho, h.outer, h.nonempty, h.slots⟩

/-- Code that nothing leads out of may stand among any labels. -/
theorem Kept.any (h : Kept nowhere st code st') : Kept outer st code st' := h.mono fun _ => False.elim

end Phrases

end CCompiler.Codegen
