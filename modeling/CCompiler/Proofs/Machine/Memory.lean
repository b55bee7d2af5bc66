import CCompiler.Machine.Instr
import Mathlib

/-!
# Memory of the machine

Memory holds a byte at every address of 64 bits. A value of several bytes lies with its lowest byte at its
address. The machine writes below a fixed address, its stack growing downwards, so places are given by
their depth below that address:

* `read_write` -- a value that is written is read back;
* `read_write_below_other` -- depths less than 2^64 that are far enough apart name different bytes.
-/
namespace CCompiler.Machine

open BitVec (ofNat toNat_ofNat ofNat_add)

/-- An address. -/
abbrev Address := BitVec 64

/-- The bytes of memory. -/
abbrev Memory := Address → BitVec 8

namespace Memory

/-- Reads so many bytes, the lowest first. -/
def read (mem : Memory) : (count : Nat) → Address → BitVec (8 * count)
  | 0, _ => 0#0
  | count + 1, a => read mem count (a + 1) ++ mem a

/-- Writes so many bytes, the lowest first. -/
def write (mem : Memory) (count : Nat) (a : Address) (v : BitVec (8 * count)) : Memory := fun b =>
  if (b - a).toNat < count then v.extractLsb' (8 * (b - a).toNat) 8 else mem b

/-- The bits of a value are the bits of its bytes. -/
theorem getLsbD_read (mem : Memory) (count : Nat) (a : Address) (i : Nat) (hi : i < 8 * count) :
    (mem.read count a).getLsbD i = (mem (a + ofNat 64 (i / 8))).getLsbD (i % 8) := by
  induction count generalizing a i with
  | zero => omega
  | succ count ih =>
    show (mem.read count (a + 1) ++ mem a).getLsbD i = _
    rw [BitVec.getLsbD_append]
    by_cases h : i < 8
    · rw [if_pos h, Nat.div_eq_of_lt h, Nat.mod_eq_of_lt h]
      simp
    · rw [if_neg h, ih (a + 1) (i - 8) (by omega)]
      have hdiv : i / 8 = (i - 8) / 8 + 1 := by omega
      have hmod : i % 8 = (i - 8) % 8 := by omega
      rw [hdiv, hmod, BitVec.add_assoc, ofNat_add, BitVec.add_comm 1]
      rfl

/-- Values are the same when their bytes are. -/
theorem read_congr {mem mem' : Memory} {count : Nat} {a : Address}
    (h : ∀ i < count, mem (a + ofNat 64 i) = mem' (a + ofNat 64 i)) :
    mem.read count a = mem'.read count a := by
  apply BitVec.eq_of_getLsbD_eq
  intro i hi
  rw [getLsbD_read _ _ _ _ hi, getLsbD_read _ _ _ _ hi, h (i / 8) (by omega)]

/-- **A value that is written is read back.** -/
theorem read_write (mem : Memory) (count : Nat) (a : Address) (v : BitVec (8 * count))
    (hc : count ≤ 2 ^ 64) : (mem.write count a v).read count a = v := by
  apply BitVec.eq_of_getLsbD_eq
  intro i hi
  rw [getLsbD_read _ _ _ _ hi]
  have hoff : (a + ofNat 64 (i / 8) - a).toNat = i / 8 := by
    rw [BitVec.add_comm, BitVec.add_sub_cancel, toNat_ofNat, Nat.mod_eq_of_lt (by omega)]
  have hcount : i / 8 < count := by omega
  have hsplit : 8 * (i / 8) + i % 8 = i := by omega
  simp only [write, hoff, hcount, if_true, BitVec.getLsbD_extractLsb', hsplit]
  simp [Nat.mod_lt]

/-- A byte outside the bytes that are written keeps its value. -/
theorem write_other (mem : Memory) (count : Nat) (a b : Address) (v : BitVec (8 * count))
    (h : count ≤ (b - a).toNat) : mem.write count a v b = mem b := by
  simp only [write, if_neg (Nat.not_lt.mpr h)]

end Memory

/-- The address so many bytes below another. -/
def below (top : Address) (depth : Nat) : Address := top - ofNat 64 depth

theorem below_zero (top : Address) : below top 0 = top := by simp [below]

/-- Going down from a place. -/
theorem below_sub (top : Address) (d e : Nat) : below top d - ofNat 64 e = below top (d + e) := by
  unfold below
  bv_omega

/-- Going up from a place. -/
theorem below_add (top : Address) (h : e ≤ d) : below top d + ofNat 64 e = below top (d - e) := by
  have hsub := below_sub top (d - e) e
  rw [Nat.sub_add_cancel h] at hsub
  rw [← hsub, BitVec.sub_add_cancel]

/-- How far a place lies above another. -/
theorem below_sub_below (top : Address) (h : d ≤ e) : below top d - below top e = ofNat 64 (e - d) := by
  rw [← Nat.add_sub_cancel' h, ← below_sub, Nat.add_sub_cancel_left]
  bv_omega

/-- How far a place lies above a higher one, once around. -/
theorem toNat_below_sub_below (top : Address) (h : e < d) (hd : d < 2 ^ 64) :
    (below top d - below top e).toNat = 2 ^ 64 - (d - e) := by
  have hneg : below top d - below top e = - ofNat 64 (d - e) := by
    rw [← below_sub_below top (Nat.le_of_lt h)]
    bv_omega
  rw [hneg, BitVec.toNat_neg, toNat_ofNat, Nat.mod_eq_of_lt (a := d - e) (by omega)]
  exact Nat.mod_eq_of_lt (by omega)

/-- Every address lies some depth below another. -/
theorem exists_below (top a : Address) : ∃ d, d < 2 ^ 64 ∧ a = below top d := by
  refine ⟨(top - a).toNat, (top - a).isLt, ?_⟩
  unfold below
  bv_omega

namespace Memory

/-- A byte deeper or less deep than all that are written keeps its value. -/
theorem write_below_other (mem : Memory) (top : Address) (v : BitVec (8 * count))
    (hd : d < 2 ^ 64) (he : e < 2 ^ 64) (hc : count ≤ d) (h : d < e ∨ e + count ≤ d) :
    mem.write count (below top d) v (below top e) = mem (below top e) := by
  apply write_other
  rcases h with h | h
  · rw [toNat_below_sub_below top h he]
    omega
  · rw [below_sub_below top (by omega), toNat_ofNat]
    omega

/-- A value whose bytes are deeper or less deep than all that are written is read as before. -/
theorem read_write_below_other (mem : Memory) (top : Address) {count size d e : Nat}
    (v : BitVec (8 * count)) (hd : d < 2 ^ 64) (he : e < 2 ^ 64) (hc : count ≤ d) (hs : size ≤ e)
    (h : d + size ≤ e ∨ e + count ≤ d) :
    (mem.write count (below top d) v).read size (below top e) = mem.read size (below top e) := by
  apply read_congr
  intro i hi
  rw [below_add top (by omega)]
  exact write_below_other mem top v hd (by omega) hc (by omega)

/-- Values at a place are the same when the bytes of the place are. -/
theorem read_below_congr {mem mem' : Memory} {top : Address} {size d : Nat} (hs : size ≤ d)
    (h : ∀ e, e ≤ d → d < e + size → mem (below top e) = mem' (below top e)) :
    mem.read size (below top d) = mem'.read size (below top d) := by
  apply read_congr
  intro i hi
  rw [below_add top (by omega)]
  exact h (d - i) (by omega) (by omega)

end Memory

end CCompiler.Machine
