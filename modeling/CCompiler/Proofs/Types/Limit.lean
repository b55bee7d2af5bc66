import CCompiler.Proofs.Types.Containment
import Mathlib

/-!
# Sizes under a limit

A size can be asked for under a limit. Members are then measured under what is left of it, and a size that exceeds
it is replaced by another that does.

* `CutsOff` -- under a limit a size is exact as far as the limit, and beyond it some size beyond it;
* `size_limited` -- the sizes of all types are cut off so.
-/
namespace CCompiler.RecordTable

variable {bound limit l s size v : Int} {sizeOf : CType → Option Int → Except Cyclic (Option Int)}
  {members : List RecordMember}

/-- What is found under a limit for a size: the size if it does not exceed the limit, or else one that does. -/
def Cut (limit s : Int) (found : Except Cyclic (Option Int)) : Prop :=
  ∃ v, found = .ok (some v) ∧ (s ≤ limit → v = s) ∧ (limit < s → limit < v)

/-- A size that is found without a limit is cut off under every limit. Neither of them is below a bound. -/
def CutsOff (bound : Int) (size : Option Int → Except Cyclic (Option Int)) : Prop :=
  ∀ s, size none = .ok (some s) → bound ≤ s ∧ ∀ limit, bound ≤ limit → Cut limit s (size (some limit))

theorem cutsOff_none : CutsOff bound fun _ => pure none := nofun

theorem cutsOff_some {n : Int} (h : bound ≤ n) : CutsOff bound fun _ => pure (some n) := by
  intro s hs
  cases hs
  exact ⟨h, fun limit _ => ⟨n, rfl, fun _ => rfl, fun hlt => hlt⟩⟩

/-- The size of a part is cut off under a limit of its own, and the whole is given up where a test of it says so. -/
theorem cut_ite {p : Int → Prop} [DecidablePred p] {k : Int → Except Cyclic (Option Int)}
    (hv : (size ≤ l → v = size) ∧ (l < size → l < v)) (hover : ∀ w, l < w → p w) (hbig : p size → limit < s)
    (hk : ¬ p size → Cut limit s (k size)) :
    Cut limit s (if p v then pure (some (limit + 1)) else k v) := by
  have habove (h : limit < s) : Cut limit s (pure (some (limit + 1))) := ⟨_, rfl, by omega, by omega⟩
  by_cases hfits : size ≤ l
  · rw [hv.1 hfits]
    split
    · next hp => exact habove (hbig hp)
    · next hp => exact hk hp
  · rw [if_pos (hover v (hv.2 (by omega)))]
    exact habove (hbig (hover size (by omega)))

theorem cutsOff_sizeOfOps {base : Option Int → Except Cyclic (Option Int)} (h : CutsOff 0 base) (ops : List TypeOp) :
    CutsOff 0 fun limit => sizeOfOps base limit ops := by
  induction ops with
  | nil => exact h
  | cons op ops ih =>
    cases op with
    | pointer => exact cutsOff_some (by decide)
    | unprototyped | function => exact cutsOff_none
    | array n =>
      intro s hs
      dsimp only [sizeOfOps] at hs ⊢
      split at hs
      · cases hs
      · next hn =>
        obtain ⟨_ | size, hsize, hs⟩ := bind_ok hs
        · cases hs
        · cases hs
          obtain ⟨hpos, hcut⟩ := ih size hsize
          have hle : size * 1 ≤ size * n := Int.mul_le_mul_of_nonneg_left (by omega) hpos
          refine ⟨by omega, fun limit hlimit => ?_⟩
          obtain ⟨v, hv, hcut⟩ := hcut limit hlimit
          have hquotient : limit.fdiv n = limit / n := Int.fdiv_eq_ediv_of_nonneg _ (by omega)
          have hself := Int.ediv_le_self n hlimit
          have hfits := Int.le_ediv_iff_mul_le (a := size) (b := limit) (by omega : 0 < n)
          rw [if_neg hn, show sizeOfOps base (some limit) ops = _ from hv]
          refine cut_ite (p := (· > limit.fdiv n)) (k := fun w => pure (some (w * n))) hcut ?_ ?_
            fun _ => ⟨_, rfl, fun _ => rfl, by omega⟩
          all_goals omega

section

variable (h : ∀ t, CutsOff 0 (sizeOf t))

include h

theorem cutsOff_structSize {total : Int} (htotal : 0 ≤ total) :
    CutsOff total fun limit => structSize sizeOf limit total members := by
  induction members generalizing total with
  | nil => exact cutsOff_some (Int.le_refl _)
  | cons m members ih =>
    intro s hs
    obtain ⟨_ | size, hsize, hs⟩ := bind_ok hs
    · cases hs
    · obtain ⟨hpos, hcut⟩ := h m.type size hsize
      obtain ⟨hle, hrest⟩ := ih (by omega) s hs
      refine ⟨by omega, fun limit hlimit => ?_⟩
      obtain ⟨v, hv, hcut⟩ := hcut (limit - total) (by omega)
      simp only [structSize, Option.map_some, hv]
      refine cut_ite (p := (total + · > limit)) (k := fun w => structSize sizeOf (some limit) (total + w) members)
        hcut ?_ ?_ fun _ => hrest limit (by omega)
      all_goals omega

theorem cutsOff_unionSize {largest : Int} (hlargest : 0 ≤ largest) :
    CutsOff largest fun limit => unionSize sizeOf limit largest members := by
  induction members generalizing largest with
  | nil => exact cutsOff_some (Int.le_refl _)
  | cons m members ih =>
    intro s hs
    obtain ⟨_ | size, hsize, hs⟩ := bind_ok hs
    · cases hs
    · obtain ⟨hpos, hcut⟩ := h m.type size hsize
      obtain ⟨hle, hrest⟩ := ih (by omega) s hs
      refine ⟨by omega, fun limit hlimit => ?_⟩
      obtain ⟨v, hv, hcut⟩ := hcut limit (by omega)
      simp only [unionSize, hv]
      refine cut_ite (p := (max largest · > limit)) (k := fun w => unionSize sizeOf (some limit) (max largest w) members)
        hcut ?_ ?_ fun _ => hrest limit (by omega)
      all_goals omega

end

theorem baseSize?_nonneg {name : String} (h : baseSize? name = some size) : 0 ≤ size := by
  unfold baseSize? at h
  split at h
  · cases h
    omega
  · have hsizes : ∀ entry ∈ [("float", (4 : Int)), ("double", 8), ("long double", 16)], 0 ≤ entry.2 := by decide
    exact hsizes _ (mem_of_lookup h)

theorem cutsOff_sizeWithin (table : RecordTable) (depth : Nat) (t : CType) : CutsOff 0 (table.sizeWithin depth t) := by
  induction depth generalizing t with
  | zero => exact nofun
  | succ depth ih =>
    refine cutsOff_sizeOfOps ?_ t.ops
    split
    · next hsize => exact cutsOff_some (baseSize?_nonneg hsize)
    · repeat' split
      · exact cutsOff_none
      · exact cutsOff_structSize ih (Int.le_refl 0)
      · exact cutsOff_unionSize ih (Int.le_refl 0)
      · exact cutsOff_none

/-- **A limit cuts off exactly.** A size without a limit is the size under every limit that it does not exceed;
    under any other the size exceeds the limit as well. -/
theorem size_limited (table : RecordTable) (t : CType) (hs : table.size? t none = .ok (some s)) (hlimit : 0 ≤ limit) :
    ∃ v, table.size? t (some limit) = .ok (some v) ∧ (s ≤ limit → v = s) ∧ (limit < s → limit < v) :=
  (cutsOff_sizeWithin table _ t s hs).2 limit hlimit

/-- Two records of 12 bytes do not fit 23 bytes. -/
theorem size_of_two_chained :
    let pair : CType := ⟨"struct S", [.array 2], [], false⟩
    chained.size? pair none = .ok (some 24) ∧ ∃ v, chained.size? pair (some 23) = .ok (some v) ∧ 23 < v := by
  intro pair
  have hsize : chained.size? pair none = .ok (some 24) := by cbv
  obtain ⟨v, hv, -, habove⟩ := size_limited chained pair hsize (by decide : (0 : Int) ≤ 23)
  exact ⟨hsize, v, hv, habove (by decide)⟩

end CCompiler.RecordTable
