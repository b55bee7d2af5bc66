import CCompiler.Condition.Value
import CCompiler.Proofs.Steps
import Mathlib

/-!
# Values stay within their words

Operators compute on integers without bounds, and not all of them bring their result back into range on
their own. Still every value that a term has fits 64 bits, and so does the value of every part of it.

* `Value.InRange` -- a value fits the words it is flagged for;
* `Term.value_inRange` -- all values of terms do.
-/
namespace CCompiler.Condition

namespace Value

variable {v w : Value}

/-- Fits an unsigned word if it is flagged as one, and a signed word otherwise. -/
def InRange (v : Value) : Prop :=
  if v.isUnsigned then 0 ≤ v.value ∧ v.value < 2 ^ 64 else -2 ^ 63 ≤ v.value ∧ v.value < 2 ^ 63

instance : Decidable v.InRange := inferInstanceAs (Decidable (ite ..))

theorem inRange_asUnsigned (v : Value) : InRange ⟨v.asUnsigned, true⟩ := by
  simp only [InRange, asUnsigned, if_true]
  omega

theorem inRange_ofBool : ∀ b, InRange ⟨ofBool b, false⟩ := by decide

theorem inRange_of_normalize (h : v.normalize = .ok w) : w.InRange := by
  unfold normalize at h
  split at h
  · cases h
    exact inRange_asUnsigned v
  · split at h
    · cases h
    · cases h
      simp only [InRange, *]
      grind

theorem inRange_of_ofNumber {n : Nat} (h : ofNumber n = .ok v) : v.InRange := by
  unfold ofNumber at h
  split at h
  · cases h
  · cases h
    simp only [InRange, unsignedMax, signedMax] at *
    grind

theorem inRange_of_shiftedLeft {l r : Int} {isUnsigned : Bool} (h : shiftedLeft l r isUnsigned = .ok v) :
    v.InRange := by
  unfold shiftedLeft at h
  split at h
  · obtain ⟨_, -, h⟩ := bind_ok h
    split at h
    · cases h
      decide
    · cases h
  · obtain ⟨_, -, h⟩ := bind_ok h
    exact inRange_of_normalize h

theorem inRange_of_arith {op : ArithOp} {l r : Value} (h : arith op l r = .ok v) : v.InRange := by
  unfold arith at h
  dsimp only at h
  split at h
  · exact inRange_of_shiftedLeft h
  · obtain ⟨_, -, h⟩ := bind_ok h
    exact inRange_of_normalize h

theorem inRange_of_unary {op : UnaryOp} (h : unary op w = .ok v) : v.InRange := by
  unfold unary at h
  split at h
  · cases h
    exact inRange_ofBool _
  all_goals exact inRange_of_normalize h

/-- A choice takes its branch as it is, or as unsigned on behalf of the other one. -/
theorem inRange_of_chosen {other : Except Fault Value} (hw : w.InRange) (h : w.chosen other = .ok v) : v.InRange := by
  have hwidened (b : Bool) : InRange (if b then ⟨w.asUnsigned, true⟩ else w) := by
    cases b with
    | false => exact hw
    | true => exact inRange_asUnsigned w
  unfold chosen at h
  split at h
  · cases h
    exact hwidened _
  · split at h
    · cases h
      exact hwidened _
    · cases h

end Value

open Value

/-- The value of a term fits its word, and so do those of the parts it is computed from, which are terms. -/
theorem Term.value_inRange (t : Term) {v : Value} (h : t.value = .ok v) : v.InRange := by
  induction t generalizing v with
  | number n => exact inRange_of_ofNumber h
  | unsigned t =>
    obtain ⟨w, -, h⟩ := bind_ok h
    cases h
    exact inRange_asUnsigned w
  | unary op t =>
    obtain ⟨_, -, h⟩ := bind_ok h
    exact inRange_of_unary h
  | arith op left right =>
    obtain ⟨_, -, h⟩ := bind_ok h
    obtain ⟨_, -, h⟩ := bind_ok h
    exact inRange_of_arith h
  | relation op left right =>
    obtain ⟨_, -, h⟩ := bind_ok h
    obtain ⟨_, -, h⟩ := bind_ok h
    cases h
    exact inRange_ofBool _
  | both left right | either left right =>
    obtain ⟨_, -, h⟩ := bind_ok h
    split at h
    · cases h
      decide
    · obtain ⟨_, -, h⟩ := bind_ok h
      cases h
      exact inRange_ofBool _
  | choice condition first second _ hfirst hsecond =>
    obtain ⟨_, -, h⟩ := bind_ok h
    split at h
    · obtain ⟨w, hw, h⟩ := bind_ok h
      exact inRange_of_chosen (hfirst hw) h
    · obtain ⟨w, hw, h⟩ := bind_ok h
      exact inRange_of_chosen (hsecond hw) h
  | comparisons | call | empty | quotation => cases h

/-- A choice of -1 beside an unsigned branch is the greatest unsigned word. -/
theorem Term.choice_beside_unsigned_inRange :
    (choice (.number 0) (.unsigned (.number 1)) (.unary .minus (.number 1))).value = .ok ⟨2 ^ 64 - 1, true⟩ ∧
      InRange ⟨2 ^ 64 - 1, true⟩ :=
  have h := rfl
  ⟨h, value_inRange _ h⟩

end CCompiler.Condition
