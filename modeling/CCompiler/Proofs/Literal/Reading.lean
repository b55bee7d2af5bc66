import CCompiler.Codegen.Layout
import CCompiler.Proofs.Codegen.Meaning

/-!
# Reading integer constants

The reader of numbers takes digits of any script, spaces, signs and underscores. On the digits of an
integer constant it does nothing but add them up, so the generator gives a constant the value that C gives
it.
-/
namespace CCompiler.Literal

open List
open Meaning (digit? digits? constant?)
open Text (digitValue? digitsValue? isNumberSpace trimNumber cutSign dropUnderscores? dropBasePrefix
  magnitude? readInteger?)

variable {cs : List Char} {base n : Nat} {v : Int}

/-- The digits of all bases up to sixteen. -/
def hexDigits : List Char := "0123456789abcdefABCDEF".toList

theorem mem_hexDigits (h : digit? c = some d) : c ∈ hexDigits := by
  have hlt : c.toNat < 128 := by
    change ((if 48 ≤ c.toNat ∧ c.toNat ≤ 57 then _ else if 97 ≤ c.toNat ∧ c.toNat ≤ 102 then _
      else if 65 ≤ c.toNat ∧ c.toNat ≤ 70 then _ else none) = some d) at h
    split at h
    · omega
    split at h
    · omega
    split at h
    · omega
    · cases h
  have hall : ∀ n < 128, (digit? (Char.ofNat n)).isSome → Char.ofNat n ∈ hexDigits := by decide
  have hc := hall c.toNat hlt
  rw [Char.ofNat_toNat, h] at hc
  exact hc rfl

/-- What a digit is and is not for the readers of numbers. -/
theorem digit_facts (h : c ∈ hexDigits) :
    digitValue? c = digit? c ∧ isNumberSpace c = false ∧ isSuffixChar c = false ∧
      c ≠ '_' ∧ c ≠ '-' ∧ c ≠ '+' ∧ c.toLower ≠ 'x' ∧ c.toLower ≠ 'o' := by
  have hall : hexDigits.all (fun c => decide (digitValue? c = digit? c ∧ isNumberSpace c = false ∧
      isSuffixChar c = false ∧ c ≠ '_' ∧ c ≠ '-' ∧ c ≠ '+' ∧ c.toLower ≠ 'x' ∧ c.toLower ≠ 'o')) := by
    decide
  exact of_decide_eq_true (all_eq_true.mp hall c h)

theorem all_hexDigits {value : Nat} (h : digits? base value cs = some n) : ∀ c ∈ cs, c ∈ hexDigits := by
  induction cs generalizing value with
  | nil => intro c hc; cases hc
  | cons c cs ih =>
    obtain ⟨d, hd, h⟩ := Option.bind_eq_some_iff.mp h
    split at h
    · exact forall_mem_cons.mpr ⟨mem_hexDigits hd, ih h⟩
    · cases h

theorem dropWhile_of_forall_false (h : ∀ c ∈ cs, p c = false) : cs.dropWhile p = cs := by
  cases cs with
  | nil => rfl
  | cons c cs => rw [dropWhile_cons, h c mem_cons_self]; rfl

section Digits

variable (h : ∀ c ∈ cs, c ∈ hexDigits)

include h

theorem trimNumber_digits : trimNumber cs = cs := by
  have hspace : ∀ c ∈ cs, isNumberSpace c = false := fun c hc => (digit_facts (h c hc)).2.1
  unfold trimNumber
  rw [dropWhile_of_forall_false hspace, dropWhile_of_forall_false, reverse_reverse]
  exact fun c hc => hspace c (mem_reverse.mp hc)

theorem cutSign_digits : cutSign cs = (false, cs) := by
  unfold cutSign
  split
  · exact absurd rfl (digit_facts (h '-' mem_cons_self)).2.2.2.2.1
  · exact absurd rfl (digit_facts (h '+' mem_cons_self)).2.2.2.2.2.1
  · rfl

theorem dropUnderscores_digits : dropUnderscores? cs = some cs := by
  have hne : ∀ c ∈ cs, c ≠ '_' := fun c hc => (digit_facts (h c hc)).2.2.2.1
  fun_induction dropUnderscores? cs with
  | case1 => rfl
  | case2 | case3 => exact absurd rfl (hne _ mem_cons_self)
  | case4 => rfl
  | case5 | case6 => exact absurd rfl (hne '_' (by simp))
  | case7 c rest _ _ _ _ ih =>
    rw [ih (forall_mem_cons.mp h).2 (forall_mem_cons.mp hne).2]
    rfl

theorem dropBasePrefix_digits (hb : base ≠ 2) : dropBasePrefix base cs = cs := by
  unfold dropBasePrefix
  split
  · rename_i letter rest
    obtain ⟨_, _, _, _, _, _, hx, ho⟩ := digit_facts (h letter (by simp))
    rw [if_neg]
    unfold Text.basePrefix?
    split
    · exact fun e => hx (Option.some.inj e).symm
    split
    · exact fun e => ho (Option.some.inj e).symm
    · exact fun e => by cases e
  · rfl

theorem digitsValue_eq {base value : Nat} : cs.foldlM (fun value c => do
      let d ← digitValue? c
      if d < base then return value * base + d else none) value = digits? base value cs := by
  induction cs generalizing value with
  | nil => rfl
  | cons c cs ih =>
    have hcs : ∀ b ∈ cs, b ∈ hexDigits := (forall_mem_cons.mp h).2
    rw [foldlM_cons, (digit_facts (h c mem_cons_self)).1, digits?]
    cases digit? c with
    | none => rfl
    | some d =>
      by_cases hd : d < base
      · simp only [Option.bind_eq_bind, Option.bind_some, hd, if_true, ← ih hcs]
        rfl
      · simp [hd]

end Digits

/-- **The reader of numbers adds up plain digits.** -/
theorem ofText_digits (hb : base ≠ 2) (hne : cs ≠ [])
    (h : digits? base 0 cs = some n) (hv : Number.ofText base cs = .ok v) : v = n := by
  have hall := all_hexDigits h
  have hmag : magnitude? base cs = some n := by
    unfold magnitude?
    rw [dropBasePrefix_digits hall hb, dropUnderscores_digits hall]
    have hempty : cs.isEmpty = false := by simp [hne]
    simp only [Option.bind_eq_bind, Option.bind_some, hempty, Bool.false_eq_true, if_false]
    exact (digitsValue_eq hall).trans h
  unfold Number.ofText readInteger? at hv
  rw [trimNumber_digits hall, cutSign_digits hall] at hv
  simp only [hmag, Option.bind_eq_bind, Option.bind_some, Option.pure_def, Option.map_some,
    Bool.false_eq_true, if_false] at hv
  split at hv
  · rename_i m hm
    split at hm
    · cases hm
    · cases hm; cases hv; rfl
  · split at hv <;> cases hv

/-- Digits have no suffix behind them. -/
theorem bodyOf_of_last (hne : ds ≠ []) (h : ∀ c ∈ ds, c ∈ hexDigits) : bodyOf (cs ++ ds) = cs ++ ds := by
  obtain ⟨front, c, rfl⟩ := eq_nil_or_concat ds |>.resolve_left hne
  have hc := (digit_facts (h c (by simp))).2.2.1
  unfold bodyOf
  simp [hc]

/-- The value of digits in a base is that of the body they stand for. -/
theorem value_of_body (hb : base ≠ 2) (hne : ds ≠ []) (h : digits? base 0 ds = some n)
    (hbody : value text = Number.ofText base ds) (hv : Codegen.integerValue text = .ok v) : v = n := by
  unfold Codegen.integerValue at hv
  rw [hbody] at hv
  cases ht : Number.ofText base ds with
  | error fault => rw [ht] at hv; cases hv
  | ok m => rw [ht] at hv; cases hv; exact ofText_digits hb hne h ht

/-- **The generator reads an integer constant as C does.** -/
theorem integerValue_of_constant (h : constant? text.toList = some n) (hv : Codegen.integerValue text = .ok v) : v = n := by
  have hbody : ∀ (cs ds : List Char), text.toList = cs ++ ds → ds ≠ [] →
      (∀ c ∈ ds, c ∈ hexDigits) → bodyOf text.toList = cs ++ ds := by
    intro cs ds htext hne hds
    rw [htext, bodyOf_of_last hne hds]
  unfold constant? at h
  split at h
  · rename_i c cs htext
    refine value_of_body (by decide) (by simp) h ?_ hv
    rw [value, hbody ['0', 'x'] (c :: cs) htext (by simp) (all_hexDigits h)]
    rfl
  · rename_i c cs htext
    refine value_of_body (by decide) (by simp) h ?_ hv
    rw [value, hbody ['0', 'X'] (c :: cs) htext (by simp) (all_hexDigits h)]
    rfl
  · rename_i cs hx hX htext
    have hall := all_hexDigits h
    cases cs with
    | nil =>
      -- a lone zero is read as a decimal number, which makes no difference
      have hzero : digits? 10 0 ['0'] = some n := h
      refine value_of_body (by decide) (by simp) hzero ?_ hv
      rw [value, hbody [] ['0'] htext (by simp) hall]
      rfl
    | cons c cs =>
      obtain ⟨_, _, _, _, _, _, hlow, _⟩ := digit_facts (hall c (by simp))
      refine value_of_body (by decide) (by simp) h ?_ hv
      rw [value, hbody [] ('0' :: c :: cs) htext (by simp) hall, nil_append, Body.of]
      · rintro rfl; exact hlow (by decide)
      · rintro rfl; exact hlow (by decide)
  · rename_i c cs hx hX hzero htext
    refine value_of_body (by decide) (by simp) h ?_ hv
    rw [value, hbody [] (c :: cs) htext (by simp) (all_hexDigits h), nil_append, Body.of]
    all_goals simp_all
  · cases h

end CCompiler.Literal
