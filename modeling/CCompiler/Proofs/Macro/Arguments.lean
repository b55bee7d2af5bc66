import CCompiler.Macro.Expand
import Mathlib

/-!
# Arguments of invocations

An invocation is taken apart at the commas outside of inner parentheses. This undoes joining the arguments with
commas, whatever stands behind the invocation.

* `IsArgument` -- what can stand between two commas;
* `splitArguments_append` -- an argument is read as a whole;
* `invocation_of_arguments` -- joined arguments come back, and only a parenthesis that stays open has no end.
-/
namespace CCompiler.Macro

open List

variable {t : MacroToken} {arg rest : List MacroToken} {depth : Nat}

/-- How many more parentheses a token opens than it closes. -/
def opened (t : MacroToken) : Int := if t.text = "(" then 1 else if t.text = ")" then -1 else 0

def balance (tokens : List MacroToken) : Int := (tokens.map opened).sum

/-- With so many parentheses open before tokens, nowhere in them is one more closed. -/
def StaysOpen (depth : Nat) (tokens : List MacroToken) : Prop := ∀ front ∈ tokens.inits, 0 ≤ depth + balance front

/-- Wherever a comma stands, a parenthesis is open. -/
def CommasInside (depth : Nat) (tokens : List MacroToken) : Prop :=
  ∀ front ∈ tokens.inits, (∃ t ∈ front.getLast?, t.text = ",") → 0 < depth + balance front

/-- Parentheses are balanced, and commas stand between them only. -/
def IsArgument (arg : List MacroToken) : Prop := balance arg = 0 ∧ StaysOpen 0 arg ∧ CommasInside 0 arg

instance : Decidable (IsArgument arg) := inferInstanceAs (Decidable (_ ∧ (∀ _ ∈ _, _) ∧ ∀ _ ∈ _, _))

theorem balance_cons : balance (t :: rest) = opened t + balance rest := rfl

theorem staysOpen_cons :
    StaysOpen depth (t :: rest) ↔ 0 ≤ depth + opened t ∧ StaysOpen (depth + opened t).toNat rest := by
  simp only [StaysOpen, inits_cons, forall_mem_cons, forall_mem_map, balance_cons]
  constructor
  · rintro ⟨-, h⟩
    have hfirst := h [] (by simp)
    rw [show balance [] = 0 from rfl] at hfirst
    exact ⟨by omega, fun front hfront => by have := h front hfront; omega⟩
  · rintro ⟨hfirst, h⟩
    exact ⟨by simp [balance], fun front hfront => by have := h front hfront; omega⟩

theorem CommasInside.tail (h : CommasInside depth (t :: rest)) (hopen : 0 ≤ depth + opened t) :
    CommasInside (depth + opened t).toNat rest := by
  rintro front hfront ⟨s, hs, hcomma⟩
  have := h (t :: front) (by simpa using hfront) ⟨s, by simp [getLast?_cons, Option.mem_def.mp hs], hcomma⟩
  rw [balance_cons] at this
  omega

/-- A token that neither ends nor divides the arguments belongs to the first of them. -/
theorem splitArguments_cons (hopen : 0 ≤ depth + opened t) (hcomma : t.text = "," → depth ≠ 0) :
    splitArguments depth (t :: rest) =
      (splitArguments (depth + opened t).toNat rest).map fun (first, more, behind) => (t :: first, more, behind) := by
  unfold opened at *
  rw [splitArguments]
  split_ifs at * <;> grind

/-- **Tokens with commas between parentheses only belong to one argument.** -/
theorem splitArguments_append (hnested : StaysOpen depth arg) (hcommas : CommasInside depth arg) :
    splitArguments depth (arg ++ rest) = (splitArguments (depth + balance arg).toNat rest).map
      fun (first, more, behind) => (arg ++ first, more, behind) := by
  induction arg generalizing depth with
  | nil => simp [balance]
  | cons t arg ih =>
    obtain ⟨hopen, hrest⟩ := staysOpen_cons.mp hnested
    have hcomma (ht : t.text = ",") : depth ≠ 0 := by
      have := hcommas [t] (by simp) ⟨t, rfl, ht⟩
      simp [balance, opened, ht] at this
      omega
    have hdepth : ((depth + opened t).toNat + balance arg).toNat = (depth + balance (t :: arg)).toNat := by
      rw [balance_cons]
      omega
    rw [cons_append, splitArguments_cons hopen hcomma, ih hrest (hcommas.tail hopen), hdepth, Option.map_map]
    rfl

theorem splitArguments_join {first : List MacroToken} {more : List (List MacroToken)}
    (h : ∀ arg ∈ first :: more, IsArgument arg) (ht : t.text = ")") :
    splitArguments 0 (joinArguments (first :: more) ++ t :: rest) = some (first, more, rest) := by
  induction more generalizing first with
  | nil =>
    obtain ⟨hclosed, hnested, hcommas⟩ := h first mem_cons_self
    rw [joinArguments, splitArguments_append hnested hcommas, hclosed]
    simp [splitArguments, ht]
  | cons next more ih =>
    obtain ⟨hclosed, hnested, hcommas⟩ := h first mem_cons_self
    rw [joinArguments, append_assoc, splitArguments_append hnested hcommas, hclosed]
    · simp [splitArguments, MacroToken.comma, ih (forall_mem_cons.mp h).2]
    · exact cons_ne_nil _ _

theorem splitArguments_eq_none : splitArguments depth rest = none ↔ StaysOpen depth rest := by
  induction rest generalizing depth with
  | nil => simp [splitArguments, StaysOpen, balance]
  | cons t rest ih =>
    rw [staysOpen_cons, ← ih]
    by_cases hopen : 0 ≤ depth + opened t
    · by_cases hcomma : t.text = "," ∧ depth = 0
      · simp [splitArguments, hcomma, opened]
      · simp [splitArguments_cons hopen fun ht hd => hcomma ⟨ht, hd⟩, hopen]
    · have hclose : t.text = ")" ∧ depth = 0 := by
        unfold opened at hopen
        split_ifs at hopen <;> grind
      simp [splitArguments, hclose, opened]

/-- **Splitting undoes joining.** Arguments joined with commas between parentheses are found again, with what stands
    behind them; and an invocation has no end exactly if its first parenthesis is never closed. -/
theorem invocation_of_arguments :
    (∀ args behind opening closing, opening.text = "(" → closing.text = ")" → args ≠ [] → args ≠ [[]] →
      (∀ arg ∈ args, IsArgument arg) →
      invocation (opening :: (joinArguments args ++ closing :: behind)) = .call args behind) ∧
    ∀ tokens, invocation tokens = .unterminated ↔
      ∃ opening rest, tokens = opening :: rest ∧ opening.text = "(" ∧ StaysOpen 0 rest := by
  constructor
  · intro args behind opening closing hopening hclosing hsome hempty hargs
    obtain ⟨first, more, rfl⟩ := exists_cons_of_ne_nil hsome
    rw [invocation, if_neg (not_not.mpr hopening), splitArguments_join hargs hclosing]
    cases first <;> cases more <;> simp_all
  · intro tokens
    cases tokens with
    | nil => simp [invocation]
    | cons t rest =>
      rw [invocation]
      split
      · simp_all
      · next ht =>
        rw [not_not] at ht
        simp only [cons.injEq, ← splitArguments_eq_none]
        split <;> simp_all

/-- An empty argument, and one with a comma between parentheses. -/
theorem arguments_of_parentheses :
    let mark (text : String) : MacroToken := ⟨.punctuator, text⟩
    let args := [[], [mark "(", mark ",", mark ")"]]
    (∀ arg ∈ args, IsArgument arg) ∧
      invocation (mark "(" :: (joinArguments args ++ [mark ")", mark ";"])) = .call args [mark ";"] := by
  intro mark args
  have hargs : ∀ arg ∈ args, IsArgument arg := by decide
  exact ⟨hargs, invocation_of_arguments.1 args _ (mark "(") (mark ")") rfl rfl nofun (by simp [args]) hargs⟩

end CCompiler.Macro
