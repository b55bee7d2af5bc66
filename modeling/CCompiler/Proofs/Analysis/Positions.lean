import CCompiler.Proofs.Analysis.Declared

/-!
# Positions in the list of an array

* `Placed` -- the positions that the items of a list set;
* `array_list_accepted_iff` -- which lists are accepted, and the length that a list gives an array.
-/
namespace CCompiler.Analysis

open List (forall_mem_cons)

section

variable (ask : Ask) (scope : ScopePath) (standard : Standard) (element : CType) (I : State → Prop)

/-- Wherever a condition holds of the state, a step succeeds and leaves it true. -/
def Safe (step : Analyze Unit) : Prop := ∀ {s}, I s → ∃ s', step standard s = .ok ((), s') ∧ I s'

/-- Wherever a condition holds of the state, an index has a value. -/
def Fixes (e : Expr NodeId) (i : Int) : Prop := ∀ {s}, I s → initializerIndex ask scope e standard s = .ok (i, s)

/-- The first and the last position that an item sets: those of its first designator, or the next one. -/
inductive Covers (next : Int) : InitItem NodeId → Int → Int → Prop
  | next {v} (h : Safe standard I (ask (.initializer element v scope))) : Covers next ⟨[], v⟩ next next
  | index {e i rest v} (he : Fixes ask scope standard I e i)
      (h : Safe standard I (ask (.designated element rest v scope))) : Covers next ⟨.index e :: rest, v⟩ i i
  | range {e e' low high rest v} (he : Fixes ask scope standard I e low) (he' : Fixes ask scope standard I e' high)
      (h : Safe standard I (ask (.designated element rest v scope))) :
      Covers next ⟨.range e e' :: rest, v⟩ low high

/-- The positions that the items of a list set, from a next one on. -/
inductive Placed : Int → List (InitItem NodeId) → List (Int × Int) → Prop
  | nil {next} : Placed next [] []
  | cons {next item items low high ps} (h : Covers ask scope standard element I next item low high)
      (hrest : Placed (high + 1) items ps) : Placed next (item :: items) ((low, high) :: ps)

end

variable {ask : Ask} {scope : ScopePath} {standard : Standard} {element target : CType} {I : State → Prop}
  {item : InitItem NodeId} {items : List (InitItem NodeId)} {ps : List (Int × Int)} {s : State}
  {next low high length : Int}

attribute [local simp] run_bind

theorem Safe.repeatTimes (h : Safe standard I step) (n : Nat) : Safe standard I (repeatTimes step n) := by
  induction n with
  | zero => exact fun hs => ⟨_, rfl, hs⟩
  | succ n ih =>
    intro s hs
    obtain ⟨s1, hstep, hs1⟩ := h hs
    obtain ⟨s2, hrest, hs2⟩ := ih hs1
    exact ⟨s2, run_bind.mpr ⟨_, hstep, hrest⟩, hs2⟩

section

variable (h : Covers ask scope standard element I next item low high) (hs : I s)

include h hs

theorem Covers.nextIndex : nextIndex ask scope next item standard s = .ok (high + 1, s) := by
  cases h with
  | next => rfl
  | index he | range _ he => exact run_bind.mpr ⟨_, he hs, rfl⟩

theorem Covers.arrayItem (hnext : 0 ≤ next) (length : Int) :
    ∃ s', I s' ∧ ∀ r, arrayItem ask scope element length next item standard s = .ok r ↔
      (0 ≤ low ∧ low ≤ high ∧ high < length) ∧ (high + 1, s') = r := by
  unfold Analysis.arrayItem
  cases h with
  | next h =>
    obtain ⟨s', hrun, hs'⟩ := h hs
    exact ⟨s', hs', by simp [-bind_pure_comp, hrun, hnext]⟩
  | index he h =>
    obtain ⟨s', hrun, hs'⟩ := h hs
    exact ⟨s', hs', by simp [-bind_pure_comp, he hs, hrun]⟩
  | range he he' h =>
    obtain ⟨s', hrun, hs'⟩ := h.repeatTimes (high + 1 - low).toNat hs
    refine ⟨s', hs', ?_⟩
    simp [-bind_pure_comp, he hs, he' hs, hrun]
    grind

end

section

variable (h : Placed ask scope standard element I next items ps) (hs : I s)

include h hs

/-- The length found is one more than the greatest position, or a given one. -/
theorem Placed.inferLength (greatest : Int) :
    ∃ n, inferLength ask scope greatest next items standard s = .ok (n, s) ∧ greatest ≤ n ∧
      (∀ p ∈ ps, p.2 < n) ∧ (n = greatest ∨ ∃ p ∈ ps, n = p.2 + 1) := by
  induction h generalizing greatest with
  | nil => exact ⟨greatest, rfl, le_rfl, nofun, .inl rfl⟩
  | @cons _ _ _ low high _ hitem _ ih =>
    obtain ⟨n, hrun, hle, hlast, hn⟩ := ih (max greatest (high + 1))
    refine ⟨n, run_bind.mpr ⟨_, hitem.nextIndex hs, hrun⟩, by omega, ?_, ?_⟩
    · exact forall_mem_cons.mpr ⟨by grind, hlast⟩
    · rw [List.exists_mem_cons_iff]
      grind

theorem Placed.arrayItems_iff (hnext : 0 ≤ next) :
    (∃ r, arrayItems ask scope element length next items standard s = .ok r) ↔
      ∀ p ∈ ps, 0 ≤ p.1 ∧ p.1 ≤ p.2 ∧ p.2 < length := by
  induction h generalizing s with
  | nil => exact ⟨nofun, fun _ => ⟨_, rfl⟩⟩
  | cons hitem _ ih =>
    obtain ⟨s', hs', hrun⟩ := hitem.arrayItem hs hnext length
    simp only [arrayItems, run_bind, hrun, forall_mem_cons]
    constructor
    · rintro ⟨r, _, ⟨hin, rfl⟩, hr⟩
      exact ⟨hin, (ih hs' (by omega)).mp ⟨r, hr⟩⟩
    · rintro ⟨hin, hrest⟩
      obtain ⟨r, hr⟩ := (ih hs' (by omega)).mpr hrest
      exact ⟨r, _, ⟨hin, rfl⟩, hr⟩

end

/-- **A list whose elements are accepted and do not change what an index means is accepted for an array exactly
    when the positions of each item run upwards from zero or more and, if the array has a length, lie below it.
    The length that it gives an array without one is one more than the greatest position, or zero.** -/
theorem array_list_accepted_iff (h : Placed ask scope standard element I 0 items ps) (hs : I s)
    (hlength : target.length? = some length) (helement : target.element? = some element) :
    ((∃ r, analyzeInitializer ask scope target (.list items) standard s = .ok r) ↔
      ∀ p ∈ ps, 0 ≤ p.1 ∧ p.1 ≤ p.2 ∧ (0 ≤ length → p.2 < length)) ∧
    ∃ n, inferLength ask scope 0 0 items standard s = .ok (n, s) ∧ (∀ p ∈ ps, p.2 < n) ∧
      (n = 0 ∨ ∃ p ∈ ps, n = p.2 + 1) := by
  obtain ⟨n, hrun, -, hlast, hn⟩ := h.inferLength hs 0
  refine ⟨?_, n, hrun, hlast, hn⟩
  simp only [analyzeInitializer, hlength, helement]
  by_cases hopen : length < 0
  · simp [hopen, hrun, h.arrayItems_iff hs le_rfl]
    grind
  · simp [hopen, h.arrayItems_iff hs le_rfl]
    grind

/-- The list `{ {}, [2 ... 3] = {} }` is accepted for an array of arrays without a length. -/
theorem list_with_range_accepted :
    ∃ r, analyzeInitializer (answersWithin 2) fileScope ((CType.int.arrayOf 2).arrayOf (-1))
      (.list [⟨[], .list []⟩, ⟨[.range (.int 1 "2") (.int 2 "3")], .list []⟩]) .c11 {} = .ok r := by
  have h : Placed (answersWithin 2) fileScope .c11 (.arrayOf .int 2) (fun _ => True) 0
      [⟨[], .list []⟩, ⟨[.range (.int 1 "2") (.int 2 "3")], .list []⟩] [(0, 0), (2, 3)] :=
    .cons (.next fun _ => ⟨_, rfl, trivial⟩)
      (.cons (.range (fun _ => rfl) (fun _ => rfl) fun _ => ⟨_, rfl, trivial⟩) .nil)
  exact (array_list_accepted_iff h trivial rfl rfl).1.mpr (by decide)

end CCompiler.Analysis
