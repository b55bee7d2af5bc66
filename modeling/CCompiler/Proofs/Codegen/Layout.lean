import CCompiler.Proofs.Codegen.Emission
import CCompiler.Proofs.Steps

/-!
# Layouts of functions over `int`

Every parameter and every local of a function over `int` has a cell of its own in the frame of the function.

* `Layout.params_of_ofFunction` -- the parameters of a layout are those of the function;
* `Layout.placed_of_ofFunction` -- the slots of a layout lie in the frame, one below the other.
-/
namespace CCompiler.Codegen

open List
open Bool (and_eq_true)

variable {s : Stmt NodeId} {ts : List CType} {ss : List (Stmt NodeId)}

namespace Layout

section Types

variable {typeOf : NodeId → Option CType} {locals : List String}

theorem objectType_int (hs : isIntSpec type) (h : objectType role type = .ok t) : isInt t := by
  unfold isIntSpec at hs
  rw [and_eq_true, beq_iff_eq, List.isEmpty_iff] at hs
  unfold objectType at h
  simp only [hs.1, hs.2, any_nil, isEmpty_nil, Bool.not_true, Bool.false_eq_true, if_false,
    beq_self_eq_true, Bool.true_or, if_true] at h
  cases h
  rfl

/-- The types that a reading gives are all `int`. -/
def AllInt (types : Except Failure (List CType)) : Prop := ∀ ts, types = .ok ts → ∀ t ∈ ts, isInt t = true

theorem allInt_nil : AllInt (.ok []) := by
  intro ts h
  cases h
  exact nofun

theorem objectLocals_int (hs : isIntObject typeOf locals s) : AllInt (statementLocals s) := by
  have hdecl : ∀ {type : TypeSpec NodeId} {name storage isThreadLocal}, isIntSpec type →
      AllInt (do return [← localType name type storage isThreadLocal]) := by
    intro type name storage isThreadLocal hspec ts h
    obtain ⟨t, ht, heq⟩ := bind_ok h
    cases heq
    unfold localType at ht
    split_ifs at ht
    · cases ht
    · intro u hu
      rw [mem_singleton.mp hu]
      exact objectType_int hspec ht
  unfold isIntObject at hs
  split at hs
  · exact hdecl hs
  · exact hdecl (and_eq_true _ _ ▸ hs).1
  · cases hs

theorem appended_int (hx : AllInt x) (hy : AllInt y) : AllInt (do return (← x) ++ (← y)) := by
  intro ts h
  obtain ⟨us, hus, h⟩ := bind_ok h
  obtain ⟨vs, hvs, heq⟩ := bind_ok h
  cases heq
  exact forall_mem_append.mpr ⟨hx us hus, hy vs hvs⟩

theorem objectsLocals_int (hs : isIntObjects typeOf locals ss) : AllInt (itemLocals ss) := by
  induction ss generalizing locals with
  | nil => exact allInt_nil
  | cons s rest ih =>
    rw [isIntObjects, and_eq_true] at hs
    exact appended_int (objectLocals_int hs.1) (ih hs.2)

theorem declarationLocals_int (hs : isIntDeclaration typeOf locals s) : AllInt (statementLocals s) := by
  unfold isIntDeclaration at hs
  split at hs
  · exact objectsLocals_int hs
  · exact objectLocals_int hs

mutual

/-- The locals of a statement over `int`. -/
theorem statementLocals_int {locals : List String} {s : Stmt NodeId}
    (hs : isIntStmt typeOf locals s) : AllInt (statementLocals s) := by
  cases s with
  | compound items =>
    exact itemLocals_int hs
  | ifElse condition thenBody elseBody =>
    cases elseBody with
    | none =>
      rw [isIntStmt, and_eq_true] at hs
      rw [statementLocals]
      exact statementLocals_int hs.2
    | some elseBody =>
      rw [isIntStmt, and_eq_true, and_eq_true] at hs
      exact appended_int (statementLocals_int hs.1.2) (statementLocals_int hs.2)
  | while_ condition body | doWhile body condition =>
    rw [isIntStmt, and_eq_true] at hs
    rw [statementLocals]
    exact statementLocals_int hs.2
  | for_ init condition post body =>
    simp only [isIntStmt, and_eq_true] at hs
    cases init with
    | none =>
      rw [statementLocals]
      exact statementLocals_int hs.2
    | some init =>
      refine appended_int ?_ (statementLocals_int hs.2)
      have hinit := hs.1.1.1
      split at hinit
      · cases ‹some init = none›
      · cases ‹some init = some _›
        exact allInt_nil
      · cases ‹some init = some _›
        exact declarationLocals_int hinit
  | expr | null | break_ | continue_ | return_ =>
    exact allInt_nil
  | _ => cases hs
termination_by structural s

/-- The locals of the items of a block over `int`. -/
theorem itemLocals_int {locals : List String} {ss : List (Stmt NodeId)}
    (hs : isIntItems typeOf locals ss) : AllInt (itemLocals ss) := by
  cases ss with
  | nil =>
    exact allInt_nil
  | cons s rest =>
    rw [isIntItems, and_eq_true, Bool.or_eq_true] at hs
    refine appended_int ?_ (itemLocals_int hs.2)
    rcases hs.1 with hstmt | hdecl
    · exact statementLocals_int hstmt
    · exact declarationLocals_int hdecl
termination_by structural ss

end

theorem params_int {params : List (Param NodeId)} {ps : List (String × CType)}
    (hs : params.all (fun p => isIntSpec p.type)) (h : params.mapM param = .ok ps) :
    ps.map (·.1) = params.filterMap (·.name) ∧ ps.length = params.length ∧ ∀ t ∈ ps.map (·.2), isInt t := by
  induction params generalizing ps with
  | nil =>
    cases h
    exact ⟨rfl, rfl, nofun⟩
  | cons p rest ih =>
    rw [all_cons, and_eq_true] at hs
    rw [mapM_cons] at h
    obtain ⟨q, hq, h⟩ := bind_ok h
    obtain ⟨qs, hqs, heq⟩ := bind_ok h
    cases heq
    obtain ⟨hnames, hlen, htypes⟩ := ih hs.2 hqs
    unfold param at hq
    cases hname : p.name with rw [hname] at hq
    | none => cases hq
    | some name =>
      obtain ⟨t, ht, heq⟩ := bind_ok hq
      cases heq
      refine ⟨?_, congrArg (· + 1) hlen, ?_⟩
      · rw [map_cons, hnames, filterMap_cons_some hname]
      · exact forall_mem_cons.mpr ⟨objectType_int hs.1 ht, htypes⟩

end Types

theorem length_slotsFrom (count : Nat) (ts : List CType) : (slotsFrom count ts).length = ts.length := by
  induction ts generalizing count with
  | nil => rfl
  | cons t ts ih => exact congrArg (· + 1) (ih (count + 1))

theorem slotsFrom_append (count : Nat) (ts us : List CType) :
    slotsFrom count (ts ++ us) = slotsFrom count ts ++ slotsFrom (count + ts.length) us := by
  induction ts generalizing count with
  | nil => rfl
  | cons t ts ih =>
    show _ :: slotsFrom (count + 1) (ts ++ us) = _ :: (_ ++ slotsFrom (count + (ts.length + 1)) us)
    rw [ih, Nat.add_assoc, Nat.add_comm 1]

/-- A slot has the type of one of the objects and lies at its place among them. -/
theorem mem_slotsFrom {count : Nat} {slot : Slot} (h : slot ∈ slotsFrom count ts) :
    slot.type ∈ ts ∧ 8 ∣ slot.offset ∧ 8 * (count + 1) ≤ slot.offset ∧ slot.offset ≤ 8 * (count + ts.length) := by
  induction ts generalizing count with
  | nil => cases h
  | cons t ts ih =>
    rcases mem_cons.mp h with rfl | h
    · refine ⟨mem_cons_self, ⟨count + 1, rfl⟩, Nat.le_refl _, ?_⟩
      show 8 * (count + 1) ≤ 8 * (count + (ts.length + 1))
      omega
    · obtain ⟨htype, hdvd, hlow, hhigh⟩ := ih h
      rw [length_cons]
      exact ⟨mem_cons_of_mem _ htype, hdvd, by omega, by omega⟩

theorem nodup_slotsFrom (count : Nat) (ts : List CType) : ((slotsFrom count ts).map Slot.offset).Nodup := by
  induction ts generalizing count with
  | nil => exact .nil
  | cons t ts ih =>
    refine nodup_cons.mpr ⟨fun hm => ?_, ih (count + 1)⟩
    obtain ⟨slot, hslot, heq⟩ := mem_map.mp hm
    have hlow := (mem_slotsFrom hslot).2.2.1
    have hoff : slot.offset = 8 * (count + 1) := heq
    omega

section Layouts

variable {typeOf : NodeId → Option CType} {f : FunctionDef NodeId} {body : List (Stmt NodeId)} {layout : Layout}

/-- What a layout is made of. -/
theorem ofFunction_eq_ok (h : ofFunction f body = .ok layout) :
    f.params.length ≤ maxParams ∧ ∃ ps ts, f.params.mapM param = .ok ps ∧ itemLocals body = .ok ts ∧
      layout = ⟨(ps.map (·.1)).zip (slotsFrom 0 (ps.map (·.2))), slotsFrom ps.length ts,
        frameFor (ps.length + ts.length)⟩ := by
  unfold ofFunction at h
  split_ifs at h with hmax
  · cases h
  · obtain ⟨ps, hps, h⟩ := bind_ok h
    obtain ⟨ts, hts, heq⟩ := bind_ok h
    cases heq
    exact ⟨by omega, ps, ts, hps, hts, rfl⟩

/-- The parameters of a layout are those of the function. -/
theorem params_of_ofFunction (hint : isIntFunction typeOf f body) (h : ofFunction f body = .ok layout) :
    layout.params.map (·.1) = f.params.filterMap (·.name) ∧ layout.params.length = f.params.length := by
  unfold isIntFunction at hint
  rw [and_eq_true, and_eq_true] at hint
  obtain ⟨-, ps, ts, hps, -, rfl⟩ := ofFunction_eq_ok h
  obtain ⟨hnames, hlen, -⟩ := params_int hint.1.2 hps
  have hslots : (ps.map (·.1)).length = (slotsFrom 0 (ps.map (·.2))).length := by
    simp [length_slotsFrom]
  refine ⟨?_, ?_⟩
  · rw [map_fst_zip (Nat.le_of_eq hslots), hnames]
  · rw [length_zip, ← hslots, Nat.min_self, length_map, hlen]

/-- **The slots of a function over `int` lie in its frame**, each at a place of its own. -/
theorem placed_of_ofFunction (hint : isIntFunction typeOf f body)
    (h : ofFunction f body = .ok layout) (st : State) :
    Placed layout.frameSize { st with scopes := [layout.params], pending := layout.locals } := by
  unfold isIntFunction at hint
  rw [and_eq_true, and_eq_true] at hint
  obtain ⟨-, ps, ts, hps, hts, rfl⟩ := ofFunction_eq_ok h
  obtain ⟨hnames, hlen, htypes⟩ := params_int hint.1.2 hps
  have hslots : State.slots { st with
      scopes := [(ps.map (·.1)).zip (slotsFrom 0 (ps.map (·.2)))], pending := slotsFrom ps.length ts } =
      slotsFrom 0 (ps.map (·.2) ++ ts) := by
    unfold State.slots
    rw [flatten_singleton, map_snd_zip (by simp [length_slotsFrom]), slotsFrom_append]
    simp
  refine ⟨cons_ne_nil _ _, ?_, fun slot hm => ?_⟩
  · rw [hslots]
    exact nodup_slotsFrom _ _
  · rw [hslots] at hm
    obtain ⟨htype, hdvd, hlow, hhigh⟩ := mem_slotsFrom hm
    refine ⟨?_, hdvd, by omega, ?_⟩
    · exact (mem_append.mp htype).elim (htypes _) (itemLocals_int hint.2 ts hts _)
    · show slot.offset ≤ (8 * (ps.length + ts.length) + 15) / 16 * 16
      rw [length_append, length_map] at hhigh
      omega

end Layouts

end Layout

end CCompiler.Codegen
