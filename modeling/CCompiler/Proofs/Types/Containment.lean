import CCompiler.Proofs.Steps
import CCompiler.Types.Basic
import Mathlib.Data.List.Perm.Subperm
import Mathlib.Logic.Relation

/-!
# Records inside records

Sizes, alignments and the names visible in a record are found by going into the records inside it, at most
so deep. As long as no record contains itself the bound is never met, since on the way down no record comes
twice.

* `Contains` -- a record has a member that is another record or an array of it;
* `descend` -- what follows for a record from the records in it holds at the bound;
* `layout_ends` -- the three questions about records are answered.
-/
namespace CCompiler

/-- Derivations that keep an object inside the one around it. -/
def TypeOp.isArray : TypeOp → Bool
  | .array _ => true
  | _ => false

namespace RecordTable

variable {table : RecordTable} {β : Type} {members : List RecordMember} {ops : List TypeOp}

/-- An object of one record lies in every object of another: as a member, or in an array that is one. -/
def Contains (table : RecordTable) (outer inner : String) : Prop :=
  ∃ members, table.members? outer = some members ∧
    ∃ m ∈ members, m.type.name = inner ∧ m.type.ops.all TypeOp.isArray = true

/-- No record contains itself. -/
def WellFounded (table : RecordTable) : Prop := ∀ name, ¬ Relation.TransGen (Contains table) name name

theorem Contains.known {inner : String} (h : Contains table outer inner) : outer ∈ table.map (·.1) := by
  obtain ⟨members, hmembers, -⟩ := h
  exact List.mem_map_of_mem (mem_of_lookup hmembers)

/-- **What holds of a record because it holds, one level less deep, of the records in it holds at the depth of
    the whole table.** -/
theorem descend (htable : WellFounded table) {P : Nat → String → Prop}
    (hstep : ∀ depth name, (∀ inner, Contains table name inner → P depth inner) → P (depth + 1) name)
    (name : String) : P (table.length + 1) name := by
  -- the records on the way down are distinct, so there are no more of them than there are records
  have hway : ∀ depth (way : List String) name, way.Nodup → way ⊆ table.map (·.1) →
      (∀ outer ∈ way, Relation.TransGen (Contains table) outer name) → table.length < depth + way.length →
      P depth name := by
    intro depth
    induction depth with
    | zero =>
      intro way name hnodup hknown _ hlt
      have hle := (hnodup.subperm hknown).length_le
      rw [List.length_map] at hle
      omega
    | succ depth ih =>
      intro way name hnodup hknown hway hlt
      refine hstep depth name fun inner hinner => ih (name :: way) inner ?_ ?_ ?_ ?_
      · exact List.nodup_cons.mpr ⟨fun hmem => htable name (hway name hmem), hnodup⟩
      · exact List.cons_subset.mpr ⟨hinner.known, hknown⟩
      · exact List.forall_mem_cons.mpr ⟨.single hinner, fun outer houter => (hway outer houter).tail hinner⟩
      · rw [List.length_cons]
        omega
  exact hway _ [] name List.nodup_nil (List.nil_subset _) nofun (by simp)

/-- A question is answered: no record is found to contain itself. -/
def Ends (result : Except Cyclic β) : Prop := ∃ b, result = .ok b

variable {γ : Type} {limit : Option Int} {f : β → Except Cyclic γ}

theorem Ends.bind (hx : Ends x) (hf : ∀ b, Ends (f b)) : Ends (x >>= f) := by
  obtain ⟨b, rfl⟩ := hx
  exact hf b

theorem ends_pure (b : β) : Ends (pure b) := ⟨b, rfl⟩

theorem ends_sizeOfOps (h : ops.all TypeOp.isArray → ∀ limit, Ends (base limit)) : Ends (sizeOfOps base limit ops) := by
  induction ops with
  | nil => exact h rfl limit
  | cons op ops ih =>
    cases op with
    | array n =>
      unfold sizeOfOps
      split
      · exact ends_pure _
      · refine (ih h).bind fun size => ?_
        repeat' split
        all_goals exact ends_pure _
    | _ => exact ends_pure _

theorem ends_memberSizes {sizeOf : CType → Option Int → Except Cyclic (Option Int)}
    (h : ∀ m ∈ members, ∀ limit, Ends (sizeOf m.type limit)) (n : Int) :
    Ends (structSize sizeOf limit n members) ∧ Ends (unionSize sizeOf limit n members) := by
  induction members generalizing n with
  | nil => exact ⟨ends_pure _, ends_pure _⟩
  | cons m members ih =>
    obtain ⟨hm, hrest⟩ := List.forall_mem_cons.mp h
    constructor <;> refine (hm _).bind fun size => ?_
    all_goals repeat' first | split | (dsimp only)
    all_goals first | exact ends_pure _ | exact (ih hrest _).1 | exact (ih hrest _).2

theorem ends_membersAlign (h : ∀ m ∈ members, Ends (alignOf m.type)) (largest : Int) : Ends (membersAlign alignOf largest members) := by
  induction members generalizing largest with
  | nil => exact ends_pure _
  | cons m members ih =>
    obtain ⟨hm, hrest⟩ := List.forall_mem_cons.mp h
    refine hm.bind fun size => ?_
    split
    · exact ends_pure _
    · exact ih hrest _

theorem ends_alignOfOps (h : ops.all TypeOp.isArray → Ends base) : Ends (alignOfOps base ops) := by
  induction ops with
  | nil => exact h rfl
  | cons op ops ih =>
    cases op with
    | array n => exact ih h
    | _ => exact ends_pure _

theorem ends_hoisted {inner : String → Except Cyclic (List (String × CType))}
    (h : ∀ m ∈ members, m.type.ops.all TypeOp.isArray → Ends (inner m.type.name)) :
    Ends (hoisted inner members) := by
  induction members with
  | nil => exact ends_pure _
  | cons m members ih =>
    obtain ⟨hm, hrest⟩ := List.forall_mem_cons.mp h
    refine (ih hrest).bind fun more => ?_
    repeat' split
    on_goal 2 =>
      next hanonymous =>
      have hempty : m.type.ops = [] := by
        simp [RecordMember.isAnonymousRecord, CType.isRecord] at hanonymous
        exact hanonymous.2.1
      exact (hm (by rw [hempty]; rfl)).bind fun _ => ends_pure _
    all_goals exact ends_pure _

theorem ends_mapM (h : ∀ b, Ends (f b)) (l : List β) : Ends (l.mapM f) := by
  induction l with
  | nil => exact ends_pure _
  | cons b l ih =>
    rw [List.mapM_cons]
    exact (h b).bind fun _ => ih.bind fun _ => ends_pure _

section

variable (htable : WellFounded table)

include htable

theorem ends_size (t : CType) (limit : Option Int) : Ends (table.size? t limit) := by
  refine descend (P := fun depth name => ∀ t limit, t.name = name →
    Ends (table.sizeWithin (depth + 1) t limit)) htable (fun depth name hinner => ?_) t.name t limit rfl
  rintro t limit rfl
  have hmembers : ∀ members, table.members? t.name = some members → ∀ m ∈ members, ∀ limit,
      Ends (table.sizeWithin (depth + 1) m.type limit) := by
    intro members hmembers m hm limit
    by_cases harray : m.type.ops.all TypeOp.isArray
    · exact hinner _ ⟨members, hmembers, m, hm, rfl, harray⟩ _ _ rfl
    · exact ends_sizeOfOps fun h => absurd h harray
  refine ends_sizeOfOps fun _ limit => ?_
  repeat' split
  on_goal 3 => exact (ends_memberSizes (hmembers _ ‹_›) 0).1
  on_goal 3 => exact (ends_memberSizes (hmembers _ ‹_›) 0).2
  all_goals exact ends_pure _

theorem ends_align (t : CType) : Ends (table.align? t) := by
  refine descend (P := fun depth name => ∀ t, t.name = name →
    Ends (table.alignWithin (depth + 1) t)) htable (fun depth name hinner => ?_) t.name t rfl
  rintro t rfl
  refine ends_alignOfOps fun _ => ?_
  repeat' split
  on_goal 3 =>
    next members hmembers =>
    refine ends_membersAlign (fun m hm => ?_) 1
    by_cases harray : m.type.ops.all TypeOp.isArray
    · exact hinner _ ⟨members, hmembers, m, hm, rfl, harray⟩ _ rfl
    · exact ends_alignOfOps fun h => absurd h harray
  all_goals exact ends_pure _

theorem ends_hoistedWithin (name : String) : Ends (table.hoistedWithin (table.length + 1) name) := by
  refine descend (P := fun depth name => Ends (table.hoistedWithin depth name)) htable
    (fun depth name hinner => ?_) name
  unfold hoistedWithin
  split
  · exact ends_pure _
  · next members hmembers =>
    exact ends_hoisted fun m hm harray => hinner _ ⟨members, hmembers, m, hm, rfl, harray⟩

end

/-- A record with a pointer to records of its kind. -/
def chained : RecordTable :=
  [("struct S", [⟨some "next", ⟨"struct S", [.pointer], [], false⟩, none, none⟩, ⟨some "value", .int, none, none⟩])]

theorem chained_wellFounded : WellFounded chained := by
  have hstep : ∀ {outer inner}, Contains chained outer inner → outer = "struct S" ∧ inner = "int" := by
    rintro outer inner ⟨members, hmembers, m, hm, rfl, harray⟩
    simp only [chained, members?, List.lookup_cons, List.lookup_nil] at hmembers
    split at hmembers <;> cases hmembers
    refine ⟨eq_of_beq ‹_›, ?_⟩
    rcases List.mem_pair.mp hm with rfl | rfl
    · cases harray
    · rfl
  intro name h
  obtain ⟨_, hfirst, -⟩ := Relation.TransGen.head'_iff.mp h
  obtain ⟨_, -, hlast⟩ := Relation.TransGen.tail'_iff.mp h
  exact absurd ((hstep hfirst).1.symm.trans (hstep hlast).2) (by decide)

end RecordTable

end CCompiler
