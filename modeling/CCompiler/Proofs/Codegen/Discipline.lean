import CCompiler.Proofs.Codegen.Function

/-!
# The stack discipline of emitted code

The generator puts operands and arguments that wait into cells of the stack. The height of a place in the code
of a function is the number of open cells there, and it does not depend on the path that leads to the place:
every branch goes to a label of its own height. All cells that a phrase opens are closed at its end, with one
exception: a call gives back as many cells as it has arguments, but has pushed only those that the function has
a parameter for.

* `climbs`, `jumps`, `marked` -- heights, and the branches and labels at their heights;
* `Level` -- code that ends at the height where it begins, and whose branches keep to their heights;
* `ExprGen.level`, `StmtGen.level` -- the code of every phrase without surplus arguments is so;
* `FunctionGen.Disciplined` -- what that means along every path through a function;
* `assembly_disciplined` -- every function of a program without surplus arguments is disciplined.
-/
namespace CCompiler.Codegen

open List
open Machine (Label Line Instr Reg Width Stack Flow Walk place?)

variable {w : Width} {i : Instr} {index : Nat}

/-! ## 1. Heights -/

/-- The number of open cells behind a line. There is none behind a line that gives back more than is open,
    takes room of another size, or belongs to the entry or the exit of a function. -/
def climb (n : Nat) : Line → Option Nat
  | .instr (.growStack bytes) => if bytes = 16 then some (n + 1) else none
  | .instr (.shrinkStack bytes) => if bytes % 16 = 0 ∧ bytes / 16 ≤ n then some (n - bytes / 16) else none
  | .instr .enter | .instr .setFrame | .instr .leave | .instr .ret => none
  | _ => some n

/-- The number of open cells behind some code. -/
def climbs (n : Nat) (code : Code) : Option Nat := code.foldlM climb n

/-- Whether every cell is filled at once. -/
def paired : Code → Bool
  | .instr (.growStack _) :: .instr .storeTop :: rest => paired rest
  | .instr (.growStack _) :: _ => false
  | .instr .storeTop :: _ => false
  | _ :: rest => paired rest
  | [] => true

/-- The label that a line may branch to. -/
def target? : Line → Option Label
  | .instr i => i.target?
  | _ => none

/-- The labels that code branches to, with the heights of the branches. -/
def jumps : Nat → Code → List (Label × Nat)
  | _, [] => []
  | n, line :: rest => (target? line).toList.map (·, n) ++ jumps ((climb n line).getD n) rest

/-- The labels that stand in code, with their heights. -/
def marked : Nat → Code → List (Label × Nat)
  | _, [] => []
  | n, .label l :: rest => (l, n) :: marked n rest
  | n, line :: rest => marked ((climb n line).getD n) rest

/-- Code that rises by a number of cells from whatever height. A branch leads to a label in the code that has
    the height of the branch, or out of the code from the height where it begins. -/
structure Level (outer : Label → Prop) (up : Nat) (code : Code) : Prop where
  filled : paired code = true
  height : ∀ n, climbs n code = some (n + up)
  leads : ∀ n, ∀ j ∈ jumps n code, j ∈ marked n code ∨ outer j.1 ∧ j.2 = n

/-- A label stands in code at the height where the code begins. -/
def Marks (code : Code) (l : Label) : Prop := ∀ n, (l, n) ∈ marked n code

/-- A place in code has the height where the code begins. -/
def LevelAt (code : Code) (k : Nat) : Prop := k ≤ code.length ∧ ∀ n, climbs n (code.take k) = some n

section Heights

variable {outer outer' : Label → Prop} {up n n' : Nat} {c d : Code} {l : Label} {line : Line}

theorem climbs_append : climbs n (c ++ d) = (climbs n c).bind (climbs · d) := foldlM_append

theorem climbs_cons : climbs n (line :: c) = (climb n line).bind (climbs · c) := foldlM_cons

theorem jumps_append (h : climbs n c = some n') : jumps n (c ++ d) = jumps n c ++ jumps n' d := by
  induction c generalizing n with
  | nil =>
    cases h
    rfl
  | cons line c ih =>
    obtain ⟨k, hk, hc⟩ := Option.bind_eq_some_iff.mp h
    rw [cons_append, jumps, jumps, hk, Option.getD_some, ih hc, append_assoc]

theorem marked_cons (h : ∀ l, line ≠ .label l) : marked n (line :: c) = marked ((climb n line).getD n) c := by
  cases line with
  | label l => exact absurd rfl (h l)
  | _ => rfl

theorem marked_append (h : climbs n c = some n') : marked n (c ++ d) = marked n c ++ marked n' d := by
  induction c generalizing n with
  | nil =>
    cases h
    rfl
  | cons line c ih =>
    obtain ⟨k, hk, hc⟩ := Option.bind_eq_some_iff.mp h
    by_cases hl : ∃ l, line = .label l
    · obtain ⟨l, rfl⟩ := hl
      cases hk
      rw [cons_append, marked, marked, ih hc, cons_append]
    · have hne : ∀ l, line ≠ .label l := fun l heq => hl ⟨l, heq⟩
      rw [cons_append, marked_cons hne, marked_cons hne, hk, Option.getD_some, ih hc]

theorem paired_cons (hg : ∀ bytes, line ≠ .instr (.growStack bytes)) (hs : line ≠ .instr .storeTop) :
    paired (line :: c) = paired c := by
  rw [paired]
  · intro bytes rest heq
    exact absurd heq (hg bytes)
  · exact fun bytes heq => absurd heq (hg bytes)
  · exact hs

theorem paired_append (hc : paired c) (hd : paired d) : paired (c ++ d) := by
  fun_induction paired c with
  | case1 bytes rest ih => exact ih hc
  | case2 => cases hc
  | case3 => cases hc
  | case4 line rest _ hg hs ih =>
    rw [cons_append, paired_cons hg hs]
    exact ih hc
  | case5 => exact hd

namespace Level

theorem nil : Level outer 0 [] := ⟨rfl, fun _ => rfl, fun _ _ hj => nomatch hj⟩

theorem mono (h : Level outer up c) (himp : ∀ l, outer l → outer' l) : Level outer' up c :=
  ⟨h.filled, h.height, fun n j hj => (h.leads n j hj).imp_right fun ⟨ho, hn⟩ => ⟨himp _ ho, hn⟩⟩

/-- Code that nothing leads out of may stand among any labels. -/
theorem any (h : Level nowhere up c) : Level outer up c := h.mono fun _ hl => hl.elim

theorem height_zero (h : Level outer 0 c) (n : Nat) : climbs n c = some n := h.height n

/-- Code that comes down again may be followed by any other. -/
theorem append (h : Level outer 0 c) (h' : Level outer up d) : Level outer up (c ++ d) where
  filled := paired_append h.filled h'.filled
  height := fun n => by
    rw [climbs_append, h.height_zero]
    exact h'.height n
  leads := fun n j hj => by
    rw [jumps_append (h.height_zero n), mem_append] at hj
    rw [marked_append (h.height_zero n), mem_append]
    rcases hj with hj | hj
    · exact (h.leads n j hj).imp_left .inl
    · exact (h'.leads n j hj).imp_left .inr

theorem cons (h : Level outer 0 [line]) (h' : Level outer up d) : Level outer up (line :: d) := h.append h'

theorem leads_append (h : Level nowhere up c) (hj : j ∈ jumps n (c ++ d))
    (hd : ∀ j ∈ jumps (n + up) d, j ∈ marked (n + up) d) : j ∈ marked n (c ++ d) := by
  rw [jumps_append (h.height n), mem_append] at hj
  rw [marked_append (h.height n), mem_append]
  exact hj.imp (fun hj => (h.leads n j hj).resolve_right fun hout => hout.1) (hd j)

/-- Code that nothing leads out of may be followed by more of it at any height. -/
theorem rise (h : Level nowhere up c) (h' : Level nowhere up' d) : Level nowhere (up + up') (c ++ d) where
  filled := paired_append h.filled h'.filled
  height := fun n => by
    rw [climbs_append, h.height, ← Nat.add_assoc]
    exact h'.height (n + up)
  leads := fun n _ hj => .inl (h.leads_append hj fun j hj => (h'.leads _ j hj).resolve_right fun hout => hout.1)

/-- A line that stays at its height and leads nowhere. -/
theorem plain (hp : paired [line]) (hc : ∀ n, climb n line = some n) (ht : target? line = none) :
    Level outer 0 [line] := by
  refine ⟨hp, fun n => ?_, fun n j hj => ?_⟩
  · rw [climbs_cons, hc]
    rfl
  · rw [jumps, ht] at hj
    cases hj

theorem flat (h : is.all isFlat) : Level outer 0 (instrs is) := by
  induction is with
  | nil => exact nil
  | cons i is ih =>
    obtain ⟨hi, his⟩ := Bool.and_eq_true_iff.mp h
    refine append (c := [Line.instr i]) ?_ (ih his)
    cases i <;> first | exact plain rfl (fun _ => rfl) rfl | cases hi

theorem label : Level outer 0 [Line.label l] := plain rfl (fun _ => rfl) rfl

theorem jump (hi : i.target? = some l) (ho : outer l) : Level outer 0 [Line.instr i] := by
  refine ⟨?_, fun n => ?_, fun n j hj => ?_⟩
  · cases i <;> first | rfl | cases hi
  · cases i <;> first | rfl | cases hi
  · rw [jumps, show target? (.instr i) = some l from hi] at hj
    cases mem_singleton.mp hj
    exact .inr ⟨ho, rfl⟩

/-- A spilled value is one more cell. -/
theorem spill (w : Width) : Level nowhere 1 (instrs (spillInstrs w)) := by
  cases w <;> exact ⟨rfl, fun _ => rfl, fun _ _ hj => nomatch hj⟩

/-- Giving back what code has put on the stack. -/
theorem drop (h : Level nowhere up c) : Level outer 0 (c ++ instrs [.shrinkStack (16 * up)]) where
  filled := paired_append h.filled rfl
  height := fun n => by
    have hback : climb (n + up) (.instr (.shrinkStack (16 * up))) = some n := by
      simp only [climb]
      rw [if_pos (by omega)]
      exact congrArg some (by omega)
    rw [climbs_append, h.height]
    show climbs (n + up) [_] = some n
    rw [climbs_cons, hback]
    rfl
  leads := fun n _ hj => .inl (h.leads_append hj fun _ hj => nomatch hj)

/-- A value that waits while more code is executed, and is then taken back. -/
theorem bracket (h : Level nowhere 0 c) (h' : Level nowhere 0 d) :
    Level nowhere 0 (c ++ instrs (spillInstrs w) ++ (d ++ popCode index)) := by
  have hopen : Level nowhere 1 (c ++ instrs (spillInstrs w) ++ (d ++ instrs [.loadTop index])) :=
    (h.append (spill w)).rise (h'.append (flat rfl))
  have hclosed : Level nowhere 0 (_ ++ instrs [.shrinkStack (16 * 1)]) := hopen.drop
  rwa [append_assoc, append_assoc d] at hclosed

/-- Branches to labels at the height where the code begins stay in the code. -/
theorem resolve (h : Level outer' 0 c) (hl : ∀ l, outer' l → outer l ∨ Marks c l) : Level outer 0 c where
  filled := h.filled
  height := h.height
  leads := fun n j hj => by
    rcases h.leads n j hj with hm | ⟨ho, hn⟩
    · exact .inl hm
    · rcases hl _ ho with ho | hm
      · exact .inr ⟨ho, hn⟩
      · rw [show j = (j.1, n) from hn ▸ rfl]
        exact .inl (hm n)

end Level

theorem marks_label : Marks (.label l :: c) l := fun _ => mem_cons_self

theorem Marks.left (h : Marks c l) (hc : Level outer 0 c) : Marks (c ++ d) l := fun n => by
  rw [marked_append (hc.height_zero n)]
  exact mem_append_left _ (h n)

theorem Marks.right (hc : Level outer 0 c) (h : Marks d l) : Marks (c ++ d) l := fun n => by
  rw [marked_append (hc.height_zero n)]
  exact mem_append_right _ (h n)

theorem levelAt_zero : LevelAt c 0 := ⟨Nat.zero_le _, fun _ => rfl⟩

theorem levelAt_length (h : Level outer 0 c) : LevelAt c c.length := by
  refine ⟨le_rfl, fun n => ?_⟩
  rw [take_length]
  exact h.height n

theorem LevelAt.left (h : LevelAt c k) : LevelAt (c ++ d) k := by
  refine ⟨h.1.trans (length_append ▸ Nat.le_add_right ..), fun n => ?_⟩
  rw [take_append_of_le_length h.1]
  exact h.2 n

theorem LevelAt.right (hc : Level outer 0 c) (h : LevelAt d k) : LevelAt (c ++ d) (c.length + k) := by
  refine ⟨?_, fun n => ?_⟩
  · rw [length_append]
    exact Nat.add_le_add_left h.1 _
  · rw [take_length_add_append, climbs_append, hc.height_zero]
    exact h.2 n

end Heights

/-! ## 2. Expressions -/

/-- Whether an expression is no call, or one with a parameter for every argument. -/
def isSupplied (scene : Scene) : Expr NodeId → Bool
  | .call _ (.ident _ name) args => args.length ≤ (scene.functions.lookup name).elim 0 (·.params.length)
  | _ => true

section Expressions

variable {outer : Label → Prop} {scene : Scene} {st st' : State} {code : Code} {name : String} {t : CType}

theorem Converts.level (h : Converts source target code) : Level outer 0 code := by
  obtain ⟨w, w', rfl⟩ := h.exists_instrs
  cases w <;> cases w' <;> exact .flat rfl

theorem level_address : Level outer 0 (addressCode index target) :=
  .append (.plain rfl (fun _ => rfl) rfl) (@Level.plain _ _ rfl (fun _ => rfl) rfl)

theorem Loads.level (h : Loads scene st name code t) : Level outer 0 code := by
  cases h with
  | slot => exact .flat rfl
  | global => exact level_address.append (.flat rfl)

theorem Stores.level (h : Stores scene st name t code) : Level outer 0 code := by
  cases h with
  | slot => exact .flat rfl
  | global => exact level_address.append (.flat rfl)

/-- Two tests that lead to one label, and a verdict. -/
theorem Level.logical (hl : Level nowhere 0 left) (hr : Level nowhere 0 right) (hi : i.target? = some l) (hj : j.target? = some l) :
    Level nowhere 0 (left ++ [Line.instr i] ++ right ++ [Line.instr j] ++ verdictCode b l done) := by
  have hfront : Level (fun m => m = l ∨ m = done) 0 (left ++ [Line.instr i] ++ right ++ [Line.instr j]) :=
    ((hl.any.append (.jump hi (.inl rfl))).append hr.any).append (.jump hj (.inl rfl))
  have hverdict : Level (fun m => m = l ∨ m = done) 0 (verdictCode b l done) :=
    .cons (.plain rfl (fun _ => rfl) rfl) (.cons (.jump rfl (.inr rfl))
      (.cons .label (.cons (.plain rfl (fun _ => rfl) rfl) .label)))
  refine (hfront.append hverdict).resolve fun m hm => .inr (.right hfront fun n => ?_)
  rcases hm with rfl | rfl
  · exact .head _
  · exact .tail _ (.head _)

/-- A test that leads to one of two ways. -/
theorem Level.choice (ht : Level nowhere 0 test)
    (hi : i.target? = some l) (hl : Level nowhere 0 left) (hr : Level nowhere 0 right) :
    Level nowhere 0 (test ++ [Line.instr i] ++ left ++ [Line.instr (.branch done)] ++ [Line.label l] ++
      right ++ [Line.label done]) := by
  have hfront : Level (fun m => m = l ∨ m = done) 0 (test ++ [Line.instr i] ++ left ++ [Line.instr (.branch done)]) :=
    ((ht.any.append (.jump hi (.inl rfl))).append hl.any).append (.jump rfl (.inr rfl))
  have hmiddle := (hfront.append (.label (l := l))).append hr.any
  refine (hmiddle.append .label).resolve fun m hm => .inr ?_
  rcases hm with rfl | rfl
  · exact ((Marks.right hfront marks_label).left (hfront.append .label)).left hmiddle
  · exact .right hmiddle marks_label

/-- A call gives back the cells of all its arguments, which are those that were pushed. -/
theorem Level.call {args : List (Expr NodeId)} {pushes loads : Code} (h : Level nowhere args.length pushes)
    (hl : Level nowhere 0 loads) :
    Level nowhere 0 (pushes ++ loads ++ instrs [.call name] ++
      if args.isEmpty then [] else instrs [.shrinkStack (16 * args.length)]) := by
  have hcall : Level nowhere args.length (pushes ++ loads ++ instrs [.call name]) :=
    (h.rise hl).rise (.flat rfl)
  cases args with
  | nil => exact hcall.append .nil
  | cons e es => exact hcall.drop

/-- **The code of an expression without surplus arguments gives back all cells that it opens.** -/
theorem ExprGen.level {e : Expr NodeId} (h : ExprGen scene st e code t st')
    (hs : allEmitted scene (isSupplied scene) e) : Level nowhere 0 code := by
  induction h using @ExprGen.rec scene _ (fun _ es ts code _ _ =>
    allEmittedArgs scene (isSupplied scene) ts.length es → Level nowhere (min es.length ts.length) code) with
    try simp only [allEmitted, Bool.and_eq_true] at hs
  | int | char | measure => exact .flat flat_immediate
  | string => exact level_address
  | ident h => exact h.level
  | sign _ _ _ hc _ ih =>
    exact ((ih hs.2).append hc.level).append (.flat flat_sign)
  | logicalNot _ _ ih =>
    exact (ih hs.2).append (.flat rfl)
  | logicalAnd _ _ _ _ ihl ihr | logicalOr _ _ _ _ _ _ ihl ihr =>
    exact (ihl hs.1.2).logical (ihr hs.2) rfl rfl
  | arith _ _ hc _ _ _ hc' _ _ ihl ihr =>
    exact (((ihl hs.1.2).append hc.level).bracket ((ihr hs.2).append hc'.level)).append (.flat flat_compute)
  | relation _ _ hc _ _ hc' ihl ihr =>
    exact (((ihl hs.1.2).append hc.level).bracket ((ihr hs.2).append hc'.level)).append (.flat rfl)
  | assign _ _ _ hc hst ih =>
    exact ((ih hs.2).append hc.level).append hst.level
  | assignOp _ _ hl _ _ _ hc hst ih =>
    exact ((hl.level.bracket ((ih hs.2).append hc.level)).append (.flat flat_compute)).append hst.level
  | update _ _ hl _ hi hst => exact (hl.level.append (.flat (flat_step hi))).append hst.level
  | postUpdate _ _ hl _ hi hst => exact hl.level.bracket (Level.append (.flat (flat_step hi)) hst.level)
  | call hf _ _ hl ih =>
    simp only [isSupplied, hf, Option.elim, decide_eq_true_eq] at hs
    have hpushes := ih hs.2
    rw [Nat.min_eq_left hs.1] at hpushes
    obtain ⟨is, rfl, hflat⟩ := flat_argumentLoads hl
    exact hpushes.call (.flat hflat)
  | comma _ _ ihl ihr =>
    exact (ihl hs.1.2).append (ihr hs.2)
  | conditional _ _ _ _ _ hcv _ _ hcv' ihc iht ihe =>
    exact (ihc hs.1.1.2).choice rfl ((iht hs.1.2).append hcv.level) ((ihe hs.2).append hcv'.level)
  | cast _ _ hc ih =>
    exact (ih hs.2).append (hc.elim (fun h => h.2 ▸ .nil) fun h => h.2.level)
  | nil h =>
    rcases h with rfl | rfl
    · exact .nil
    · rw [length_nil, Nat.min_zero]
      exact .nil
  | cons _ _ hc _ _ ih ihr =>
    rename_i hs
    simp only [length_cons, allEmittedArgs, Bool.and_eq_true] at hs
    rw [length_cons, length_cons, Nat.succ_min_succ, Nat.succ_eq_add_one, Nat.add_comm]
    exact (((ih hs.1).append hc.level).append (.spill _)).rise (ihr hs.2)

end Expressions

/-! ## 3. Statements -/

/-- Level code in which a statement begins and ends at the height of the whole. -/
structure Marked (outer : Label → Prop) (code : Code) (marks : List Nat) : Prop where
  level : Level outer 0 code
  marks : ∀ k ∈ marks, LevelAt code k

section Statements

variable {scene : Scene} {st st' : State} {code : Code} {e : Option (Expr NodeId)}

theorem Marked.ends {outer : Label → Prop} {inner : List Nat} {n : Nat} (h : Level outer 0 code)
    (hinner : ∀ k ∈ inner, LevelAt code k) (hn : n = code.length) : Marked outer code (0 :: inner ++ [n]) := by
  have hend : LevelAt code n := hn ▸ levelAt_length h
  exact ⟨h, forall_mem_append.mpr ⟨forall_mem_cons.mpr ⟨levelAt_zero, hinner⟩, forall_mem_singleton.mpr hend⟩⟩

theorem Marked.plain {outer : Label → Prop} {n : Nat} (h : Level outer 0 code) (hn : n = code.length) :
    Marked outer code [0, n] := by
  have hnone : ∀ k ∈ ([] : List Nat), LevelAt code k := nofun
  exact .ends h hnone hn

theorem length_behind {front more : Code} {n : Nat} (h : more.length = n) :
    front.length + n = (front ++ more).length := by rw [length_append, h]

theorem levelAt_behind {outer : Label → Prop} (hf : Level outer 0 front)
    (hm : ∀ k ∈ marks, LevelAt code k) : ∀ k ∈ behind front marks, LevelAt (front ++ code ++ more) k := by
  intro k hk
  obtain ⟨j, hj, rfl⟩ := mem_map.mp hk
  exact (LevelAt.right hf (hm j hj)).left

theorem TestGen.level {outer : Label → Prop} (h : TestGen scene done st e code st') (hs : e.all (allEmitted scene (isSupplied scene)))
    (ho : outer done) : Level outer 0 code := by
  cases h with
  | absent => exact .nil
  | present h => exact (h.level hs).any.append (.jump rfl ho)

theorem PostGen.level {outer : Label → Prop} (h : PostGen scene st e code st')
    (hs : e.all (allEmitted scene (isSupplied scene))) : Level outer 0 code := by
  cases h with
  | absent => exact .nil
  | present h => exact (h.level hs).any

/-- **The code of a statement without surplus arguments gives back all cells that it opens**, and no cell of
    it is open where a statement inside begins or ends. -/
theorem StmtGen.marked {s : Stmt NodeId} {body : Body} {marks : List Nat}
    (h : StmtGen scene body st s code marks st') (hs : allEmittedStmt scene (isSupplied scene) s) :
    Marked body.leads code marks := by
  induction h using @StmtGen.rec scene _
    (fun body _ s code marks _ _ => s.all (allEmittedStmt scene (isSupplied scene)) →
      Marked body.leads code marks)
    (fun body _ ss code marks _ _ => allEmittedStmts scene (isSupplied scene) ss →
      Marked body.leads code marks) with
    try simp only [allEmittedStmt, Bool.and_eq_true] at hs
  | silent | object | nil => exact ⟨.nil, forall_mem_singleton.mpr levelAt_zero⟩
  | group _ ih | compound _ ih => exact ih hs
  | init _ h _ hc _ =>
    exact .plain (((h.level hs).any.append hc.level).append (.flat rfl)) (length_behind rfl)
  | expr h => exact .plain (h.level hs).any rfl
  | leave => exact .plain (.jump rfl (.inl rfl)) rfl
  | break_ hl => exact .plain (.jump rfl (.inr ⟨_, hl, .inr rfl⟩)) rfl
  | continue_ hl => exact .plain (.jump rfl (.inr ⟨_, hl, .inl rfl⟩)) rfl
  | return_ h _ hc =>
    exact .plain (((h.level hs).any.append hc.level).append (.jump rfl (.inl rfl))) (length_behind rfl)
  | @ifThen body st _ _ _ _ _ _ test _ _ _ hc _ htest _ ih =>
    have hthen := ih hs.2
    have hl : Level (fun l => body.leads l ∨ l = ⟨"else", st.labels + 1⟩) 0 test := by
      rw [htest]
      exact (hc.level hs.1).any.append (.jump rfl (.inr rfl))
    have hfront := hl.append (hthen.level.mono fun _ => .inl)
    refine .ends ((hfront.append .label).resolve fun l ho => ?_) (levelAt_behind hl hthen.marks) (length_behind rfl)
    rcases ho with ho | rfl
    · exact .inl ho
    · exact .inr (.right hfront marks_label)
  | @ifElse body st _ _ _ _ _ _ _ _ _ test middle _ _ _ _ hc _ htest _ hmiddle _ iht ihe =>
    have hthen := iht hs.1.2
    have helse := ihe hs.2
    have hl : Level (fun l => body.leads l ∨ l = ⟨"else", st.labels + 1⟩ ∨ l = ⟨"endif", st.labels + 2⟩) 0
        test := by
      rw [htest]
      exact (hc.level hs.1.1).any.append (.jump rfl (.inr (.inl rfl)))
    have hleft := hl.append (hthen.level.mono fun _ => .inl)
    have hfront := hleft.append
      (d := [Line.instr (.branch ⟨"endif", st.labels + 2⟩), Line.label ⟨"else", st.labels + 1⟩])
      (.cons (.jump rfl (.inr (.inr rfl))) .label)
    rw [← hmiddle] at hfront
    have hboth := hfront.append (helse.level.mono fun _ => .inl)
    refine .ends ((hboth.append .label).resolve fun l ho => ?_) (fun k hk => ?_) (length_behind rfl)
    · rcases ho with ho | rfl | rfl
      · exact .inl ho
      · have hmark : Marks middle ⟨"else", st.labels + 1⟩ := by
          rw [hmiddle]
          exact .right hleft fun _ => .head _
        exact .inr ((hmark.left hfront).left hboth)
      · exact .inr (.right hboth marks_label)
    · rcases mem_append.mp hk with hk | hk
      · have hat : LevelAt middle k := by
          rw [hmiddle]
          exact levelAt_behind hl hthen.marks k hk
        exact hat.left.left
      · exact levelAt_behind hfront helse.marks k hk
  | @while_ body st _ _ _ _ _ _ test _ _ _ hc _ htest _ ih =>
    have hloop := ih hs.2
    have hl : Level (fun l => l = body.exit ∨ l = ⟨"while_cond", st.labels + 1⟩ ∨
        l = ⟨"while_end", st.labels + 2⟩) 0 test := by
      rw [htest]
      exact (Level.label.append (hc.level hs.1).any).append (.jump rfl (.inr (.inr rfl)))
    have hfront := hl.append (hloop.level.mono fun _ => Body.leads_loop)
    refine .ends ((hfront.append (.cons (.jump rfl (.inr (.inl rfl))) .label)).resolve fun l ho => ?_)
      (levelAt_behind hl hloop.marks) (length_behind rfl)
    rcases ho with rfl | rfl | rfl
    · exact .inl (.inl rfl)
    · have hmark : Marks test ⟨"while_cond", st.labels + 1⟩ := by
        rw [htest]
        exact marks_label
      exact .inr ((hmark.left hl).left hfront)
    · exact .inr (.right hfront fun _ => .head _)
  | @doWhile body st _ _ _ _ _ _ _ _ _ _ _ hc _ _ ih =>
    have hloop := ih hs.1
    have hl : Level (fun l => l = ⟨"do_body", st.labels + 1⟩ ∨ l = body.exit ∨ l = ⟨"do_cond", st.labels + 2⟩ ∨
        l = ⟨"do_end", st.labels + 3⟩) 0 [Line.label ⟨"do_body", st.labels + 1⟩] := .label
    have hfront := hl.append (hloop.level.mono fun _ h => .inr (Body.leads_loop h))
    have htest := (hfront.append (.label (l := ⟨"do_cond", st.labels + 2⟩))).append (hc.level hs.2).any
    refine .ends ((htest.append (.cons (.jump rfl (.inl rfl)) .label)).resolve fun l ho => ?_)
      (fun k hk => ?_) (by simp only [length_append, length_cons, length_nil]; omega)
    · rcases ho with rfl | rfl | rfl | rfl
      · exact .inr marks_label
      · exact .inl (.inl rfl)
      · exact .inr (((Marks.right hfront marks_label).left (hfront.append .label)).left htest)
      · exact .inr (.right htest fun _ => .head _)
    · exact (levelAt_behind hl hloop.marks k hk).left.left
  | @for_ body st _ _ _ _ init _ _ _ initCode _ _ _ front _ _ _ hc hfront _ hp ihi ihb =>
    obtain ⟨hsi, hsc, hsb, hsp⟩ : init.all (allEmittedStmt scene (isSupplied scene)) ∧ _ ∧ _ ∧ _ := by
      cases init <;>
        simpa only [allEmittedStmt, Bool.and_eq_true, Option.all_none, Option.all_some, true_and, and_assoc] using hs
    have hinit := ihi hsi
    have hloop := ihb hsb
    have hi : Level (fun l => l = ⟨"for_cond", st.labels + 1⟩ ∨ l = body.exit ∨ l = ⟨"for_post", st.labels + 2⟩ ∨
        l = ⟨"for_end", st.labels + 3⟩) 0 initCode := hinit.level.mono fun _ h => .inr (Body.leads_loop h)
    have hcond := hi.append (.label (l := ⟨"for_cond", st.labels + 1⟩))
    have hl := hcond.append (hc.level hsc (.inr (.inr (.inr rfl))))
    have hmark : Marks front ⟨"for_cond", st.labels + 1⟩ := by
      rw [hfront]
      exact (Marks.right hi marks_label).left hcond
    have hstart : ∀ k ∈ _, LevelAt front k := fun k hk => by
      rw [hfront]
      exact (hinit.marks k hk).left.left
    rw [← hfront] at hl
    have hround := hl.append (hloop.level.mono fun _ h => .inr (Body.leads_loop h))
    have hlast := hround.append (.label (l := ⟨"for_post", st.labels + 2⟩))
    have hpost := hlast.append (hp.level hsp)
    refine .ends ((hpost.append (.cons (.jump rfl (.inl rfl)) .label)).resolve fun l ho => ?_)
      (fun k hk => ?_) (by simp only [length_append, length_cons, length_nil]; omega)
    · rcases ho with rfl | rfl | rfl | rfl
      · exact .inr ((((hmark.left hl).left hround).left hlast).left hpost)
      · exact .inl (.inl rfl)
      · exact .inr (((Marks.right hround marks_label).left hlast).left hpost)
      · exact .inr (.right hpost fun _ => .head _)
    · rcases mem_append.mp hk with hk | hk
      · exact (hstart k hk).left.left.left.left
      · exact (levelAt_behind hl hloop.marks k hk).left.left
  | absent => exact ⟨.nil, fun _ h => nomatch h⟩
  | present _ ih =>
    rename_i hs
    exact ih hs
  | cons _ _ ih ihr =>
    rename_i hs
    simp only [allEmittedStmts, Bool.and_eq_true] at hs
    have h := ih hs.1
    have h' := ihr hs.2
    refine ⟨h.level.append h'.level, fun k hk => ?_⟩
    rcases mem_append.mp hk with hk | hk
    · exact (h.marks k hk).left
    · obtain ⟨j, hj, rfl⟩ := mem_map.mp hk
      exact .right h.level (h'.marks j hj)

end Statements

/-! ## 4. Places in level code -/

section Places

variable {n m a k : Nat} {code : Code} {line : Line} {l : Label}

theorem climbs_take (h : climbs n code = some m) (k : Nat) : ∃ a, climbs n (code.take k) = some a := by
  rw [← take_append_drop k code, climbs_append] at h
  obtain ⟨a, ha, -⟩ := Option.bind_eq_some_iff.mp h
  exact ⟨a, ha⟩

theorem climbs_singleton : climbs a [line] = climb a line := by
  rw [climbs_cons]
  cases climb a line <;> rfl

theorem climb_get (h : climbs n code = some m) (hline : code[k]? = some line) (hk : climbs n (code.take k) = some a) :
    ∃ b, climb a line = some b ∧ climbs n (code.take (k + 1)) = some b := by
  obtain ⟨b, hb⟩ := climbs_take h (k + 1)
  have hstep := hb
  rw [take_add_one, hline, climbs_append, hk] at hstep
  exact ⟨b, climbs_singleton.symm.trans hstep, hb⟩

theorem mem_jumps (hline : code[k]? = some line) (hk : climbs n (code.take k) = some a)
    (ht : target? line = some l) : (l, a) ∈ jumps n code := by
  obtain ⟨hlt, hget⟩ := List.getElem?_eq_some_iff.mp hline
  have hsplit : code = code.take k ++ line :: code.drop (k + 1) := by
    rw [← hget, ← drop_eq_getElem_cons hlt, take_append_drop]
  rw [hsplit, jumps_append hk, jumps, ht]
  exact mem_append_right _ (.head _)

theorem exists_of_mem_marked (h : climbs n code = some m) (hl : (l, a) ∈ marked n code) :
    ∃ p, code[p]? = some (.label l) ∧ climbs n (code.take p) = some a := by
  induction code generalizing n with
  | nil => cases hl
  | cons line rest ih =>
    obtain ⟨b, hb, hrest⟩ := Option.bind_eq_some_iff.mp h
    have hbehind : (l, a) ∈ marked b rest → ∃ p, (line :: rest)[p]? = some (.label l) ∧
        climbs n ((line :: rest).take p) = some a := by
      intro hmem
      obtain ⟨p, hp, ha⟩ := ih hrest hmem
      refine ⟨p + 1, hp, ?_⟩
      rw [take_succ_cons, climbs_cons, hb]
      exact ha
    by_cases hlabel : ∃ l', line = .label l'
    · obtain ⟨l', rfl⟩ := hlabel
      cases hb
      rcases mem_cons.mp hl with heq | hmem
      · cases heq
        exact ⟨0, rfl, rfl⟩
      · exact hbehind hmem
    · rw [marked_cons fun l' heq => hlabel ⟨l', heq⟩, hb] at hl
      exact hbehind hl

theorem paired_get (h : paired code) (hk : code[k]? = some (.instr (.growStack bytes))) :
    code[k + 1]? = some (.instr .storeTop) := by
  fun_induction paired code generalizing k with
  | case1 b rest ih =>
    match k, hk with
    | 0, _ => rfl
    | k + 2, hk => exact ih h hk
  | case2 => cases h
  | case3 => cases h
  | case4 line rest _ hg hs ih =>
    cases k with
    | zero =>
      cases hk
      exact absurd rfl (hg bytes)
    | succ k => exact ih h hk
  | case5 => cases hk

/-- Level code does not begin by filling a cell, whatever comes behind it. -/
theorem head_ne_storeTop {outer : Label → Prop} {more : Code} (h : Level outer 0 code) :
    (code ++ .label l :: more).head? ≠ some (.instr .storeTop) := by
  intro hhead
  cases code with
  | nil => cases hhead
  | cons line rest =>
    cases hhead
    cases h.filled

end Places

/-! ## 5. Paths through a function -/

/-- Cells below some place, one below the other. -/
def column (base : Int) : Nat → List Int
  | 0 => []
  | h + 1 => (base - 16 * (h + 1)) :: column base h

/-- The stack with so many open cells below the frame. -/
def raised (base fp : Int) (h : Nat) : Stack := ⟨base - 16 * h, fp, column base h⟩

/-- **What holds along all paths through a function with a frame of some size, whose body stands between two
    places.** No cell is open where a statement begins or ends and where the function is left; in between, cells
    are opened one by one, and closed from the last on. -/
structure Disciplined (code : Code) (frame first last : Nat) (marks : List Nat) : Prop where
  boundary : ∀ k ∈ marks, ∀ s, Walk code (first + k) s → s.sp = s.fp - frame ∧ s.cells = []
  exit : ∀ s, Walk code last s → s.sp = s.fp - frame ∧ s.cells = []
  below : ∀ pc s, Walk code pc s → first ≤ pc → pc ≤ last → s.sp ≤ s.fp - frame
  push : ∀ pc s bytes, Walk code pc s → first ≤ pc → pc < last →
    code[pc]? = some (.instr (.growStack bytes)) → bytes = 16 ∧
      (s.past code[pc + 1]? (.instr (.growStack bytes))).cells = (s.sp - 16) :: s.cells
  pop : ∀ pc s bytes, Walk code pc s → first ≤ pc → pc < last →
    code[pc]? = some (.instr (.shrinkStack bytes)) → ∃ k ≤ s.cells.length, bytes = 16 * k ∧
      (s.past code[pc + 1]? (.instr (.shrinkStack bytes))).cells = s.cells.drop k
  call : ∀ pc s name, Walk code pc s → code[pc]? = some (.instr (.call name)) → 16 ∣ s.sp

section Paths

variable {base fp : Int} {h h' m k : Nat} {next : Option Line} {line : Line}

theorem mem_column (hx : x ∈ column base h) : base - 16 * h ≤ x := by
  induction h with
  | zero => cases hx
  | succ h ih =>
    rcases mem_cons.mp hx with rfl | hx
    · exact le_of_eq (by rfl)
    · have := ih hx
      omega

theorem length_column : (column base h).length = h := by
  induction h with
  | zero => rfl
  | succ h ih => rw [column, length_cons, ih]

/-- Raising the stack pointer by whole cells closes the last of them. -/
theorem filter_column (hm : m ≤ h) : (column base h).filter (base - 16 * m ≤ ·) = column base m := by
  induction h with
  | zero =>
    cases Nat.le_zero.mp hm
    rfl
  | succ h ih =>
    rcases Nat.lt_or_eq_of_le hm with hlt | rfl
    · rw [column, filter_cons_of_neg (by rw [decide_eq_true_eq]; omega), ih (Nat.le_of_lt_succ hlt)]
    · exact filter_eq_self.mpr fun x hx => decide_eq_true (mem_column hx)

theorem drop_column : (column base (m + k)).drop k = column base m := by
  induction k with
  | zero => rfl
  | succ k ih => exact ih

/-- A line that climbs leaves the stack so much higher. -/
theorem past_raised (hc : climb h line = some h')
    (hn : ∀ bytes, line = .instr (.growStack bytes) → next = some (.instr .storeTop)) :
    (raised base fp h).past next line = raised base fp h' := by
  cases line with
  | instr i =>
    cases i with
    | growStack bytes =>
      simp only [climb] at hc
      split_ifs at hc with hb
      cases hc
      cases hb
      simp only [Stack.past, hn 16 rfl, if_true, raised, column]
      push_cast
      congr 1 <;> [skip; congr 1] <;> ring
    | shrinkStack bytes =>
      simp only [climb] at hc
      split_ifs at hc with hb
      cases hc
      have hsp : base - 16 * (h : Int) + bytes = base - 16 * ((h - bytes / 16 : Nat)) := by omega
      simp only [Stack.past, raised, hsp, filter_column (Nat.sub_le ..)]
    | enter | setFrame | leave | ret => cases hc
    | _ =>
      cases hc
      rfl
  | _ =>
    cases hc
    rfl

end Paths

/-- Code around a level part, which is left at a label behind it. -/
structure Enclosed (code front inner : Code) (exit : Label) (back : Code) (base fp : Int) : Prop where
  split : code = front ++ inner ++ .label exit :: back
  start : Machine.stackAt code front.length = raised base fp 0
  level : Level (· = exit) 0 inner
  straight : ∀ line ∈ front ++ back, target? line = none
  once : ∀ l, code.count (.label l) ≤ 1

namespace Enclosed

variable {code front inner back : Code} {exit : Label} {base fp : Int} {k h : Nat} {l : Label} {line : Line}
variable {s : Stack} {pc : Nat} (e : Enclosed code front inner exit back base fp)

include e

theorem get (hk : k < inner.length) : code[front.length + k]? = inner[k]? := by
  rw [e.split, append_assoc, getElem?_append_right (Nat.le_add_right ..), Nat.add_sub_cancel_left,
    getElem?_append_left hk]

theorem get_exit : code[front.length + inner.length]? = some (.label exit) := by
  rw [e.split, getElem?_append_right (by simp)]
  simp

/-- The height at a place tells the stack there. -/
theorem stackAt_eq (hle : k ≤ inner.length) (hk : climbs 0 (inner.take k) = some h) :
    Machine.stackAt code (front.length + k) = raised base fp h := by
  induction k generalizing h with
  | zero =>
    cases hk
    exact e.start
  | succ k ih =>
    obtain ⟨line, hline⟩ : ∃ line, inner[k]? = some line := ⟨_, getElem?_eq_getElem hle⟩
    obtain ⟨a, ha⟩ := climbs_take (e.level.height_zero 0) k
    obtain ⟨b, hstep, hb⟩ := climb_get (e.level.height_zero 0) hline ha
    cases hk.symm.trans hb
    have hget := (e.get hle).trans hline
    rw [← Nat.add_assoc, Machine.stackAt_succ hget, ih (Nat.le_of_succ_le hle) ha]
    refine past_raised hstep fun bytes heq => ?_
    -- a cell is filled inside the part, so the line behind is one of it
    have hfill := paired_get e.level.filled (heq ▸ hline)
    rw [Nat.add_assoc, e.get (List.getElem?_eq_some_iff.mp hfill).1, hfill]

/-- A label has one place. -/
theorem place_eq (hp : code[p]? = some (.label l)) (hl : place? code l = some target) : target = p := by
  obtain ⟨hlt, hget⟩ := List.getElem?_eq_some_iff.mp hp
  have hat : Machine.At code p [.label l] := by
    refine ⟨code.take p, code.drop (p + 1), ?_, length_take_of_le hlt.le⟩
    rw [append_assoc, singleton_append, ← hget, ← drop_eq_getElem_cons hlt, take_append_drop]
  exact Option.some.inj (hl.symm.trans (hat.place (e.once l)))

/-- A line that does not stand around the part stands in it. -/
theorem exists_get (hline : code[pc]? = some line) (hlabel : line ≠ .label exit) (hout : line ∉ front ++ back) :
    ∃ k, pc = front.length + k ∧ inner[k]? = some line := by
  rw [e.split, append_assoc] at hline
  rcases Nat.lt_or_ge pc front.length with hlt | hge
  · rw [getElem?_append_left hlt] at hline
    exact absurd (mem_append_left _ (mem_of_getElem? hline)) hout
  rw [getElem?_append_right hge] at hline
  refine ⟨pc - front.length, (Nat.add_sub_cancel' hge).symm, ?_⟩
  rcases Nat.lt_or_ge (pc - front.length) inner.length with hlt | hge
  · rwa [getElem?_append_left hlt] at hline
  rw [getElem?_append_right hge] at hline
  rcases mem_cons.mp (mem_of_getElem? hline) with rfl | hmem
  · exact absurd rfl hlabel
  · exact absurd (mem_append_right _ hmem) hout

/-- **Every branch finds the stack as the lines above its target leave it.** -/
theorem agrees : Machine.Agrees code := by
  intro pc target i l hline hi hl
  obtain ⟨k, rfl, hk⟩ := e.exists_get hline Line.noConfusion fun hout => by
    cases hi.symm.trans (e.straight _ hout)
  have hle := Nat.le_of_lt (List.getElem?_eq_some_iff.mp hk).1
  obtain ⟨a, ha⟩ := climbs_take (e.level.height_zero 0) k
  rw [e.stackAt_eq hle ha]
  rcases e.level.leads 0 _ (mem_jumps hk ha hi) with hmark | ⟨rfl, rfl⟩
  · obtain ⟨p, hp, hheight⟩ := exists_of_mem_marked (e.level.height_zero 0) hmark
    have hlt := (List.getElem?_eq_some_iff.mp hp).1
    rw [e.place_eq ((e.get hlt).trans hp) hl, e.stackAt_eq hlt.le hheight]
  · rw [e.place_eq e.get_exit hl]
    exact (e.stackAt_eq le_rfl (by rw [take_length]; exact e.level.height 0)).symm

/-- Along every path the stack in the part is as high as the place. -/
theorem stack_of_walk (hw : Machine.Walk code pc s) (hfirst : front.length ≤ pc)
    (hlast : pc ≤ front.length + inner.length) :
    ∃ h, climbs 0 (inner.take (pc - front.length)) = some h ∧ s = raised base fp h := by
  obtain ⟨h, hh⟩ := climbs_take (e.level.height_zero 0) (pc - front.length)
  have hstack := e.stackAt_eq (by omega) hh
  rw [Nat.add_sub_cancel' hfirst] at hstack
  exact ⟨h, hh, (hw.stack_eq e.agrees).trans hstack⟩

theorem stack_of_levelAt (hw : Machine.Walk code (front.length + k) s) (hk : LevelAt inner k) :
    s = raised base fp 0 :=
  (hw.stack_eq e.agrees).trans (e.stackAt_eq hk.1 (hk.2 0))

/-- The line at a place of the part, and what it does to the height. -/
theorem climb_of_walk (hw : Machine.Walk code pc s) (hfirst : front.length ≤ pc)
    (hlast : pc < front.length + inner.length) (hline : code[pc]? = some line) :
    ∃ h h', climb h line = some h' ∧ s = raised base fp h ∧ s.past code[pc + 1]? line = raised base fp h' := by
  obtain ⟨h, hh, hs⟩ := e.stack_of_walk hw hfirst hlast.le
  have hk : pc - front.length < inner.length := by omega
  have hget := e.get hk
  rw [Nat.add_sub_cancel' hfirst, hline] at hget
  obtain ⟨h', hstep, hh'⟩ := climb_get (e.level.height_zero 0) hget.symm hh
  have hnext := e.stackAt_eq (Nat.succ_le_of_lt hk) hh'
  rw [Nat.succ_eq_add_one, ← Nat.add_assoc, Nat.add_sub_cancel' hfirst, Machine.stackAt_succ hline,
    ← hw.stack_eq e.agrees] at hnext
  exact ⟨h, h', hstep, hs, hnext⟩

end Enclosed

/-! ## 6. Functions and programs -/

theorem ParamsGen.level {outer : Label → Prop} (h : ParamsGen ps index is) : Level outer 0 (instrs is) := .flat h.flat

/-- The lines of a function up to the stores of its arguments. -/
def entryLines (name : String) (frame : Nat) : Code :=
  [Line.global name, Line.align 2, Line.symbol name] ++ instrs (entryInstrs frame)

/-- The lines behind the label that a function is left at. -/
def exitLines (frame : Nat) : Code := instrs (exitInstrs frame) ++ [Line.instr .ret]

/-- The entry makes room for the frame, which is no cell. -/
theorem stackAt_entry (h : rest.head? ≠ some (.instr .storeTop)) :
    Machine.stackAt (entryLines name frame ++ rest) (entryLines name frame).length =
      raised (-16 - frame) (-16) 0 := by
  by_cases hzero : frame = 0
  · subst hzero
    rfl
  · have hlines : entryLines name frame = [.global name, .align 2, .symbol name, .instr .enter,
        .instr .setFrame, .instr (.growStack frame)] := by
      simp [entryLines, entryInstrs, hzero, instrs]
    have hnext : rest[0]? ≠ some (.instr .storeTop) := by rwa [← head?_eq_getElem?]
    have hget : (entryLines name frame ++ rest)[5]? = some (.instr (.growStack frame)) := by
      rw [hlines]
      rfl
    rw [hlines] at hget ⊢
    refine (Machine.stackAt_succ hget).trans ?_
    show Stack.past ⟨-16, -16, []⟩ rest[0]? _ = _
    simp only [Stack.past, raised, column, if_neg hnext, Nat.cast_zero, mul_zero, sub_zero]

/-- Whether a line neither branches nor calls. -/
def isLocal : Line → Bool
  | .instr (.call _) | .instr (.branch _) | .instr (.branchZero ..) | .instr (.branchNonzero ..) => false
  | _ => true

/-- Neither the entry nor the exit of a function branches or calls. -/
theorem isLocal_frame (h : line ∈ entryLines name frame ++ exitLines frame) : isLocal line := by
  have hall : (entryLines name frame ++ exitLines frame).all isLocal := by
    unfold entryLines exitLines entryInstrs exitInstrs
    split <;> rfl
  exact all_eq_true.mp hall line h

theorem target?_eq_none (h : isLocal line) : target? line = none := by
  cases line with
  | instr i => cases i <;> first | rfl | cases h
  | _ => rfl

namespace FunctionGen

variable {scene : Scene} {st st' : State} {f : FunctionDef NodeId} {body : List (Stmt NodeId)} {code : Code}

/-- The place where the body begins. -/
def first (g : FunctionGen scene st f body code st') : Nat :=
  (entryLines f.name g.layout.frameSize).length + g.stores.length

/-- The place of the label that the function is left at. -/
def last (g : FunctionGen scene st f body code st') : Nat := g.first + g.bodyCode.length

variable (g : FunctionGen scene st f body code st')

include g

theorem code_eq : code = entryLines f.name g.layout.frameSize ++ (instrs g.stores ++ g.bodyCode) ++
      .label ⟨"return", st.labels + 1⟩ :: exitLines g.layout.frameSize := by
  refine g.hcode.trans ?_
  simp only [entryLines, exitLines, append_assoc, cons_append, nil_append]

theorem dvd_frameSize : 16 ∣ g.layout.frameSize := by
  obtain ⟨-, ps, ts, -, -, hlayout⟩ := Layout.ofFunction_eq_ok g.hlayout
  rw [hlayout]
  exact Nat.dvd_mul_left ..

theorem length_inner :
    (entryLines f.name g.layout.frameSize).length + (instrs g.stores ++ g.bodyCode).length = g.last := by
  rw [length_append, length_instrs, ← Nat.add_assoc]
  rfl

variable (hs : allEmittedStmts scene (isSupplied scene) body = true)

include hs

theorem level : Level (· = ⟨"return", st.labels + 1⟩) 0 (instrs g.stores ++ g.bodyCode) := by
  have hbody := (g.hbody.marked (by rwa [allEmittedStmt])).level
  refine g.hstores.level.append (hbody.mono fun l hl => ?_)
  rcases hl with rfl | ⟨loop, hloop, -⟩
  · rfl
  · cases hloop

theorem enclosed : Enclosed code (entryLines f.name g.layout.frameSize) (instrs g.stores ++ g.bodyCode)
      ⟨"return", st.labels + 1⟩ (exitLines g.layout.frameSize) (-16 - g.layout.frameSize) (-16) where
  split := g.code_eq
  start := by
    have hcode := g.code_eq
    rw [append_assoc] at hcode
    exact (congrArg (Machine.stackAt · _) hcode).trans (stackAt_entry (head_ne_storeTop (g.level hs)))
  level := g.level hs
  straight := fun _ hline => target?_eq_none (isLocal_frame hline)
  once := g.fresh.count_le

/-- No cell is open where the body is level. -/
theorem stack_of_levelAt (hk : LevelAt g.bodyCode k)
    (hw : Machine.Walk code (g.first + k) s) : s.sp = s.fp - g.layout.frameSize ∧ s.cells = [] := by
  have hstores : Level nowhere 0 (instrs g.stores) := g.hstores.level
  have hat := LevelAt.right hstores hk
  rw [length_instrs] at hat
  rw [first, Nat.add_assoc] at hw
  cases (g.enclosed hs).stack_of_levelAt hw hat
  exact ⟨by simp [raised], rfl⟩

/-- **A function without surplus arguments keeps the discipline of the stack.** -/
theorem disciplined : Disciplined code g.layout.frameSize g.first g.last g.marks := by
  have hbody := g.hbody.marked (by rwa [allEmittedStmt])
  have e := g.enclosed hs
  have hlast := g.length_inner
  have hfront : ∀ {pc}, g.first ≤ pc → (entryLines f.name g.layout.frameSize).length ≤ pc :=
    fun h => Nat.le_of_add_right_le h
  refine ⟨fun k hk s hw => ?_, fun s hw => ?_, fun pc s hw hfirst hpc => ?_,
    fun pc s bytes hw hfirst hpc hline => ?_, fun pc s bytes hw hfirst hpc hline => ?_,
    fun pc s name hw hline => ?_⟩
  · exact g.stack_of_levelAt hs (hbody.marks k hk) hw
  · exact g.stack_of_levelAt hs (levelAt_length hbody.level) hw
  · obtain ⟨h, -, rfl⟩ := e.stack_of_walk hw (hfront hfirst) (hlast ▸ hpc)
    show (-16 : Int) - g.layout.frameSize - 16 * h ≤ -16 - g.layout.frameSize
    omega
  · obtain ⟨h, h', hstep, rfl, hpast⟩ := e.climb_of_walk hw (hfront hfirst) (hlast ▸ hpc) hline
    rw [hpast]
    simp only [climb] at hstep
    split_ifs at hstep with hb
    cases hstep
    refine ⟨hb, congrArg (· :: _) ?_⟩
    show _ - 16 * ((h : Int) + 1) = _ - 16 * (h) - 16
    ring
  · obtain ⟨h, h', hstep, rfl, hpast⟩ := e.climb_of_walk hw (hfront hfirst) (hlast ▸ hpc) hline
    rw [hpast]
    simp only [climb] at hstep
    split_ifs at hstep with hb
    cases hstep
    refine ⟨bytes / 16, ?_, by omega, ?_⟩
    · show _ ≤ (column _ h).length
      rw [length_column]
      exact hb.2
    · have hdrop := @drop_column (-16 - g.layout.frameSize) (h - bytes / 16) (bytes / 16)
      rw [Nat.sub_add_cancel hb.2] at hdrop
      exact hdrop.symm
  · obtain ⟨k, rfl, hk⟩ := e.exists_get hline Line.noConfusion fun hout => nomatch isLocal_frame hout
    have hlt := (List.getElem?_eq_some_iff.mp hk).1
    obtain ⟨h, -, rfl⟩ := e.stack_of_walk hw (Nat.le_add_right ..) (Nat.add_le_add_left hlt.le _)
    obtain ⟨n, hn⟩ := g.dvd_frameSize
    refine ⟨-1 - n - h, ?_⟩
    show (-16 : Int) - g.layout.frameSize - 16 * h = _
    rw [hn]
    push_cast
    ring

end FunctionGen

/-- **Every function of a program keeps the discipline of the stack**, as long as no call that code is emitted
    for has more arguments than the function has parameters. -/
theorem assembly_disciplined {c : Compilation} {platform : Platform} {text : String} {scene : Scene}
    {f : FunctionDef NodeId} {body : List (Stmt NodeId)} (h : c.assembly platform = .ok text)
    (hscene : c.unit.externals.foldlM collect { typeOf := (c.analysis.types[·]?) } = .ok scene)
    (hf : .function f ∈ c.unit.externals) (hb : f.body = some body)
    (hs : allEmittedStmts scene (isSupplied scene) body = true) :
    ∃ front code back st st', ∃ g : FunctionGen scene st f body code st',
      programCode (c.analysis.types[·]?) c.unit = .ok (front ++ code ++ back) ∧
      Machine.render (front ++ code ++ back) = text ∧
      Disciplined code g.layout.frameSize g.first g.last g.marks := by
  obtain ⟨lines, hlines, rfl⟩ := assembly_eq_ok h
  obtain ⟨front, code, back, scene', st, st', rfl, hscene', hcode⟩ := programCode_eq_append hf hb hlines
  cases hscene.symm.trans hscene'
  obtain ⟨g, -⟩ := functionCode_gen hcode
  exact ⟨front, code, back, st, st', g, hlines, rfl, g.disciplined hs⟩

/-- The program that counts keeps the discipline; a cell is opened and closed in every round of its loop. -/
theorem Counting.code_disciplined : ∃ text scene front code back st st',
    ∃ g : FunctionGen scene st Counting.function Counting.body code st',
      Counting.compilation.assembly ⟨"Darwin", "arm64"⟩ = .ok text ∧
      Machine.render (front ++ code ++ back) = text ∧
      Disciplined code g.layout.frameSize g.first g.last g.marks := by
  obtain ⟨text, htext⟩ := exists_assembly
  obtain ⟨lines, hlines, -⟩ := assembly_eq_ok htext
  obtain ⟨scene, hscene, -⟩ := bind_ok hlines
  obtain ⟨front, code, back, st, st', g, -, hrender, hg⟩ :=
    assembly_disciplined htext hscene (.head _) rfl rfl
  exact ⟨text, scene, front, code, back, st, st', g, htext, hrender, hg⟩

/-! ## 7. A surplus argument -/

namespace Surplus

open Counting (intSpec)

/-- The items of `{ return f(1); }`. -/
def body : List (Stmt NodeId) := [.return_ (some (.call 2 (.ident 3 "f") [.int 4 "1"]))]

/-- The declaration `int f();`. -/
def callee : FunctionDef NodeId where
  returnType := intSpec 0
  name := "f"
  params := []
  body := none
  hasPrototype := false

/-- The function `int g(void)` with this body. -/
def function : FunctionDef NodeId where
  returnType := intSpec 1
  name := "g"
  params := []
  body := some body

def unit : SourceUnit NodeId := ⟨[.function callee, .function function]⟩

/-- The types of the expressions in it. -/
def types (a : NodeId) : Option CType := if a = 2 ∨ a = 4 then some .int else none

/-- Its lines: what the argument did not take is given back. -/
def code : Code :=
  [.global "g", .align 2, .symbol "g", .instr .enter, .instr .setFrame, .instr (.call "f"),
    .instr (.shrinkStack 16), .instr (.branch ⟨"return", 1⟩), .label ⟨"return", 1⟩, .instr .leave, .instr .ret]

set_option maxRecDepth 20000 in
theorem programCode_eq : programCode types unit = .ok (.text :: code) := by cbv

/-- **A call with a surplus argument leaves the stack pointer above the frame**: where the function is left,
    it has no locals, but its stack pointer is above its frame pointer. -/
theorem surplus_argument_raises : programCode types unit = .ok (.text :: code) ∧
    code[8]? = some (.label ⟨"return", 1⟩) ∧ ∃ s, Machine.Walk code 8 s ∧ s.sp = s.fp + 16 := by
  refine ⟨programCode_eq, rfl, ⟨0, -16, []⟩, ?_, rfl⟩
  have hstart : Machine.Walk code 0 {} := .refl
  have hentry : Machine.Walk code 5 ⟨-16, -16, []⟩ :=
    ((((hstart.next rfl rfl).next rfl rfl).next rfl rfl).next rfl rfl).next rfl rfl
  have hcall : Machine.Walk code 7 ⟨0, -16, []⟩ := (hentry.next rfl rfl).next rfl rfl
  exact hcall.jump rfl rfl rfl

end Surplus

end CCompiler.Codegen
