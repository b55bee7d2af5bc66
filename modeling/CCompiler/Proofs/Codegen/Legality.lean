import CCompiler.Proofs.Codegen.Function

/-!
# Which emitted instructions the machine has

An instruction on registers needs registers of one width, a slot has to be in reach of the frame pointer, and
a change of the stack pointer has to fit into the field for it. The generator heeds this but for one thing: it
gives the count of a shift the width of the count's own type.

* `Instr.isLegal` -- whether the machine has an instruction;
* `Instr.isLegal_of_effect` -- an instruction that the machine does not have does nothing;
* `isEven` -- whether an expression is no shift, or one with operands of one width;
* `ExprGen.legal_iff`, `StmtGen.legal_iff` -- code is legal exactly when all expressions are so that code is
  emitted for;
* `assembly_legal_iff` -- so is the code of a program whose functions have at most 32 slots.
-/
namespace CCompiler.Machine

/-- Whether the field for an immediate can hold a number: twelve bits, or twelve bits and twelve zeros. -/
def isImmediate (n : Nat) : Bool := n ≤ 4095 || n % 4096 == 0 && n ≤ 4095 * 4096

/-- Whether the machine has an instruction. -/
def Instr.isLegal : Instr → Bool
  | .operate _ dest left right => left.width == dest.width && right.width == dest.width
  | .multiplySub dest left right minuend =>
    left.width == dest.width && right.width == dest.width && minuend.width == dest.width
  | .compare left right => right.width == left.width
  | .storeSlot _ offset | .loadSlot _ offset => offset ≤ 256
  | .growStack bytes | .shrinkStack bytes => isImmediate bytes
  | _ => true

variable {i : Instr} {is : List Instr} {slot : Slot} {target : CType} {w count : Width} {frame : Nat}

/-- **An instruction that the machine does not have does nothing.** -/
theorem Instr.isLegal_of_effect (h : i.effect address s = some s') : i.isLegal := by
  cases i with
  | operate | multiplySub | compare =>
    simp only [Instr.effect] at h
    split_ifs at h with hw
    simp [isLegal, hw]
  | storeSlot r offset | loadSlot r offset =>
    simp only [Instr.effect] at h
    split_ifs at h with ho
    simpa [isLegal] using ho
  | growStack bytes | shrinkStack bytes =>
    simp only [Instr.effect] at h
    split_ifs at h with hb
    have : bytes ≤ 4095 := by omega
    simp [isLegal, isImmediate, this]
  | _ => rfl

end CCompiler.Machine

namespace CCompiler.Codegen

open Machine (Label Line Instr Reg Width)
open Machine.Instr (isLegal)

/-! ## 1. Legal code -/

/-- The machine has every instruction of some code. -/
def Legal (code : Code) : Prop := ∀ i, Line.instr i ∈ code → i.isLegal = true

section Legal

variable {code more : Code}

@[simp] theorem legal_nil : Legal [] := fun _ h => nomatch h

@[simp] theorem legal_append : Legal (code ++ more) ↔ Legal code ∧ Legal more := by
  unfold Legal
  simp only [List.mem_append]
  exact ⟨fun h => ⟨fun i hi => h i (.inl hi), fun i hi => h i (.inr hi)⟩, fun h i hi => hi.elim (h.1 i) (h.2 i)⟩

@[simp] theorem legal_cons_instr : Legal (.instr i :: code) ↔ i.isLegal ∧ Legal code := by
  unfold Legal
  simp

@[simp] theorem legal_cons_label : Legal (.label l :: code) ↔ Legal code := by
  unfold Legal
  simp

@[simp] theorem legal_instrs_nil : Legal (instrs []) := legal_nil

@[simp] theorem legal_instrs_cons : Legal (instrs (i :: is)) ↔ i.isLegal ∧ Legal (instrs is) := legal_cons_instr

theorem legal_instrs : Legal (instrs is) ↔ ∀ i ∈ is, i.isLegal := by
  unfold Legal instrs
  simp

/-- Lines that are no instructions are legal. -/
theorem legal_of_forall (h : ∀ i, Line.instr i ∉ code) : Legal code := fun i hi => absurd hi (h i)

end Legal

/-- Whether two nodes have types of one width. -/
def sameWidth (scene : Scene) (a b : NodeId) : Bool :=
  match scene.typeOf a, scene.typeOf b with
  | some t, some u => (widthOf t).toOption == (widthOf u).toOption
  | _, _ => false

/-- Whether an expression is no shift, or one whose count has the width of its result. -/
def isEven (scene : Scene) : Expr NodeId → Bool
  | .binary a op _ right => !isShift op || sameWidth scene a right.note
  | _ => true

/-! ## 2. Expressions -/

/-- Every local, declared or still to be declared, is in reach of the frame pointer. -/
def InReach (st : State) : Prop := ∀ slot ∈ st.slots, slot.offset ≤ 256

section Expressions

variable {scene : Scene} {st st' : State} {code : Code} {name : String} {t : CType}

theorem InReach.mono (h : InReach st) (hsub : st'.slots.Subperm st.slots) : InReach st' :=
  fun slot hm => h slot (hsub.subset hm)

theorem InReach.slotOf (h : InReach st) (hs : slotOf st.scopes name = some slot) : slot.offset ≤ 256 :=
  h slot (List.mem_append_left _ (List.mem_map_of_mem (Run.mem_of_slotOf hs)))

theorem Converts.legal (h : Converts source target code) : Legal code := by
  obtain ⟨w, w', rfl⟩ := h.exists_instrs
  cases w <;> cases w' <;> simp [conversion, isLegal]

theorem Loads.legal (h : Loads scene st name code t) (hr : InReach st) : Legal code := by
  cases h with
  | slot hs => simp [isLegal, hr.slotOf hs]
  | global => simp [addressCode, isLegal]

theorem Stores.legal (h : Stores scene st name t code) (hr : InReach st) : Legal code := by
  cases h with
  | slot hs => simp [isLegal, hr.slotOf hs]
  | global => simp [addressCode, isLegal]

@[simp] theorem legal_immediate (w : Width) (n : Int) : Legal (instrs (immediateInstrs w n)) := by
  rw [legal_instrs]
  unfold immediateInstrs
  split
  · exact nofun
  · exact List.forall_mem_cons.mpr ⟨rfl, List.forall_mem_map.mpr fun _ _ => rfl⟩

@[simp] theorem legal_spill (w : Width) : Legal (instrs (spillInstrs w)) := by
  cases w <;> simp [spillInstrs, isLegal, Machine.isImmediate]

@[simp] theorem legal_pop (index : Nat) : Legal (popCode index) := by
  simp [popCode, isLegal, Machine.isImmediate]

@[simp] theorem legal_sign (w : Width) (op : UnaryOp) : Legal (instrs (signInstrs w op)) := by
  unfold signInstrs
  split <;> simp [isLegal]

@[simp] theorem legal_verdict (b : Bool) (l done : Label) : Legal (verdictCode b l done) := by
  intro i hi
  simp only [verdictCode, List.mem_cons, Line.instr.injEq, reduceCtorEq, List.not_mem_nil, or_false, false_or] at hi
  rcases hi with rfl | rfl | rfl <;> rfl

theorem legal_argumentLoads (h : argumentLoads params scene st = .ok (code, st')) : Legal code := by
  obtain ⟨-, is, rfl, his⟩ := argumentLoads_eq_ok h
  rw [legal_instrs]
  intro i hi
  obtain ⟨r, offset, rfl⟩ := his i hi
  rfl

theorem legal_unwind {args : List (Expr NodeId)} (h : args.length ≤ maxArguments) :
    Legal (if args.isEmpty then [] else instrs [.shrinkStack (16 * args.length)]) := by
  unfold maxArguments at h
  have hle : 16 * args.length ≤ 4095 := by omega
  split
  · exact legal_nil
  · simp [isLegal, Machine.isImmediate, hle]

/-- **An operator is legal unless it shifts by a count of another width.** -/
theorem legal_compute_iff : Legal (instrs (computeInstrs op w count)) ↔ (isShift (.arith op) → w = count) := by
  rw [legal_instrs]
  cases op with
  | shl | shr =>
    simp only [computeInstrs, isShift, isLegal, List.mem_singleton, forall_eq, beq_self_eq_true,
      Bool.true_and, beq_iff_eq, true_implies]
    exact eq_comm
  | _ => simp [computeInstrs, isShift, isLegal]

theorem legal_step (h : stepInstr? w op = some i) : i.isLegal := by
  cases op <;> cases h <;> rfl

/-- A shift computes in the widths of its own type and of that of its count. -/
theorem sameWidth_iff {a : NodeId} {op : ArithOp} {right : Expr NodeId} {t : CType} (ht : scene.typeOf a = some t)
    (hw : widthOf t = .ok w)
    (htarget : if isShift (.arith op) = true then scene.typeOf right.note = some target else target = t)
    (hcount : widthOf target = .ok count) :
    (isShift (.arith op) → w = count) ↔
      (isShift (.arith op) = false ∨ sameWidth scene a right.note) := by
  by_cases hs : isShift (.arith op)
  · rw [if_pos hs] at htarget
    simp [hs, sameWidth, ht, htarget, hw, hcount, Except.toOption]
  · simp [hs]

theorem InReach.labelled (h : InReach st) (n : Nat) : InReach (st.labelled n) := h

attribute [local simp] allEmitted allEmittedArgs isEven isLegal

/-- **The code of an expression is legal exactly when its shifts have operands of one width.** -/
theorem ExprGen.legal_iff (h : ExprGen scene st e code t st')
    (hr : InReach st) : Legal code ↔ allEmitted scene (isEven scene) e := by
  induction h using @ExprGen.rec scene _ (fun st es ts code _ _ =>
    InReach st → (Legal code ↔ allEmittedArgs scene (isEven scene) ts.length es)) with
  | int | char => simp
  | string => simp [addressCode]
  | ident h => simp [h.legal hr]
  | sign _ _ _ hc _ ih => simp [ih hr, hc.legal]
  | logicalNot _ _ ih => simp [ih hr]
  | logicalAnd hl _ _ _ ihl ihr | logicalOr hl _ _ _ _ _ ihl ihr =>
    simp [ihl (hr.labelled _), ihr ((hr.labelled _).mono hl.calm.kept.slots), isShift]
  | arith hl ht hc hw _ htarget hc' hcount _ ihl ihr =>
    have ihr' := ihr (hr.mono hl.calm.kept.slots)
    have hshift := sameWidth_iff ht hw htarget hcount
    simp only [legal_append, ihl hr, ihr', hc.legal, hc'.legal, legal_spill, legal_pop, legal_compute_iff,
      hshift, allEmitted, isEven, Bool.and_eq_true, Bool.or_eq_true, Bool.not_eq_true', and_true, and_assoc]
    exact and_rotate.symm
  | relation hl _ hc _ _ hc' ihl ihr =>
    simp [ihl hr, ihr (hr.mono hl.calm.kept.slots), hc.legal, hc'.legal, isShift]
  | assign _ h _ hc hs ih => simp [ih hr, hc.legal, hs.legal (hr.mono h.calm.kept.slots)]
  | assignOp _ _ hl _ h _ hc hs ih =>
    simp [hl.legal hr, ih hr, hc.legal, legal_compute_iff, hs.legal (hr.mono h.calm.kept.slots)]
  | update _ _ hl _ hi hs | postUpdate _ _ hl _ hi hs =>
    simp [hl.legal hr, legal_step hi, hs.legal hr, -isLegal]
  | call hf hmax _ hl ih =>
    rw [legal_append, eq_true (legal_unwind hmax)]
    simp [ih hr, legal_argumentLoads hl, hf]
  | comma hl _ ihl ihr => simp [ihl hr, ihr (hr.mono hl.calm.kept.slots)]
  | conditional _ hc _ hthen _ hcv _ _ hcv' ihc iht ihe =>
    have hr1 := (hr.labelled _).mono hc.calm.kept.slots
    have hr2 := hr1.mono hthen.calm.kept.slots
    simp [ihc (hr.labelled _), iht hr1, hcv.legal, ihe hr2, hcv'.legal, and_assoc]
  | cast _ _ hc ih =>
    have hconvert : Legal _ := hc.elim (fun h => h.2 ▸ legal_nil) fun h => h.2.legal
    simp [ih hr, hconvert]
  | @measure _ e _ h =>
    cases e with
    | sizeofType | alignofType | sizeofExpr | alignofExpr => simp
    | _ => cases h
  | nil h => rcases h with rfl | rfl <;> simp
  | cons h _ hc _ _ ih ihr =>
    rename_i hr
    simp [ih hr, hc.legal, ihr (hr.mono h.calm.kept.slots)]

end Expressions

/-! ## 3. Statements -/

section Statements

variable {scene : Scene} {st st' : State} {code : Code}

theorem InReach.opened (h : InReach st) : InReach st.opened := h

theorem TestGen.legal_iff (h : TestGen scene done st e code st') (hr : InReach st) :
    Legal code ↔ e.all (allEmitted scene (isEven scene)) := by
  cases h with
  | absent => simp
  | present h => simp [h.legal_iff hr, isLegal]

theorem PostGen.legal_iff (h : PostGen scene st e code st') (hr : InReach st) :
    Legal code ↔ e.all (allEmitted scene (isEven scene)) := by
  cases h with
  | absent => simp
  | present h => simp [h.legal_iff hr]

attribute [local simp] allEmittedStmt allEmittedStmts isLegal

/-- **The code of a statement is legal exactly when its shifts have operands of one width.** -/
theorem StmtGen.legal_iff (h : StmtGen scene body st s code marks st') (hr : InReach st) :
    Legal code ↔ allEmittedStmt scene (isEven scene) s := by
  induction h using @StmtGen.rec scene _
    (fun _ st s code _ _ _ => InReach st → (Legal code ↔ s.all (allEmittedStmt scene (isEven scene))))
    (fun _ st ss code _ _ _ => InReach st → (Legal code ↔ allEmittedStmts scene (isEven scene) ss))
    with
  | @silent _ _ s h =>
    cases s with
    | declaration _ name =>
      cases name with
      | none => simp
      | some => cases h
    | typedef | staticAssert | null => simp
    | _ => cases h
  | group _ ih => simp [ih hr]
  | object | leave | break_ | continue_ => simp
  | init hp h _ hc =>
    have hoffset := hr _ (List.mem_append_right _ (hp ▸ List.mem_cons_self))
    simp [h.legal_iff (hr.mono (kept_declared hp).slots), hc.legal, hoffset]
  | expr h => simp [h.legal_iff hr]
  | return_ h _ hc => simp [h.legal_iff hr, hc.legal]
  | compound _ ih => simp [ih hr.opened]
  | ifThen hc _ htest _ ih | while_ hc _ htest _ ih =>
    simp [htest, hc.legal_iff (hr.labelled _), ih ((hr.labelled _).mono hc.calm.kept.slots)]
  | ifElse hc _ htest ht hmiddle _ iht ihe =>
    have hr1 := (hr.labelled _).mono hc.calm.kept.slots
    simp [hmiddle, htest, hc.legal_iff (hr.labelled _), iht hr1, ihe (hr1.mono ht.kept.slots), and_assoc]
  | doWhile hb hc _ _ ih =>
    simp [ih (hr.labelled _), hc.legal_iff ((hr.labelled _).mono hb.kept.slots)]
  | @for_ _ _ _ _ _ _ init _ _ _ _ _ _ _ _ _ _ hi hc hfront hb hp ihi ihb =>
    have hr1 := (hr.opened.labelled _).mono hi.kept.slots
    have hr2 := hr1.mono hc.kept.slots
    have hr3 := hr2.mono hb.kept.slots
    have ihi' := ihi (hr.opened.labelled _)
    cases init <;> simp [hfront, ihi', hc.legal_iff hr1, ihb hr2, hp.legal_iff hr3, and_assoc]
  | absent => simp
  | present _ ih =>
    rename_i hr
    simp [ih hr]
  | nil => simp
  | cons hs _ ih ihr =>
    rename_i hr
    simp [ih hr, ihr (hr.mono hs.kept.slots)]

end Statements

/-! ## 4. Programs -/

section Programs

variable {scene : Scene} {st st' : State} {f : FunctionDef NodeId} {body : List (Stmt NodeId)} {code : Code}

theorem ParamsGen.legal (h : ParamsGen ps index is) (hr : ∀ p ∈ ps, p.2.offset ≤ 256) : Legal (instrs is) := by
  induction h with
  | nil => simp
  | cons _ _ ih =>
    have hp := hr _ List.mem_cons_self
    simp [isLegal, hp, ih (List.forall_mem_cons.mp hr).2]

theorem legal_frame (h : frame ≤ 256) : Legal (instrs (entryInstrs frame)) ∧ Legal (instrs (exitInstrs frame)) := by
  have : frame ≤ 4095 := by omega
  unfold entryInstrs exitInstrs
  split <;> simp [isLegal, Machine.isImmediate, this]

/-- The code of a function with at most 32 slots. -/
theorem functionCode_legal_iff (h : functionCode f body scene st = .ok (code, st'))
    (hslots : slotCount f body ≤ 32) : Legal code ↔ allEmittedStmts scene (isEven scene) body := by
  obtain ⟨g, -⟩ := functionCode_gen h
  have hframe := frameSize_le g.hlayout hslots
  have hreach : ∀ slot ∈ g.layout.params.map (·.2) ++ g.layout.locals, slot.offset ≤ 256 :=
    fun slot hslot => Nat.le_trans (g.offset_le hslot) hframe
  have hstores := g.hstores.legal fun p hp =>
    hreach p.2 (List.mem_append_left _ (List.mem_map_of_mem hp))
  have hbody : Legal g.bodyCode ↔ allEmittedStmts scene (isEven scene) body := by
    have hr : InReach (State.labelled { st with scopes := [g.layout.params], pending := g.layout.locals }
        (st.labels + 1)) := by
      intro slot hslot
      refine hreach slot ?_
      rw [State.labelled_slots] at hslot
      simpa [State.slots] using hslot
    rw [g.hbody.legal_iff hr, allEmittedStmt]
  have hfront : Legal [.global f.name, .align 2, .symbol f.name] := legal_of_forall (by simp)
  rw [g.hcode]
  simp only [legal_append, hfront, legal_frame hframe, hstores, hbody, legal_cons_label,
    legal_cons_instr, legal_nil, isLegal, true_and, and_true]

/-- The code of all functions. -/
theorem FunctionsGen.legal_iff (h : FunctionsGen scene st ds codes st') (hslots : ∀ d ∈ ds, slotCount d.1 d.2 ≤ 32) :
    Legal codes.flatten ↔ ∀ d ∈ ds, allEmittedStmts scene (isEven scene) d.2 := by
  induction h with
  | nil => simp
  | cons hcode _ ih =>
    rw [List.forall_mem_cons] at hslots ⊢
    rw [List.flatten_cons, legal_append, functionCode_legal_iff hcode hslots.1, ih hslots.2]

/-- Whether a line is neither an instruction nor a label. -/
def isDirective : Line → Bool
  | .instr _ | .label _ => false
  | _ => true

theorem objectCode_all (h : objectCode typeOf object = .ok code) : code.all isDirective := by
  obtain ⟨w, -, h1⟩ := bind_ok h
  cases hi : object.init with
  | none =>
    rw [hi] at h1
    cases h1
    rfl
  | some e =>
    rw [hi] at h1
    obtain ⟨n, -, h2⟩ := bind_ok h1
    obtain ⟨m, -, h3⟩ := bind_ok h2
    cases h3
    rfl

/-- The lines of objects are neither instructions nor labels. -/
theorem objectsCode_all (h : objectsCode scene = .ok code) : code.all isDirective := by
  have hall : ∀ (objects : List GlobalObject) {cs : List Code},
      objects.mapM (objectCode scene.typeOf) = .ok cs → cs.flatten.all isDirective := by
    intro objects
    induction objects with
    | nil =>
      intro cs h
      cases h
      rfl
    | cons object rest ih =>
      intro cs h
      rw [List.mapM_cons] at h
      obtain ⟨c, hc, h1⟩ := bind_ok h
      obtain ⟨cs', hcs, h2⟩ := bind_ok h1
      cases h2
      rw [List.flatten_cons, List.all_append, objectCode_all hc, ih hcs, Bool.and_self]
  unfold objectsCode at h
  dsimp only at h
  split_ifs at h
  · cases h
    rfl
  · obtain ⟨cs, hcs, h1⟩ := bind_ok h
    cases h1
    exact hall _ hcs

theorem legal_objects (h : objectsCode scene = .ok code) : Legal code :=
  legal_of_forall fun _ hi => nomatch List.all_eq_true.mp (objectsCode_all h) _ hi

theorem legal_strings (strings : List (String × Label)) : Legal (stringsCode strings) := by
  unfold stringsCode
  split
  · exact legal_nil
  · exact legal_of_forall (by simp)

/-- **The assembly of a program is legal exactly when its shifts have operands of one width**, as long as no
    function has more than 32 parameters and locals. -/
theorem assembly_legal_iff {c : Compilation} {platform : Platform} {text : String}
    (h : c.assembly platform = .ok text)
    (hslots : ∀ f body, .function f ∈ c.unit.externals → f.body = some body → slotCount f body ≤ 32) :
    ∃ lines scene, programCode (c.analysis.types[·]?) c.unit = .ok lines ∧ Machine.render lines = text ∧
      c.unit.externals.foldlM collect { typeOf := (c.analysis.types[·]?) } = .ok scene ∧
      ((∀ i, Line.instr i ∈ lines → i.isLegal = true) ↔
        ∀ f body, .function f ∈ c.unit.externals → f.body = some body → allEmittedStmts scene (isEven scene) body = true) := by
  obtain ⟨lines, hlines, hrender⟩ := assembly_eq_ok h
  have hparts := hlines
  obtain ⟨scene, hscene, h₁⟩ := bind_ok hparts
  obtain ⟨objects, hobjects, h₂⟩ := bind_ok h₁
  obtain ⟨⟨functions, state⟩, hfunctions, heq⟩ := bind_ok h₂
  cases heq
  refine ⟨_, scene, hlines, hrender, hscene, ?_⟩
  have hlegal : Legal (objects ++ [.text] ++ functions ++ stringsCode state.strings) ↔ Legal functions := by
    have htext : Legal [.text] := legal_of_forall (by simp)
    simp only [legal_append, legal_objects hobjects, htext, legal_strings, true_and, and_true]
  obtain ⟨codes, rfl, hcodes⟩ := functionsCode_gen hfunctions
  refine (hlegal.trans (hcodes.legal_iff fun d hd => ?_)).trans ⟨fun hall f body hf hb => ?_, fun hall d hd => ?_⟩
  · exact hslots d.1 d.2 (mem_definitions.mp hd).1 (mem_definitions.mp hd).2
  · exact hall (f, body) (mem_definitions.mpr ⟨hf, hb⟩)
  · exact hall d.1 d.2 (mem_definitions.mp hd).1 (mem_definitions.mp hd).2

/-- The code of the program that counts is legal. -/
theorem Counting.code_legal : ∃ text lines,
    Counting.compilation.assembly ⟨"Darwin", "arm64"⟩ = .ok text ∧ Machine.render lines = text ∧
      ∀ i, Line.instr i ∈ lines → i.isLegal = true := by
  obtain ⟨text, htext⟩ := exists_assembly
  obtain ⟨lines, scene, -, hrender, -, hiff⟩ := assembly_legal_iff htext (by
    intro f body hf hb
    cases List.mem_singleton.mp hf
    cases hb
    decide)
  refine ⟨text, lines, htext, hrender, hiff.mpr fun f body hf hb => ?_⟩
  cases List.mem_singleton.mp hf
  cases hb
  rfl

end Programs

/-! ## 5. A shift by a `long` -/

namespace Shifting

open Counting (intSpec)

/-- The type `long` of a declaration. -/
def longSpec (a : NodeId) : TypeSpec NodeId := ⟨a, .named "long", [], [], false, none, none, none⟩

/-- The items of `{ return a << b; }`. -/
def body : List (Stmt NodeId) :=
  [.return_ (some (.binary 3 (.arith .shl) (.ident 4 "a") (.ident 5 "b")))]

/-- The function `int f(int a, long b)` with this body. -/
def function : FunctionDef NodeId where
  returnType := intSpec 0
  name := "f"
  params := [⟨intSpec 1, some "a"⟩, ⟨longSpec 2, some "b"⟩]
  body := some body

def unit : SourceUnit NodeId := ⟨[.function function]⟩

/-- The types of the expressions in it. -/
def types (a : NodeId) : Option CType :=
  if a = 3 ∨ a = 4 then some .int else if a = 5 then some .long else none

set_option maxRecDepth 20000 in
theorem contains_mixed_shift : (programCode types unit).toOption.any (fun lines =>
    lines.contains (.instr (.operate .lsl ⟨0, .word⟩ ⟨1, .word⟩ ⟨0, .long⟩))) := by cbv

/-- **The shift of an `int` by a `long` is an instruction that the machine does not have.** -/
theorem shift_by_long_illegal : ∃ lines, programCode types unit = .ok lines ∧
    ∃ i, Line.instr i ∈ lines ∧ i.isLegal = false := by
  have h := contains_mixed_shift
  cases hp : programCode types unit with rw [hp] at h
  | error failure => cases h
  | ok lines => exact ⟨lines, rfl, _, List.contains_iff_mem.mp h, rfl⟩

end Shifting

end CCompiler.Codegen
