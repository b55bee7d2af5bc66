import CCompiler.Proofs.Codegen.Simulation

/-!
# The code of functions returns what they return

The code of a function over `int` saves the frame pointer and the link register, makes room for its locals,
stores its arguments, runs its body and undoes all of that at its exit.

* `functionCode_emits` -- the code that the generator gives for a function;
* `Run.enters`, `Run.exits` -- what the code does before the body and behind it;
* `functionCode_returns` -- the code of a function returns what the function returns.
-/
namespace CCompiler.Codegen

open List
open Machine (Label Line Instr Reg Width Address Memory Reaches At effects below place?)
open Meaning (Env IntValue)
open BitVec (setWidth_eq setWidth)

variable {ps : List (String × Slot)} {xs : List (External NodeId)}

/-! ## 1. The code of a function -/

/-- Stores arguments into slots, from the register with some number on. -/
def paramInstrs : List (String × Slot) → Nat → List Instr
  | [], _ => []
  | p :: ps, k => .storeSlot (word k) p.2.offset :: paramInstrs ps (k + 1)

/-- The code of a function around the code of its body. -/
def functionFrame (name : String) (params : List (String × Slot)) (frame : Nat) (exit : Label) (code : Code) : Code :=
  [.global name, .align 2, .symbol name] ++ instrs (entryInstrs frame) ++ instrs (paramInstrs params 0) ++
    code ++ [Line.label exit] ++ instrs (exitInstrs frame) ++ [Line.instr .ret]

section Generation

variable {scene : Scene} {st st' : State} {f : FunctionDef NodeId} {body : List (Stmt NodeId)}

theorem ParamsGen.int (h : ParamsGen ps k is) (hint : ∀ p ∈ ps, isInt p.2.type) : is = paramInstrs ps k := by
  induction h with
  | nil => rfl
  | cons hw _ ih =>
    cases width_eq_word (hint _ mem_cons_self) hw
    rw [ih (forall_mem_cons.mp hint).2]
    rfl

theorem resultType_int (hs : isIntSpec f.returnType) (h : resultType f = .ok t) : isInt t := by
  unfold resultType at h
  split_ifs at h with hvoid
  · unfold isIntSpec at hs
    simp_all
  · exact Layout.objectType_int hs h

theorem known_of_ofFunction (hint : isIntFunction scene.typeOf f body)
    (h : Layout.ofFunction f body = .ok layout) :
    Known (f.params.filterMap (·.name)) [layout.params] := by
  rw [← (Layout.params_of_ofFunction hint h).1]
  intro name hname
  obtain ⟨p, hp, rfl⟩ := mem_map.mp hname
  obtain ⟨slot, hslot⟩ := Option.isSome_iff_exists.mp (lookup_isSome_iff.mpr ⟨p, hp, beq_self_eq_true p.1⟩)
  have hs : slotOf [layout.params] p.1 = some slot := by
    unfold slotOf
    rw [findSome?_cons, hslot]
  have hmem := mem_map_of_mem (f := (·.2)) (Run.mem_of_slotOf hs)
  exact ⟨slot, hs, ((Layout.placed_of_ofFunction hint h {}).inFrame slot (mem_append_left _ hmem)).1⟩

/-- **The code that the generator gives for a function over `int`.** -/
theorem functionCode_emits (hint : isIntFunction scene.typeOf f body)
    (h : functionCode f body scene st = .ok (code, st')) :
    ∃ layout returnType c marks, Layout.ofFunction f body = .ok layout ∧ isInt returnType ∧
      StmtGen scene { exit := ⟨"return", st.labels + 1⟩, returnType }
        (State.labelled { st with scopes := [layout.params], pending := layout.locals } (st.labels + 1))
        (.compound body) c marks st' ∧
      code = functionFrame f.name layout.params layout.frameSize ⟨"return", st.labels + 1⟩ c := by
  obtain ⟨g, hreturn⟩ := functionCode_gen h
  have hplaced := Layout.placed_of_ofFunction hint g.hlayout st
  have hstores := g.hstores.int fun p hp =>
    (hplaced.inFrame p.2 (mem_append_left _ (mem_map_of_mem (by simpa using hp)))).1
  unfold isIntFunction at hint
  rw [Bool.and_eq_true, Bool.and_eq_true] at hint
  refine ⟨g.layout, g.returnType, g.bodyCode, _, g.hlayout, resultType_int hint.1.1 hreturn, g.hbody, ?_⟩
  have hcode := g.hcode
  rwa [hstores] at hcode

end Generation

/-! ## 2. Before the body -/

namespace Run

variable {r : Run} {m m' : Machine.State}

/-- The state behind the entry of a function. -/
def entered (r : Run) (m : Machine.State) : Machine.State where
  regs := fun i => if i = 29 then below r.top 16 else m.regs i
  sp := below r.top r.floor
  mem := (m.mem.write 8 (below r.top 16) (m.regs 29)).write 8 (below r.top 8) (m.regs 30)
  flags := m.flags

theorem effects_entry (hsp : m.sp = r.top) : effects r.address (entryInstrs r.frame) m = some (r.entered m) := by
  have hframe := r.frame_le
  have h16 : m.sp - 16 = below r.top 16 := by rw [hsp]; rfl
  have h8 : below r.top 16 + 8 = below r.top 8 := Machine.below_add r.top (by decide : 8 ≤ 16)
  have henter : effects r.address [.enter, .setFrame] m = some { r.entered m with sp := below r.top 16 } := by
    show some (Machine.State.mk (fun i => if i = 29 then (m.sp - 16).setWidth 64 else m.regs i) (m.sp - 16)
      ((m.mem.write 8 (m.sp - 16) ((m.regs 29).setWidth 64)).write 8 (m.sp - 16 + 8)
        ((m.regs 30).setWidth 64)) m.flags) = _
    rw [h16, h8]
    rfl
  refine Machine.effects_append henter ?_
  by_cases hzero : r.frame = 0
  · rw [if_pos hzero]
    show some _ = some _
    unfold entered floor
    rw [hzero]
  · rw [if_neg hzero]
    show Option.bind (if r.frame < 4096 then some _ else none) _ = _
    rw [if_pos (by omega)]
    rw [Machine.below_sub]
    rfl

theorem framed_entered : r.Framed r.floor (r.entered m) := ⟨rfl, rfl, Nat.le_refl _⟩

/-- **The arguments are in the slots of the parameters** behind the stores for them. -/
theorem effects_params {vs : List IntValue} {k : Nat}
    (hlen : vs.length = ps.length) (hargs : ∀ i (v : IntValue), vs[i]? = some v → m.get (word (k + i)) = v)
    (hdistinct : (ps.map (·.2.offset)).Nodup) (hin : ∀ p ∈ ps, p.2.InFrame r.frame)
    (hf : r.Framed r.floor m) :
    ∃ m', effects r.address (paramInstrs ps k) m = some m' ∧ m'.regs = m.regs ∧ r.Steady r.floor m m' ∧
      Forall₂ (r.Holds m'.mem) ps ((ps.map (·.1)).zip (vs.map some)) ∧
      ∀ slot : Slot, slot.InFrame r.frame → slot.offset ∉ ps.map (·.2.offset) →
        m'.mem.read 4 (r.slot slot) = m.mem.read 4 (r.slot slot) := by
  induction ps generalizing vs k m with
  | nil => exact ⟨m, rfl, rfl, .refl, .nil, fun _ _ _ => rfl⟩
  | cons p ps ih =>
    obtain ⟨v, vs, rfl⟩ := exists_cons_of_length_eq_add_one hlen
    rw [map_cons, nodup_cons] at hdistinct
    have hp := hin p mem_cons_self
    have hv : m.get (word k) = v := hargs 0 v rfl
    have hsteady : r.Steady r.floor m (m.store .word (r.slot p.2) v) :=
      .store hp hf (Nat.le_add_right _ _) v
    obtain ⟨m', he, hregs, hs, hall, hother⟩ := @ih (m.store .word (r.slot p.2) v) vs (k + 1) (Nat.succ.inj hlen)
      (fun i u hu => by
        have := hargs (i + 1) u hu
        rwa [← Nat.add_assoc, Nat.add_right_comm] at this)
      hdistinct.2 (forall_mem_cons.mp hin).2 (hf.steady hsteady)
    refine ⟨m', ?_, hregs, hsteady.trans hs, .cons ⟨rfl, fun u hu => ?_⟩ hall, fun slot hslot hne => ?_⟩
    · refine Option.bind_eq_some_iff.mpr ⟨_, effect_storeSlot hp hf k, ?_⟩
      rw [hv]
      exact he
    · cases hu
      rw [hother p.2 hp hdistinct.1]
      exact Memory.read_write m.mem 4 _ v (by decide)
    · rw [map_cons, mem_cons, not_or] at hne
      rw [hother slot hslot hne.2]
      exact read_write_slot hp hslot hne.1 v

/-! ## 3. Behind the body -/

/-- The saved registers are taken back, and the stack pointer stands where it stood. -/
theorem effects_exit (hsteady : r.Steady r.floor (r.entered m) m') :
    ∃ m1, effects r.address (exitInstrs r.frame) m' = some m1 ∧ m1.sp = r.top ∧ m1.mem = m'.mem ∧
      m1.regs 0 = m'.regs 0 ∧ ∀ i, i ≠ 0 → i ≠ 1 → m1.regs i = m.regs i := by
  have hframe := r.frame_le
  have h8 : below r.top 16 + 8 = below r.top 8 := Machine.below_add r.top (by decide : 8 ≤ 16)
  have h0 : below r.top 16 + 16 = r.top :=
    (Machine.below_add r.top (Nat.le_refl 16)).trans (Machine.below_zero r.top)
  have hshrink : effects r.address (if r.frame = 0 then [] else [.shrinkStack r.frame]) m' =
      some { m' with sp := below r.top 16 } := by
    have hsp : m'.sp = below r.top (16 + r.frame) := hsteady.sp
    by_cases hzero : r.frame = 0
    · rw [if_pos hzero]
      rw [hzero] at hsp
      show some m' = _
      rw [← hsp]
    · rw [if_neg hzero]
      show Option.bind (if r.frame < 4096 then some _ else none) _ = _
      rw [if_pos (by omega)]
      show some { m' with sp := m'.sp + BitVec.ofNat 64 r.frame } = _
      rw [hsp, Machine.below_add r.top (by omega), Nat.add_sub_cancel]
  -- both words were written at the entry, and nothing has come near them since
  have hkept : ∀ d, 8 ≤ d → d ≤ 16 → m'.mem.read 8 (below r.top d) = (r.entered m).mem.read 8 (below r.top d) :=
    fun d h1 h2 => Memory.read_below_congr h1 fun e he _ => hsteady.mem e (by omega) (.inl (by omega))
  have hframePointer : m'.mem.read 8 (below r.top 16) = m.regs 29 := by
    rw [hkept 16 (by decide) (by decide)]
    exact (Memory.read_write_below_other _ r.top _ (by decide) (by decide) (by decide) (by decide)
      (by decide)).trans (Memory.read_write m.mem 8 _ _ (by decide))
  have hlink : m'.mem.read 8 (below r.top 8) = m.regs 30 := by
    rw [hkept 8 (by decide) (by decide)]
    exact Memory.read_write _ 8 _ _ (by decide)
  refine ⟨_, Machine.effects_append hshrink rfl, h0, rfl, rfl, fun i hi0 hi1 => ?_⟩
  show (if i = 30 then setWidth 64 (m'.mem.read 8 (below r.top 16 + 8))
    else if i = 29 then setWidth 64 (m'.mem.read 8 (below r.top 16)) else m'.regs i) = m.regs i
  rw [h8, hframePointer, hlink, setWidth_eq, setWidth_eq]
  by_cases h30 : i = 30
  · rw [if_pos h30, h30]
  · by_cases h29 : i = 29
    · rw [if_neg h30, if_pos h29, h29]
    · rw [if_neg h30, if_neg h29, hsteady.regs i hi0 hi1]
      exact if_neg h29

end Run

/-! ## 4. Calls -/

/-- What a caller finds when a function has returned a value: the value in the result register, the stack
    pointer and every register but the first two as they were, and memory as it was but for some bytes below
    the stack pointer. -/
structure Returned (depth : Nat) (m : Machine.State) (v : IntValue) (m' : Machine.State) : Prop where
  value : m'.get (word 0) = v
  sp : m'.sp = m.sp
  regs : ∀ i, i ≠ 0 → i ≠ 1 → m'.regs i = m.regs i
  mem : ∀ a, a = m.sp ∨ depth < (m.sp - a).toNat → m'.mem a = m.mem a

/-- What is written at the entry, and everything deeper up to the limit, lies below the stack pointer. -/
theorem Run.mem_of_steady {r : Run} {m m' : Machine.State} (hsp : m.sp = r.top)
    (hsteady : r.Steady r.floor (r.entered m) m') (a : Address)
    (ha : a = m.sp ∨ r.limit < (m.sp - a).toNat) : m'.mem a = m.mem a := by
  obtain ⟨e, he, rfl⟩ := Machine.exists_below r.top a
  have hlim : 16 ≤ r.limit := by unfold Run.limit; omega
  have hdist : (m.sp - below r.top e).toNat = e := by
    have h := Machine.below_sub_below r.top (Nat.zero_le e)
    rw [Machine.below_zero, Nat.sub_zero] at h
    rw [hsp, h, BitVec.toNat_ofNat, Nat.mod_eq_of_lt he]
  have hzero : e = 0 ∨ r.limit < e := by
    rw [hdist] at ha
    refine ha.imp_left fun h => ?_
    rw [← hdist, h, BitVec.sub_self]
    rfl
  have hentered : (r.entered m).mem (below r.top e) = m.mem (below r.top e) := by
    have h1 := Memory.write_below_other (m.mem.write 8 (below r.top 16) (m.regs 29)) r.top (m.regs 30)
      (by decide : 8 < 2 ^ 64) he (by decide : 8 ≤ 8) (by omega)
    have h2 := Memory.write_below_other m.mem r.top (m.regs 29) (by decide : 16 < 2 ^ 64) he
      (by decide : 8 ≤ 16) (by omega)
    exact h1.trans h2
  rw [hsteady.mem e he (by omega), hentered]

section Calls

variable {scene : Scene} {r : Run} {locals : List String} {marks : List Nat} {name : String} {params : List (String × Slot)} {exit : Label} {c : Code}
  {returnType : CType} {st st' : State} {items : List (Stmt NodeId)} {args : List IntValue} {v : IntValue}
  {n : Nat} {env : Env} {m : Machine.State}

/-- **The code around the code of a body returns what the body returns.** -/
theorem Run.returns (hcode : r.code = functionFrame name params r.frame exit c)
    (hgen : StmtGen scene { exit, returnType } st (.compound items) c marks st')
    (hint : isIntStmt scene.typeOf locals (.compound items)) (hreturns : isInt returnType)
    (hhoused : r.Housed locals st) (hscopes : st.scopes = [params]) (hmax : params.length ≤ Layout.maxParams)
    (hlen : args.length = params.length)
    (hargs : ∀ i (a : IntValue), args[i]? = some a → m.get (word i) = a)
    (hexec : Meaning.exec n (.compound items) [(params.map (·.1)).zip (args.map some)] = some (.return_ v, env))
    (hsp : m.sp = r.top) :
    ∃ pc m', r.Leads (0, m) (pc, m') ∧ r.code[pc]? = some (.instr .ret) ∧ Returned r.limit m v m' := by
  have hat : At r.code 0 (functionFrame name params r.frame exit c) := ⟨[], [], by simp [hcode], rfl⟩
  unfold functionFrame at hat
  simp only [append_assoc, At.append_iff, length_instrs] at hat
  obtain ⟨hhead, hentry, hparams, hbody, hexit, hleave, hret⟩ := hat
  have hlaid := Run.Laid.of_placed hhoused.placed
  rw [hscopes] at hlaid
  obtain ⟨hdistinct, hin⟩ := hlaid
  rw [flatten_singleton] at hdistinct hin
  have hrun1 : r.Leads (0, m) _ := (hhead.reaches_symbol m).trans (hentry.reaches_instrs (effects_entry hsp))
  have hregs : ∀ i (a : IntValue), args[i]? = some a → (r.entered m).get (word (0 + i)) = a := by
    intro i a ha
    obtain ⟨hi, -⟩ := List.getElem?_eq_some_iff.mp ha
    have hne : i ≠ 29 := by
      unfold Layout.maxParams at hmax
      omega
    rw [Nat.zero_add, ← hargs i a ha]
    show setWidth _ (if i = 29 then _ else m.regs i) = setWidth _ (m.regs i)
    rw [if_neg hne]
  obtain ⟨m1, he1, -, hs1, hholds, -⟩ := effects_params hlen hregs hdistinct hin framed_entered
  have hrun2 := hparams.reaches_instrs he1
  have hagrees : r.Agrees st.scopes [(params.map (·.1)).zip (args.map some)] m1.mem := by
    rw [hscopes]
    exact .cons hholds .nil
  have hmarks := hexit.place (r.once exit)
  have hknows : r.Knows { exit, returnType } :=
    ⟨hreturns, ⟨_, hmarks⟩, fun _ h => (nomatch h), fun _ h => (nomatch h)⟩
  obtain ⟨p, m2, hrun3, ⟨hp, hv⟩, -, hs2⟩ := (r.follows scene n).1 hgen hint hhoused hknows hbody hexec
    hagrees (framed_entered.steady hs1)
  have hsteady := hs1.trans hs2
  obtain ⟨m3, he3, hsp3, hmem3, hzero3, hregs3⟩ := effects_exit hsteady
  have hrun4 := (hexit.reaches_label m2).trans (hleave.reaches_instrs he3)
  cases hmarks.symm.trans hp
  refine ⟨_, m3, ?_, hret.get, ?_, hsp3.trans hsp.symm, hregs3, fun a ha => ?_⟩
  · exact ((hrun1.trans hrun2).trans hrun3).trans hrun4
  · rw [← hv]
    exact congrArg _ hzero3
  · rw [hmem3]
    exact mem_of_steady hsp hsteady a ha

end Calls

/-- How many parameters and locals a function has a slot for. -/
def slotCount (f : FunctionDef NodeId) (body : List (Stmt NodeId)) : Nat :=
  match Layout.ofFunction f body with
  | .ok layout => layout.params.length + layout.locals.length
  | .error _ => 0

theorem frameSize_le (h : Layout.ofFunction f body = .ok layout) (hslots : slotCount f body ≤ 32) :
    layout.frameSize ≤ 256 := by
  unfold slotCount at hslots
  rw [h] at hslots
  obtain ⟨-, ps, ts, -, -, rfl⟩ := Layout.ofFunction_eq_ok h
  have hlen : ((ps.map (·.1)).zip (Layout.slotsFrom 0 (ps.map (·.2)))).length +
      (Layout.slotsFrom ps.length ts).length = ps.length + ts.length := by
    simp [Layout.length_slotsFrom]
  have hsum : ps.length + ts.length ≤ 32 := hlen ▸ hslots
  show (8 * (ps.length + ts.length) + 15) / 16 * 16 ≤ 256
  omega

/-- **The code of a function over `int` returns what the function returns**, if it fits into memory. -/
theorem functionCode_returns (hint : isIntFunction scene.typeOf f body)
    (hslots : slotCount f body ≤ 32) (h : functionCode f body scene st = .ok (code, st'))
    (hroom : 4 * code.length ≤ 2 ^ 64) (hlen : args.length = f.params.length) (hv : Meaning.Returns f body args v)
    (address : Machine.Target → Address) (hargs : ∀ i (a : IntValue), args[i]? = some a → m.get (word i) = a) :
    ∃ pc m', Reaches address code (0, m) (pc, m') ∧ code[pc]? = some (.instr .ret) ∧
      Returned (272 + 3 * code.length) m v m' := by
  have hfresh := (functionCode_gen h).choose.fresh
  obtain ⟨layout, returnType, c, marks, hlayout, hreturns, hgen, rfl⟩ := functionCode_emits hint h
  obtain ⟨hnames, hparams⟩ := Layout.params_of_ofFunction hint hlayout
  have hplaced := (Layout.placed_of_ofFunction hint hlayout st).labelled (n := st.labels + 1)
  have hframe := frameSize_le hlayout hslots
  obtain ⟨n, env, hexec⟩ := hv
  let r : Run := {
    address
    code := functionFrame f.name layout.params layout.frameSize ⟨"return", st.labels + 1⟩ c
    top := m.sp
    frame := layout.frameSize
    once := hfresh.count_le
    frame_le := hframe
    room := by omega }
  unfold Meaning.callEnv at hexec
  rw [← hnames] at hexec
  have hknown := known_of_ofFunction hint hlayout
  have hbody : isIntStmt scene.typeOf (f.params.filterMap (·.name)) (.compound body) := by
    simp only [isIntFunction, Bool.and_eq_true] at hint
    exact hint.2
  obtain ⟨pc, m', hrun, hret, hreturned⟩ := r.returns rfl hgen hbody hreturns ⟨hknown, hplaced⟩ rfl
    (hparams ▸ (Layout.ofFunction_eq_ok hlayout).1) (hlen.trans hparams.symm) hargs hexec rfl
  have hlimit : r.limit ≤ 272 + 3 * r.code.length := by
    show 16 + layout.frameSize + 3 * r.code.length ≤ _
    omega
  exact ⟨pc, m', hrun, hret, hreturned.value, hreturned.sp, hreturned.regs,
    fun a ha => hreturned.mem a (ha.imp_right fun h => Nat.lt_of_le_of_lt hlimit h)⟩

/-! ## 5. Programs -/

section Programs

variable {typeOf : NodeId → Option CType} {scene : Scene} {st st' : State} {f : FunctionDef NodeId}
  {body : List (Stmt NodeId)}

/-- What is known of the program does not change the types of its nodes. -/
theorem typeOf_collect (h : collect scene x = .ok scene') : scene'.typeOf = scene.typeOf := by
  cases x with
  | function f | declaration s =>
    obtain ⟨_, -, heq⟩ := bind_ok h
    cases heq
    rfl

theorem typeOf_foldlM (h : xs.foldlM collect scene = .ok scene') : scene'.typeOf = scene.typeOf := by
  induction xs generalizing scene with
  | nil =>
    cases h
    rfl
  | cons x xs ih =>
    obtain ⟨scene1, h1, h2⟩ := bind_ok h
    rw [ih h2, typeOf_collect h1]

/-- The functions of a program that have a body. -/
def definitions (xs : List (External NodeId)) : List (FunctionDef NodeId × List (Stmt NodeId)) :=
  xs.filterMap fun
    | .function f => f.body.map (f, ·)
    | .declaration _ => none

theorem mem_definitions : (f, body) ∈ definitions xs ↔ .function f ∈ xs ∧ f.body = some body := by
  refine mem_filterMap.trans ⟨fun ⟨x, hx, h⟩ => ?_, fun h => ⟨_, h.1, by simp [h.2]⟩⟩
  cases x with
  | function g =>
    obtain ⟨_, hb, heq⟩ := Option.map_eq_some_iff.mp h
    cases heq
    exact ⟨hx, hb⟩
  | declaration s => cases h

/-- The code of functions, one after the other. -/
inductive FunctionsGen (scene : Scene) :
    State → List (FunctionDef NodeId × List (Stmt NodeId)) → List Code → State → Prop where
  | nil : FunctionsGen scene s [] [] s
  | cons (h : functionCode d.1 d.2 scene s = .ok (code, s1)) (hr : FunctionsGen scene s1 ds codes s') :
      FunctionsGen scene s (d :: ds) (code :: codes) s'

theorem functionsCode_gen (h : functionsCode xs scene st = .ok (lines, st')) :
    ∃ codes, lines = codes.flatten ∧ FunctionsGen scene st (definitions xs) codes st' := by
  induction xs generalizing lines st with
  | nil =>
    cases Yields.pure h
    exact ⟨[], rfl, .nil⟩
  | cons x xs ih =>
    cases x with
    | declaration s => exact ih h
    | function f =>
      rw [functionsCode] at h
      cases hb : f.body with rw [hb] at h
      | none =>
        rw [show definitions (.function f :: xs) = definitions xs by simp [definitions, hb]]
        exact ih h
      | some body =>
        rw [show definitions (.function f :: xs) = (f, body) :: definitions xs by simp [definitions, hb]]
        obtain ⟨code, st1, hcode, h⟩ := Yields.bind h
        obtain ⟨rest, st2, hrest, h⟩ := h.bind
        cases h.pure
        obtain ⟨codes, rfl, hcodes⟩ := ih hrest
        exact ⟨code :: codes, rfl, .cons hcode hcodes⟩

/-- The code of every function is a part of the code of all functions. -/
theorem FunctionsGen.flatten_eq_append (h : FunctionsGen scene st ds codes st') (hd : d ∈ ds) :
    ∃ front code back st1 st2, codes.flatten = front ++ code ++ back ∧ functionCode d.1 d.2 scene st1 = .ok (code, st2) := by
  induction h with
  | nil => cases hd
  | cons hcode _ ih =>
    rcases mem_cons.mp hd with rfl | hd
    · exact ⟨[], _, _, _, _, rfl, hcode⟩
    · obtain ⟨front, code, back, st1, st2, heq, hcode⟩ := ih hd
      exact ⟨_, code, back, st1, st2, by rw [flatten_cons, heq, ← append_assoc, ← append_assoc], hcode⟩

/-- The code of every function that has a body is a part of the code of the program. -/
theorem programCode_eq_append (hf : .function f ∈ unit.externals)
    (hb : f.body = some body) (h : programCode typeOf unit = .ok lines) :
    ∃ front code back scene st st', lines = front ++ code ++ back ∧
      unit.externals.foldlM collect { typeOf } = .ok scene ∧ functionCode f body scene st = .ok (code, st') := by
  obtain ⟨scene, hscene, h1⟩ := bind_ok h
  obtain ⟨objects, -, h2⟩ := bind_ok h1
  obtain ⟨⟨functions, state⟩, hfunctions, heq⟩ := bind_ok h2
  cases heq
  obtain ⟨codes, rfl, hcodes⟩ := functionsCode_gen hfunctions
  obtain ⟨front, code, back, st1, st2, heq, hcode⟩ := hcodes.flatten_eq_append (mem_definitions.mpr ⟨hf, hb⟩)
  exact ⟨objects ++ [.text] ++ front, code, back ++ stringsCode state.strings, scene, st1, st2,
    by simp only [heq, append_assoc], hscene, hcode⟩

theorem assembly_eq_ok {c : Compilation} {platform : Platform} {text : String} (h : c.assembly platform = .ok text) :
    ∃ lines, programCode (c.analysis.types[·]?) c.unit = .ok lines ∧ Machine.render lines = text := by
  unfold Compilation.assembly at h
  by_cases hplatform : (!platform.hasGenerator)
  · rw [if_pos hplatform] at h
    cases h
  by_cases hassembler : mentionsAssembler c.source.toList
  · rw [if_neg hplatform, if_pos hassembler] at h
    cases h
  rw [if_neg hplatform, if_neg hassembler] at h
  obtain ⟨lines, hlines, heq⟩ := bind_ok h
  cases heq
  exact ⟨lines, hlines, rfl⟩

/-- **The assembly of a program is right for its functions over `int`**: among its lines are those of the
    function, and whenever the function returns a value for some arguments, these lines, entered with the
    arguments in the first registers, reach their return with that value in the result register. -/
theorem assembly_returns {c : Compilation} {platform : Platform} {text : String}
    (h : c.assembly platform = .ok text) (hf : .function f ∈ c.unit.externals) (hb : f.body = some body)
    (hint : isIntFunction (c.analysis.types[·]?) f body = true) (hslots : slotCount f body ≤ 32) :
    ∃ front code back, programCode (c.analysis.types[·]?) c.unit = .ok (front ++ code ++ back) ∧
      Machine.render (front ++ code ++ back) = text ∧
      (∃ scene st st', functionCode f body scene st = .ok (code, st')) ∧
      ∀ (args : List IntValue) (v : IntValue) (address : Machine.Target → Address) (m : Machine.State),
        4 * code.length ≤ 2 ^ 64 → args.length = f.params.length → Meaning.Returns f body args v →
        (∀ i (a : IntValue), args[i]? = some a → m.get (word i) = a) →
        ∃ pc m', Reaches address code (0, m) (pc, m') ∧ code[pc]? = some (.instr .ret) ∧
          Returned (272 + 3 * code.length) m v m' := by
  obtain ⟨lines, hlines, rfl⟩ := assembly_eq_ok h
  obtain ⟨front, code, back, scene, st, st', rfl, hscene, hcode⟩ := programCode_eq_append hf hb hlines
  refine ⟨front, code, back, hlines, rfl, ⟨scene, st, st', hcode⟩, fun args v address m hroom hlen hv hargs => ?_⟩
  exact functionCode_returns (typeOf_foldlM hscene ▸ hint) hslots hcode hroom hlen hv address hargs

end Programs

/-! ## 6. A program that counts -/

namespace Counting

/-- The type `int` of a declaration. -/
def intSpec (a : NodeId) : TypeSpec NodeId := ⟨a, .named "int", [], [], false, none, none, none⟩

/-- The items of `{ while (y--) x++; return x; }`. -/
def body : List (Stmt NodeId) :=
  [.while_ (.update 3 .decrement (.ident 4 "y") true) (.expr (.update 5 .increment (.ident 6 "x") true)),
   .return_ (some (.ident 7 "x"))]

/-- The function `int f(int x, int y)` with this body. -/
def function : FunctionDef NodeId where
  returnType := intSpec 0
  name := "f"
  params := [⟨intSpec 1, some "x"⟩, ⟨intSpec 2, some "y"⟩]
  body := some body

/-- A source with this function only. -/
def source : String := "int f(int x, int y) \x7b while (y--) x++; return x; \x7d"

def unit : SourceUnit NodeId := ⟨[.function function]⟩

/-- The types of the expressions in it. -/
def types (a : NodeId) : Option CType := if 3 ≤ a ∧ a ≤ 7 then some ⟨"int", [], [], false⟩ else none

/-- What the front end knows of the source, as far as the generator asks for it. -/
def compilation : Compilation where
  file := "f.c"
  source := source
  text := source
  preprocessingTokens := []
  tokens := []
  unit := unit
  analysis := { types := .ofList ([3, 4, 5, 6, 7].map (·, ⟨"int", [], [], false⟩)) }
  trace := []
  macros := []

/-- A state of the machine with 2 and 3 in the first registers. -/
def state : Machine.State where
  regs := fun i => if i = 0 then 2 else if i = 1 then 3 else 0
  sp := 0x10000
  mem := fun _ => 0
  flags := ⟨false, false, false⟩

theorem types_compilation : (compilation.analysis.types[·]?) = types := by
  funext (a : Nat)
  show (Std.HashMap.ofList ([3, 4, 5, 6, 7].map (·, CType.mk "int" [] [] false)))[a]? = _
  unfold types
  by_cases h : 3 ≤ a ∧ a ≤ 7
  · have hmem : (a, CType.mk "int" [] [] false) ∈ [3, 4, 5, 6, 7].map (·, CType.mk "int" [] [] false) := by
      refine mem_map_of_mem ?_
      simp only [mem_cons]
      omega
    rw [Std.HashMap.getElem?_ofList_of_mem (beq_self_eq_true a) (by decide) hmem, if_pos h]
  · have hnot : ([3, 4, 5, 6, 7] : List Nat).contains a = false := by
      rw [contains_eq_mem, decide_eq_false_iff_not]
      intro hm
      simp only [mem_cons, not_mem_nil, or_false] at hm
      omega
    rw [Std.HashMap.getElem?_ofList_of_contains_eq_false hnot, if_neg h]

set_option maxRecDepth 20000 in
theorem length_programCode : (programCode types unit).toOption.map List.length = some 35 := by cbv

theorem not_mentionsAssembler : ¬ mentionsAssembler compilation.source.toList := by
  decide +kernel

theorem exists_lines : ∃ lines, programCode types unit = .ok lines ∧ lines.length = 35 := by
  have h := length_programCode
  cases hp : programCode types unit with rw [hp] at h
  | error failure => cases h
  | ok lines => exact ⟨lines, rfl, Option.some.inj h⟩

theorem exists_assembly : ∃ text, compilation.assembly ⟨"Darwin", "arm64"⟩ = .ok text := by
  obtain ⟨lines, hlines, -⟩ := exists_lines
  refine ⟨Machine.render lines, ?_⟩
  unfold Compilation.assembly
  rw [if_neg not_mentionsAssembler, types_compilation]
  show (programCode types unit >>= _) = _
  rw [hlines]
  rfl

/-- The code of the program adds 2 and 3. -/
theorem code_adds : ∃ code pc m', Reaches (fun _ => 0) code (0, state) (pc, m') ∧
    code[pc]? = some (.instr .ret) ∧ m'.get (word 0) = 5 ∧ m'.sp = state.sp := by
  obtain ⟨text, htext⟩ := exists_assembly
  obtain ⟨front, code, back, hlines, -, -, hrun⟩ := assembly_returns htext (.head _) rfl
    (by rw [types_compilation]; decide) (by decide)
  have hlen : code.length ≤ 35 := by
    obtain ⟨lines, hlines', hsum⟩ := exists_lines
    rw [types_compilation] at hlines
    cases hlines.symm.trans hlines'
    rw [List.length_append, List.length_append] at hsum
    omega
  have hargs : ∀ i (a : IntValue), [(2 : IntValue), 3][i]? = some a → state.get (word i) = a := by
    intro i a h
    match i, h with
    | 0, rfl => rfl
    | 1, rfl => rfl
  obtain ⟨pc, m', h, hret, hreturned⟩ := hrun [2, 3] 5 (fun _ => 0) state (by omega) rfl
    ⟨12, [[("x", some 5), ("y", some (-1))]], by decide⟩ hargs
  exact ⟨code, pc, m', h, hret, hreturned.value, hreturned.sp⟩

end Counting

end CCompiler.Codegen
