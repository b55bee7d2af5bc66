import CCompiler.Proofs.Codegen.Frame
import CCompiler.Proofs.Literal.Reading

/-!
# The code of expressions computes their values

The code of an expression over `int` puts the value of the expression into register 0, gives the locals their
new values and leaves the stack as it was, whatever the expression is and however deep it nests.
-/
namespace CCompiler.Codegen

open List
open Machine.State (get_set set set_regs_other)
open Machine (Label Line Instr Reg Width Address Memory Reaches At effects below place?)
open Meaning (Env IntValue eval arith?)
open Option (bind_eq_some_iff)
open BitVec (ofNat setWidth toNat_ofNat)

variable {r : Run} {scopes : Scopes} {env env' : Env} {depth pc : Nat} {m m' : Machine.State} {v : IntValue}
variable {u : IntValue} {z : Bool} {i : Instr} {op : UpdateOp} {m1 : Machine.State}

/-! ## 1. Straight code -/

/-- All but register 0 and the flags is as it was. -/
structure Quiet (m m' : Machine.State) : Prop where
  sp : m'.sp = m.sp
  mem : m'.mem = m.mem
  regs : ∀ i, i ≠ 0 → m'.regs i = m.regs i

/-- Straight code that gives register 0 a value made from those of registers 0 and 1. -/
def Turns (is : List Instr) (g : BitVec 64 → BitVec 64 → BitVec 64) : Prop :=
  ∀ (address : Machine.Target → Address) (m : Machine.State), ∃ m',
    effects address is m = some m' ∧ Quiet m m' ∧ m'.regs 0 = g (m.regs 0) (m.regs 1)

/-- A truth value in a register. -/
def bit (b : Bool) : BitVec 64 := if b then 1 else 0

section Turns

variable {w : Width}

theorem Quiet.refl (m : Machine.State) : Quiet m m := ⟨rfl, rfl, fun _ _ => rfl⟩

theorem Quiet.trans (h : Quiet m m1) (h' : Quiet m1 m2) : Quiet m m2 :=
  ⟨h'.sp.trans h.sp, h'.mem.trans h.mem, fun i hi => (h'.regs i hi).trans (h.regs i hi)⟩

/-- An instruction that writes register 0. -/
theorem turns_set {f : BitVec 64 → BitVec 64 → BitVec w.bits}
    (h : ∀ address m, i.effect address m = some (m.set ⟨0, w⟩ (f (m.regs 0) (m.regs 1)))) :
    Turns [i] fun x y => (f x y).setWidth 64 := by
  intro address m
  refine ⟨m.set ⟨0, w⟩ (f (m.regs 0) (m.regs 1)), ?_, ⟨rfl, rfl, fun i hi => ?_⟩, rfl⟩
  · rw [effects, h, Option.bind_some, effects]
  · exact set_regs_other m ⟨0, w⟩ _ hi

theorem turns_moveBit (b : Bool) : Turns [.moveBit (if b then 1 else 0)] fun _ _ => bit b := by
  cases b
  · exact turns_set (w := .word) (f := fun _ _ => 0) fun _ _ => rfl
  · exact turns_set (w := .word) (f := fun _ _ => 1) fun _ _ => rfl

/-- A comparison and the truth of a condition on it. -/
theorem turns_setIf (left right : BitVec 64 → BitVec 64 → BitVec n) (h : ∀ address m, i.effect address m =
      some { m with flags := .compare (left (m.regs 0) (m.regs 1)) (right (m.regs 0) (m.regs 1)) }) :
    Turns [i, .setIf c] fun x y => bit (c.relates (left x y) (right x y)) := by
  intro address m
  let flags := Machine.Flags.compare (left (m.regs 0) (m.regs 1)) (right (m.regs 0) (m.regs 1))
  refine ⟨set { m with flags } ⟨0, .word⟩ (if c.holds flags then 1 else 0), ?_, ⟨rfl, rfl, fun i hi => ?_⟩, ?_⟩
  · rw [effects, h, Option.bind_some, effects, Instr.effect, Option.bind_some, effects]
  · exact set_regs_other _ ⟨0, .word⟩ _ hi
  · show setWidth 64 (if c.holds flags then (1 : BitVec 32) else 0) = bit (c.relates _ _)
    rw [Machine.holds_compare]
    cases c.relates (left (m.regs 0) (m.regs 1)) (right (m.regs 0) (m.regs 1)) <;> rfl

theorem turns_not : Turns [.compareZero ⟨0, w⟩, .setIf .eq] fun x _ => bit (x.setWidth w.bits == 0) :=
  turns_setIf (fun x _ => x.setWidth w.bits) (fun _ _ => 0) fun _ _ => rfl

theorem turns_relation (c : Machine.Condition) : Turns [.compare ⟨1, w⟩ ⟨0, w⟩, .setIf c]
    fun x y => bit (c.relates (y.setWidth w.bits) (x.setWidth w.bits)) := by
  refine turns_setIf (fun _ y => y.setWidth w.bits) (fun x _ => x.setWidth w.bits) ?_
  intro address m
  rw [Instr.effect, if_pos rfl]
  rfl

end Turns

theorem Quiet.steady (h : Quiet m m') : r.Steady depth m m' :=
  ⟨h.sp, fun i hi _ => h.regs i hi, fun _ _ _ => by rw [h.mem]⟩

theorem setWidth_bit (b : Bool) : (bit b).setWidth 32 = Meaning.truth b := by cases b <;> rfl

/-- Two halves of a word. -/
theorem halves (hl : low < 65536) (hh : high < 65536) :
    (ofNat 32 low &&& ~~~(ofNat 32 65535 <<< 16) ||| ofNat 32 high <<< 16) = ofNat 32 (65536 * high + low) := by
  apply BitVec.eq_of_toNat_eq
  have hmask : (~~~(ofNat 32 65535 <<< 16)).toNat = 2 ^ 16 - 1 := by decide
  have hshift : (ofNat 32 high <<< 16).toNat = high <<< 16 := by
    rw [BitVec.toNat_shiftLeft, toNat_ofNat, Nat.mod_eq_of_lt (by omega : high < 2 ^ 32),
      Nat.shiftLeft_eq, Nat.mod_eq_of_lt (by omega)]
  rw [BitVec.toNat_or, BitVec.toNat_and, hmask, hshift, toNat_ofNat, toNat_ofNat,
    Nat.and_two_pow_sub_one_eq_mod, Nat.mod_eq_of_lt (by omega : low < 2 ^ 32),
    Nat.mod_eq_of_lt (by omega : low < 2 ^ 16), Nat.or_comm, ← Nat.shiftLeft_add_eq_or_of_lt hl,
    Nat.shiftLeft_eq, Nat.mod_eq_of_lt (by omega)]
  omega

/-- Straight code that puts a value into register 0 and leaves memory as it was. -/
def Run.Puts (r : Run) (is : List Instr) (m : Machine.State) (v : IntValue) : Prop :=
  ∃ m', effects r.address is m = some m' ∧ m'.get (word 0) = v ∧ m'.mem = m.mem ∧ ∀ depth, r.Steady depth m m'

theorem Run.Puts.of_effect (h : i.effect r.address m = some (m.set (word 0) v)) : r.Puts [i] m v :=
  ⟨_, by simp only [effects, h, Option.bind_some], get_set .., rfl, fun _ => .set (.inl rfl)⟩

variable {is : List Instr} {Q P : Machine.State → Prop} {q : Reg} {l done otherwise : Label} {more : Code}

theorem Turns.puts (h : Turns is g) (hv : (g (m.regs 0) (m.regs 1)).setWidth 32 = v) : r.Puts is m v := by
  obtain ⟨m', heff, hq, hm⟩ := h r.address m
  exact ⟨m', heff, (congrArg (setWidth 32) hm).trans hv, hq.mem, fun _ => hq.steady⟩

/-- A value is put into register 0 by halves. -/
theorem puts_immediate (value : Int) (m : Machine.State) : r.Puts (immediate value) m (BitVec.ofInt 32 value) := by
  have hofInt : BitVec.ofInt 32 value = ofNat 32 (value % 2 ^ 32).toNat := by
    apply BitVec.eq_of_toNat_eq
    rw [BitVec.toNat_ofInt, toNat_ofNat]
    omega
  have hbits : (value % 2 ^ 32).toNat < 2 ^ 32 := by omega
  unfold immediate
  rw [hofInt]
  generalize (value % 2 ^ 32).toNat = bits at hbits
  let m1 := m.set (word 0) (ofNat 32 (bits % 65536))
  have hfirst : (Instr.moveZero (word 0) (bits % 65536) 0).effect r.address m = some m1 := by
    show (if _ then some (m.set (word 0) (ofNat 32 _ <<< 0)) else _) = _
    rw [if_pos ⟨by omega, by decide, by decide⟩, BitVec.shiftLeft_zero]
  have hget : m1.get (word 0) = ofNat 32 (bits % 65536) := get_set ..
  have hsteady : ∀ depth, r.Steady depth m m1 := fun _ => .set (.inl rfl)
  by_cases hhigh : bits / 65536 = 0
  · refine ⟨m1, ?_, ?_, rfl, hsteady⟩
    · simp only [hhigh, if_true, effects, hfirst, Option.bind_some]
    · rw [hget, Nat.mod_eq_of_lt (by omega)]
  · let m2 := m1.set (word 0) (ofNat 32 bits)
    have hsecond : (Instr.moveKeep (word 0) (bits / 65536) 16).effect r.address m1 = some m2 := by
      have hval : (fun x : IntValue => x &&& ~~~(ofNat 32 65535 <<< 16) |||
          ofNat 32 (bits / 65536) <<< 16) (m1.get (word 0)) = ofNat 32 bits := by
        rw [hget]
        exact (halves (by omega) (by omega)).trans (by rw [Nat.div_add_mod])
      show (if _ then some (m1.set (word 0) _) else _) = _
      rw [if_pos ⟨by omega, by decide, by decide⟩]
      exact congrArg (fun x => some (m1.set (word 0) x)) hval
    refine ⟨m2, ?_, get_set .., rfl, fun d => (hsteady d).trans (.set (.inl rfl))⟩
    simp only [hhigh, if_false, effects, hfirst, hsecond, Option.bind_some]

/-- The effect of an operator on registers 1 and 0. -/
theorem effect_arith {op : ArithOp} {left right : IntValue} (hop : isIntArith op)
    (h1 : m.get (word 1) = left) (h0 : m.get (word 0) = right)
    (hv : arith? left right op = some v) :
    (arithInstr op).effect r.address m = some (m.set (word 0) v) := by
  have heval : (operation op).eval left right = v := by
    cases op with
    | rem => cases hop
    | div =>
      simp only [arith?] at hv
      split_ifs at hv
      exact Option.some.inj hv
    | shl | shr =>
      simp only [arith?] at hv
      split_ifs at hv with hlt
      rw [← Option.some.inj hv]
      simp only [operation, Machine.Operation.eval, Nat.mod_eq_of_lt hlt]
    | _ => exact Option.some.inj hv
  show some (m.set (word 0) ((operation op).eval (m.get (word 1)) (m.get (word 0)))) = _
  rw [h1, h0]
  exact congrArg (fun x => some (m.set (word 0) x)) heval

theorem puts_unary {op : UnaryOp} (h0 : m.get (word 0) = u)
    (hv : Meaning.unary? u op = some v) : r.Puts (unaryInstrs op) m v := by
  cases op with
  | plus =>
    cases hv
    exact ⟨m, rfl, h0, rfl, fun _ => .refl⟩
  | minus =>
    cases hv
    exact .of_effect (congrArg (fun x : IntValue => some (m.set (word 0) (-x))) h0)
  | complement =>
    cases hv
    exact .of_effect (congrArg (fun x : IntValue => some (m.set (word 0) (~~~x))) h0)
  | logicalNot =>
    cases hv
    exact turns_not.puts (h0 ▸ setWidth_bit _)
  | _ => cases hv

theorem effect_update (h0 : m.get (word 0) = u) (hv : Meaning.update? u op = some v) :
    (updateInstr op).effect r.address m = some (m.set (word 0) v) := by
  cases op with
  | increment =>
    cases hv
    exact congrArg (fun x : IntValue => some (m.set (word 0) (x + (1 : IntValue) : IntValue))) h0
  | decrement =>
    cases hv
    exact congrArg (fun x : IntValue => some (m.set (word 0) (x - (1 : IntValue) : IntValue))) h0
  | other => cases hv

/-! ## 2. Results of expressions -/

/-- What the code of an expression leads to: its value in register 0, the locals with their new values, and
    everything else as it was. -/
structure Run.Computed (r : Run) (scopes : Scopes) (env : Env) (v : IntValue)
    (depth : Nat) (m m' : Machine.State) : Prop where
  value : m'.get (word 0) = v
  agrees : r.Agrees scopes env m'.mem
  steady : r.Steady depth m m'

/-- Code computes an expression, from wherever it stands and however deep the stack is. -/
def Run.Computes (r : Run) (scopes : Scopes) (e : Expr NodeId) (c : Code) : Prop :=
  ∀ ⦃pc depth : Nat⦄ ⦃env env' : Env⦄ ⦃v : IntValue⦄ ⦃m : Machine.State⦄, At r.code pc c →
    eval e env = some (v, env') → r.Agrees scopes env m.mem → r.Framed depth m →
    depth + 3 * c.length ≤ r.limit → ∃ m', r.Leads (pc, m) (pc + c.length, m') ∧ r.Computed scopes env' v depth m m'

theorem setWidth_signExtend (v : IntValue) : (v.signExtend 64).setWidth 32 = v := by
  apply BitVec.eq_of_getLsbD_eq
  intro i hi
  rw [BitVec.getLsbD_setWidth, BitVec.getLsbD_signExtend]
  simp [hi, Nat.lt_of_lt_of_le hi]

/-- **A word that waits on the stack is taken back** behind any code that is steady. -/
theorem Run.spilled {mid : Code} {i : Nat} (hi : i = 0 ∨ i = 1)
    (hf : r.Framed depth m) (hlim : depth + 16 ≤ r.limit) (hl : r.Laid scopes) (ha : r.Agrees scopes env m.mem)
    (hmid : ∀ m1, r.Framed (depth + 16) m1 → r.Agrees scopes env m1.mem →
      m1.get (word 0) = m.get (word 0) → r.Does mid m1 fun m2 => r.Steady (depth + 16) m1 m2 ∧ Q m2) :
    r.Does (instrs spill ++ (mid ++ instrs (unspill i))) m fun m' => ∃ m2, Q m2 ∧ m'.mem = m2.mem ∧
      m'.get (word i) = m.get (word 0) ∧ (∀ j, j ≠ i → m'.regs j = m2.regs j) ∧ r.Steady depth m m' := by
  let m0 := m.set ⟨0, .long⟩ ((m.get (word 0)).signExtend 64)
  have hsteady0 : r.Steady depth m m0 := .set (.inl rfl)
  have hvalue : (m0.regs 0).setWidth 32 = m.get (word 0) := by
    exact setWidth_signExtend _
  have hlt := r.limit_lt
  have hdeep := hf.deep
  have hwaits := Run.waits (i := i) (Q := fun m2 => Q m2 ∧ r.Steady depth m0 { m2 with sp := m.sp })
    (hf.steady hsteady0) hlim fun m1 hf1 hregs hmem => by
      have hagrees : r.Agrees scopes env m1.mem := ha.congr fun p hp => by
        obtain ⟨-, -, hlow, hhigh⟩ := hl.inFrame p hp
        exact Memory.read_below_congr (by omega) fun e _ _ => hmem e (by omega) (by omega)
      have hget : m1.get (word 0) = m.get (word 0) := by
        rw [← hvalue, ← hregs]
        rfl
      refine (hmid m1 hf1 hagrees hget).mono fun m2 ⟨hs, hQ⟩ => ⟨hs.sp, ⟨hQ, rfl, fun j h0 h1 => ?_, ?_⟩, ?_⟩
      · exact (hs.regs j h0 h1).trans (congrFun hregs j)
      · exact fun e he hr => (hs.mem e he (by omega)).trans (hmem e he (by omega))
      · exact fun e h1 h2 => hs.mem e (by omega) (by omega)
  have hextend : effects r.address [.extend] m = some m0 := rfl
  refine (Run.does_instrs hextend rfl).append ?_
  rintro _ rfl
  refine hwaits.mono fun m' ⟨m2, ⟨hQ, hs⟩, hsp, hmem, hreg, hregs⟩ => ⟨m2, hQ, hmem, ?_, hregs, ?_⟩
  · exact (congrArg (setWidth 32) hreg).trans hvalue
  · refine hsteady0.trans ⟨hsp, fun j h0 h1 => ?_, hmem ▸ hs.mem⟩
    exact (hregs j (by omega)).trans (hs.regs j h0 h1)

section Cases

variable {a b : NodeId} {name : String} {slot : Slot} {c1 c2 c3 : Code} {e1 e2 e3 : Expr NodeId}

theorem Run.Computes.does (h : r.Computes scopes e1 c1) (he : eval e1 env = some (v, env'))
    (ha : r.Agrees scopes env m.mem) (hf : r.Framed depth m) (hlim : depth + 3 * c1.length ≤ r.limit) :
    r.Does c1 m (r.Computed scopes env' v depth m) := fun _ hat => h hat he ha hf hlim

/-- Straight code behind the code of an expression. -/
theorem Run.Computed.puts (hc : r.Computed scopes env u depth m m') (hp : r.Puts is m' v) :
    r.Does (instrs is) m' (r.Computed scopes env v depth m) := by
  obtain ⟨m'', heff, hget, hmem, hsteady⟩ := hp
  exact Run.does_instrs heff ⟨hget, hmem ▸ hc.agrees, hc.steady.trans (hsteady depth)⟩

/-- What is computed later is computed from the start. -/
theorem Run.Computed.after (hc : r.Computed scopes env v depth m1 m')
    (hs : r.Steady depth m m1) : r.Computed scopes env v depth m m' :=
  ⟨hc.value, hc.agrees, hs.trans hc.steady⟩

/-- An expression is computed behind the code of another. -/
theorem Run.Computed.then (hc : r.Computed scopes env u depth m m1) (hf : r.Framed depth m)
    (h : r.Computes scopes e2 c2) (he : eval e2 env = some (v, env'))
    (hlim : depth + 3 * c2.length ≤ r.limit) : r.Does c2 m1 (r.Computed scopes env' v depth m) :=
  (h.does he hc.agrees (hf.steady hc.steady) hlim).mono fun _ hc2 => hc2.after hc.steady

theorem Run.Computed.start (ha : r.Agrees scopes env m.mem) :
    r.Computed scopes env (m.get (word 0)) depth m m := ⟨rfl, ha, .refl⟩

theorem Run.Computes.int (hv : integerValue text = .ok value) :
    r.Computes scopes (.int a text) (instrs (immediate value)) := by
  intro pc depth env env' v m hat he ha hf hlim
  obtain ⟨u, hu, heq⟩ := bind_eq_some_iff.mp he
  cases heq
  obtain ⟨n, hn, hlt⟩ := bind_eq_some_iff.mp hu
  split_ifs at hlt
  cases hlt
  have hp := puts_immediate (r := r) (n : Int) m
  rw [Literal.integerValue_of_constant hn hv] at hat ⊢
  exact (Run.Computed.start ha).puts hp hat

theorem Run.Computes.unary {op : UnaryOp} (h : r.Computes scopes e1 c1) :
    r.Computes scopes (.unary a op e1) (c1 ++ instrs (unaryInstrs op)) := by
  intro pc depth env env' v m hat he ha hf hlim
  obtain ⟨⟨u, env1⟩, h1, h2⟩ := bind_eq_some_iff.mp he
  obtain ⟨w, hw, heq⟩ := bind_eq_some_iff.mp h2
  cases heq
  rw [length_append] at hlim
  exact (h.does h1 ha hf (by omega)).append (fun m1 hc => hc.puts (puts_unary hc.value hw)) hat

/-- A right operand is computed while the left one waits on the stack. -/
theorem Run.Computes.operand (h : r.Computes scopes e2 c2) (hl : r.Laid scopes)
    (he : eval e2 env = some (u, env')) (ha : r.Agrees scopes env m.mem)
    (hf : r.Framed depth m) (hlim : depth + 16 + 3 * c2.length ≤ r.limit) :
    r.Does (instrs spill ++ (c2 ++ instrs (unspill 1))) m fun m' =>
      m'.get (word 1) = m.get (word 0) ∧ r.Computed scopes env' u depth m m' := by
  have hspilled := Run.spilled (Q := fun m2 => m2.get (word 0) = u ∧ r.Agrees scopes env' m2.mem) (.inr rfl) hf
    (by omega) hl ha fun m1 hf1 ha1 _ => (h.does he ha1 hf1 hlim).mono fun m2 hc => ⟨hc.steady, hc.value, hc.agrees⟩
  refine hspilled.mono fun m3 ⟨m2, ⟨hu, ha2⟩, hmem, hget, hregs, hsteady⟩ => ⟨hget, ?_, hmem ▸ ha2, hsteady⟩
  exact (congrArg (setWidth 32) (hregs 0 (by decide))).trans hu

theorem Run.Computes.binary {op : BinaryOp} (hop : isIntBinary op) (hand : op ≠ .logicalAnd)
    (hor : op ≠ .logicalOr) (hl : r.Laid scopes) (h1 : r.Computes scopes e1 c1)
    (h2 : r.Computes scopes e2 c2) : r.Computes scopes (.binary a op e1 e2)
      (c1 ++ instrs spill ++ c2 ++ instrs (unspill 1 ++ binaryInstrs op)) := by
  intro pc depth env env' v m hat he ha hf hlim
  obtain ⟨⟨left, env1⟩, hleft, he⟩ := bind_eq_some_iff.mp he
  have hputs : ∃ right, eval e2 env1 = some (right, env') ∧ 0 < (binaryInstrs op).length ∧
      ∀ m', m'.get (word 1) = left → m'.get (word 0) = right → r.Puts (binaryInstrs op) m' v := by
    cases op with
    | arith op =>
      obtain ⟨⟨right, env2⟩, hright, hv⟩ := bind_eq_some_iff.mp he
      obtain ⟨w, hw, heq⟩ := bind_eq_some_iff.mp hv
      cases heq
      exact ⟨right, hright, Nat.one_pos, fun m' hm1 hm0 => .of_effect (effect_arith hop hm1 hm0 hw)⟩
    | relation op =>
      obtain ⟨⟨right, env2⟩, hright, heq⟩ := bind_eq_some_iff.mp he
      cases heq
      exact ⟨right, hright, Nat.two_pos, fun m' hm1 hm0 =>
        (turns_relation (condition op)).puts (by subst hm1 hm0; cases op <;> exact setWidth_bit _)⟩
    | logicalAnd => exact absurd rfl hand
    | logicalOr => exact absurd rfl hor
    | other => cases hop
  obtain ⟨right, hright, hpos, hputs⟩ := hputs
  have hcode : c1 ++ instrs spill ++ c2 ++ instrs (unspill 1 ++ binaryInstrs op) =
      c1 ++ (instrs spill ++ (c2 ++ instrs (unspill 1)) ++ instrs (binaryInstrs op)) := by
    simp [instrs]
  rw [hcode] at hat hlim ⊢
  simp only [length_append, length_instrs, spill, unspill, length_cons] at hlim
  refine (h1.does hleft ha hf (by omega)).append (fun m1 hc1 => ?_) hat
  refine (h2.operand hl hright hc1.agrees (hf.steady hc1.steady) (by omega)).append fun m2 hm2 => ?_
  obtain ⟨hget, hc2⟩ := hm2
  exact (hc2.after hc1.steady).puts (hputs m2 (hget.trans hc1.value) hc2.value)

section Locals

variable (hl : r.Laid scopes) (hs : slotOf scopes name = some slot)

include hl hs

/-- A local is loaded. -/
theorem Run.Computed.load (ha : r.Agrees scopes env m.mem) (hf : r.Framed depth m)
    (hv : Meaning.read env name = some v) :
    r.Does (instrs [.loadSlot (word 0) slot.offset]) m (r.Computed scopes env v depth m) := by
  have heff := Run.effect_loadSlot (hl.slotOf hs) hf
  rw [ha.read hs hv] at heff
  exact (Run.Computed.start ha).puts (.of_effect heff)

theorem Run.Computes.ident : r.Computes scopes (.ident a name) (instrs [.loadSlot (word 0) slot.offset]) := by
  intro pc depth env env' v m hat he ha hf hlim
  obtain ⟨u, hu, heq⟩ := bind_eq_some_iff.mp he
  cases heq
  exact Run.Computed.load hl hs ha hf hu hat

/-- A store into a local behind the code of an expression. -/
theorem Run.Computed.stores (hc : r.Computed scopes env u depth m m') (hf : r.Framed depth m)
    (hlim : depth ≤ r.limit) (hst : Meaning.store name u env = some env') :
    r.Does (instrs [.storeSlot (word 0) slot.offset]) m' (r.Computed scopes env' u depth m) := by
  have hslot := hl.slotOf hs
  have hf' := hf.steady hc.steady
  have heff := Run.effect_storeSlot hslot hf' 0
  rw [hc.value] at heff
  have hall : effects r.address [.storeSlot (word 0) slot.offset] m' = some (m'.store .word (r.slot slot) u) := by
    simp only [effects, heff, Option.bind_some]
  have hmem : r.Agrees scopes env' (m'.store .word (r.slot slot) u).mem := hc.agrees.store hl hs hst
  exact Run.does_instrs hall ⟨hc.value, hmem, hc.steady.trans (.store hslot hf' hlim u)⟩

theorem Run.Computes.assign (h : r.Computes scopes e1 c1) : r.Computes scopes (.assign a .plain (.ident b name) e1)
      (c1 ++ instrs [.storeSlot (word 0) slot.offset]) := by
  intro pc depth env env' v m hat he ha hf hlim
  obtain ⟨⟨u, env1⟩, h1, h2⟩ := bind_eq_some_iff.mp he
  obtain ⟨env2, hst, heq⟩ := bind_eq_some_iff.mp h2
  cases heq
  rw [length_append] at hlim
  exact (h.does h1 ha hf (by omega)).append (fun m1 hc => hc.stores hl hs hf (by omega) hst) hat

theorem Run.Computes.assignOp {op : ArithOp} (hop : isIntArith op) (h : r.Computes scopes e1 c1) :
    r.Computes scopes (.assign a (.compound op) (.ident b name) e1)
      (instrs (.loadSlot (word 0) slot.offset :: spill) ++ c1 ++
        instrs (unspill 1 ++ [arithInstr op, .storeSlot (word 0) slot.offset])) := by
  intro pc depth env env' v m hat he ha hf hlim
  obtain ⟨old, hold, h1⟩ := bind_eq_some_iff.mp he
  obtain ⟨⟨u, env1⟩, hu, h2⟩ := bind_eq_some_iff.mp h1
  obtain ⟨new, hnew, h3⟩ := bind_eq_some_iff.mp h2
  obtain ⟨env2, hst, heq⟩ := bind_eq_some_iff.mp h3
  cases heq
  have hcode : instrs (.loadSlot (word 0) slot.offset :: spill) ++ c1 ++
      instrs (unspill 1 ++ [arithInstr op, .storeSlot (word 0) slot.offset]) =
      instrs [.loadSlot (word 0) slot.offset] ++ (instrs spill ++ (c1 ++ instrs (unspill 1)) ++
        (instrs [arithInstr op] ++ instrs [.storeSlot (word 0) slot.offset])) := by
    simp [instrs]
  rw [hcode] at hat hlim ⊢
  simp only [length_append, length_instrs, spill, unspill, length_cons] at hlim
  refine (Run.Computed.load hl hs ha hf hold).append (fun m1 hc1 => ?_) hat
  refine (h.operand hl hu hc1.agrees (hf.steady hc1.steady) (by omega)).append fun m2 hm2 => ?_
  obtain ⟨hget, hc2⟩ := hm2
  refine ((hc2.after hc1.steady).puts (.of_effect ?_)).append fun m3 hc3 => hc3.stores hl hs hf (by omega) hst
  exact effect_arith hop (hget.trans hc1.value) hc2.value hnew

theorem Run.Computes.update : r.Computes scopes (.update a op (.ident b name) false)
      (instrs [.loadSlot (word 0) slot.offset, updateInstr op, .storeSlot (word 0) slot.offset]) := by
  intro pc depth env env' v m hat he ha hf hlim
  obtain ⟨old, hold, h1⟩ := bind_eq_some_iff.mp he
  obtain ⟨new, hnew, h2⟩ := bind_eq_some_iff.mp h1
  obtain ⟨env1, hst, heq⟩ := bind_eq_some_iff.mp h2
  cases heq
  refine (Run.Computed.load hl hs ha hf hold).append (fun m1 hc1 => ?_) hat
  refine (hc1.puts (.of_effect (effect_update hc1.value hnew))).append fun m2 hc2 => ?_
  exact hc2.stores hl hs hf (by omega) hst

theorem Run.Computes.postUpdate : r.Computes scopes (.update a op (.ident b name) true)
      (instrs (.loadSlot (word 0) slot.offset :: spill ++
        [updateInstr op, .storeSlot (word 0) slot.offset] ++ unspill 0)) := by
  intro pc depth env env' v m hat he ha hf hlim
  obtain ⟨old, hold, h1⟩ := bind_eq_some_iff.mp he
  obtain ⟨new, hnew, h2⟩ := bind_eq_some_iff.mp h1
  obtain ⟨env1, hst, heq⟩ := bind_eq_some_iff.mp h2
  cases heq
  have hlim : depth + 3 * 8 ≤ r.limit := hlim
  refine (Run.Computed.load hl hs ha hf hold).append (fun m1 hc1 => ?_) hat
  have hspilled := Run.spilled (.inl rfl) (hf.steady hc1.steady) (by omega) hl hc1.agrees fun m2 hf2 ha2 hget2 =>
      (((Run.Computed.start ha2).puts (.of_effect (effect_update (hget2.trans hc1.value) hnew))).append
        fun m3 hc3 => hc3.stores hl hs hf2 (by omega) hst).mono fun m4 hc4 => ⟨hc4.steady, hc4.agrees⟩
  refine hspilled.mono fun m3 hm3 => ?_
  obtain ⟨m2, ha2, hmem, hget, -, hsteady⟩ := hm3
  exact ⟨hget.trans hc1.value, hmem ▸ ha2, hc1.steady.trans hsteady⟩

end Locals

theorem Run.Computes.comma (h1 : r.Computes scopes e1 c1) (h2 : r.Computes scopes e2 c2) :
    r.Computes scopes (.comma a e1 e2) (c1 ++ c2) := by
  intro pc depth env env' v m hat he ha hf hlim
  obtain ⟨⟨u, env1⟩, he1, he2⟩ := bind_eq_some_iff.mp he
  rw [length_append] at hlim
  exact (h1.does he1 ha hf (by omega)).append (fun m1 hc1 => hc1.then hf h2 he2 (by omega)) hat

/-- The value of a logical operator stands in register 0. -/
theorem Run.Computed.verdict {b : Bool}
    (hc : r.Computed scopes env u depth m m') (hq : Quiet m' m1) (hv : m1.regs 0 = bit b) :
    r.Computed scopes env (Meaning.truth b) depth m m1 :=
  ⟨(congrArg (setWidth 32) hv).trans (setWidth_bit b), hq.mem ▸ hc.agrees, hc.steady.trans hq.steady⟩

/-- Branches if a register is zero, or if it is not. -/
def branchIf (z : Bool) (q : Reg) (l : Label) : Instr :=
  if z then .branchZero q l else .branchNonzero q l

theorem reaches_taken (h : At r.code pc (.instr (branchIf z q l) :: more))
    (hl : place? r.code l = some target) (hz : (m.get q == 0) = z) : r.Leads (pc, m) (target, m) := by
  cases z with
  | true => exact h.reaches_zero hl (beq_iff_eq.mp hz)
  | false => exact h.reaches_nonzero hl (beq_eq_false_iff_ne.mp hz)

theorem reaches_passed (h : At r.code pc (.instr (branchIf z q l) :: more)) (hz : (m.get q == 0) ≠ z) :
    r.Leads (pc, m) (pc + 1, m) := by
  cases z with
  | true => exact h.reaches_zero_not fun h0 => hz (beq_iff_eq.mpr h0)
  | false => exact h.reaches_nonzero_not (beq_iff_eq.mp (Bool.eq_true_of_not_eq_false hz))

/-- Both ways through the end of a logical operator. -/
theorem reaches_verdict (hat : At r.code pc (verdictCode z l done)) (m : Machine.State) :
    (∃ m', r.Leads (pc, m) (pc + 5, m') ∧ Quiet m m' ∧ m'.regs 0 = bit z) ∧
      ∃ p m', place? r.code l = some p ∧ r.Leads (p, m) (pc + 5, m') ∧ Quiet m m' ∧ m'.regs 0 = bit !z := by
  have hl := hat.tail.tail
  have hdone := hl.tail.tail
  have hend := hdone.place (r.once done)
  constructor
  · obtain ⟨m1, heff, hq, hv⟩ := turns_moveBit z r.address m
    have hfirst : At r.code pc (instrs [.moveBit (if z then 1 else 0)]) := hat.left
    have hrun : r.Leads (pc, m) (pc + 1, m1) := hfirst.reaches_instrs heff
    exact ⟨m1, (hrun.trans (hat.tail.reaches_branch hend m1)).trans (hdone.reaches_label m1), hq, hv⟩
  · obtain ⟨m1, heff, hq, hv⟩ := turns_moveBit (!z) r.address m
    have hsecond : At r.code (pc + 1 + 1 + 1) (instrs [.moveBit (if !z then 1 else 0)]) := hl.tail.left
    have hrun : r.Leads (pc + 3, m) (pc + 4, m1) := hsecond.reaches_instrs heff
    exact ⟨_, m1, hl.place (r.once l), ((hl.reaches_label m).trans hrun).trans (hdone.reaches_label m1), hq, hv⟩

/-- **A logical operator looks at its right operand only where the left one does not decide.** -/
theorem Run.Does.logical {q' : Reg} (h : r.Does c1 m P)
    (hleft : ∀ m1, P m1 → (m1.get q == 0) = z → ∀ m', Quiet m1 m' → m'.regs 0 = bit !z → Q m')
    (hright : ∀ m1, P m1 → (m1.get q == 0) ≠ z → r.Does c2 m1 fun m2 =>
      ∀ m', Quiet m2 m' → m'.regs 0 = bit (m2.get q' != 0) → Q m') :
    r.Does (c1 ++ [Line.instr (branchIf z q l)] ++ c2 ++ [Line.instr (branchIf z q' l)] ++
      verdictCode z l done) m Q := by
  intro pc hat
  have hlen : (verdictCode z l done).length = 5 := rfl
  simp only [append_assoc, At.append_iff, length_append, length_singleton, hlen] at hat ⊢
  obtain ⟨hat1, hbr1, hat2, hbr2, hend⟩ := hat
  obtain ⟨m1, hrun1, hP⟩ := h hat1
  by_cases hz : (m1.get q == 0) = z
  · obtain ⟨-, p, m2, hp, hrun2, hq, hv⟩ := reaches_verdict hend m1
    exact ⟨m2, ((hrun1.trans (reaches_taken hbr1 hp hz)).trans hrun2).cast (by omega), hleft m1 hP hz m2 hq hv⟩
  · obtain ⟨m2, hrun2, hQ⟩ := hright m1 hP hz hat2
    have hfirst := (hrun1.trans (reaches_passed hbr1 hz)).trans hrun2
    obtain ⟨⟨m3, hrun3, hq3, hv3⟩, p, m4, hp, hrun4, hq4, hv4⟩ := reaches_verdict hend m2
    by_cases hzr : (m2.get q' == 0) = z
    · refine ⟨m4, ((hfirst.trans (reaches_taken hbr2 hp hzr)).trans hrun4).cast (by omega), hQ m4 hq4 ?_⟩
      rw [hv4, bne, hzr]
    · refine ⟨m3, ((hfirst.trans (reaches_passed hbr2 hzr)).trans hrun3).cast (by omega), hQ m3 hq3 ?_⟩
      rw [hv3, bne, Bool.not_eq.mpr hzr]

/-- **One of two branches is taken.** -/
theorem Run.Does.conditional (h : r.Does c1 m P) (hzero : ∀ m1, P m1 → m1.get q = 0 → r.Does c3 m1 Q)
    (hother : ∀ m1, P m1 → m1.get q ≠ 0 → r.Does c2 m1 Q) :
    r.Does (c1 ++ [Line.instr (.branchZero q otherwise)] ++ c2 ++ [Line.instr (.branch done)] ++
      [Line.label otherwise] ++ c3 ++ [Line.label done]) m Q := by
  intro pc hat
  simp only [append_assoc, At.append_iff, length_append, length_singleton] at hat ⊢
  obtain ⟨hat1, hbr, hat2, hjump, helse, hat3, hdone⟩ := hat
  obtain ⟨m1, hrun1, hP⟩ := h hat1
  have hend : ∀ m, r.Leads (_, m) (_, m) := hdone.reaches_label
  by_cases hz : m1.get q = 0
  · have hbranch : r.Leads (_, m1) (_, m1) := hbr.reaches_zero (helse.place (r.once _)) hz
    have hlabel : r.Leads (_, m1) (_, m1) := helse.reaches_label m1
    obtain ⟨m2, hrun2, hQ⟩ := hzero m1 hP hz hat3
    exact ⟨m2, ((((hrun1.trans hbranch).trans hlabel).trans hrun2).trans (hend m2)).cast (by omega), hQ⟩
  · have hpass : r.Leads (_, m1) (_, m1) := hbr.reaches_zero_not hz
    obtain ⟨m2, hrun2, hQ⟩ := hother m1 hP hz hat2
    have hbranch : r.Leads (_, m2) (_, m2) := hjump.reaches_branch (hdone.place (r.once _)) m2
    exact ⟨m2, ((((hrun1.trans hpass).trans hrun2).trans hbranch).trans (hend m2)).cast (by omega), hQ⟩

/-- The left operand of a logical operator decides where it is zero and the operator is `&&`, or is not zero
    and the operator is `||`. -/
theorem eval_logical (h : eval (.binary a (if z then .logicalAnd else .logicalOr) e1 e2) env = some (v, env')) :
    ∃ u env1, eval e1 env = some (u, env1) ∧ if (u == 0) = z then v = Meaning.truth !z ∧ env' = env1
      else ∃ u', eval e2 env1 = some (u', env') ∧ v = Meaning.truth (u' != 0) := by
  obtain ⟨⟨u, env1⟩, hu, h⟩ := bind_eq_some_iff.mp h
  refine ⟨u, env1, hu, ?_⟩
  cases z <;> simp at h ⊢ <;> split_ifs at h ⊢
  all_goals simp only [bind_eq_some_iff, Option.some.injEq, Prod.mk.injEq] at h
  all_goals grind [Meaning.truth]

theorem Run.Computes.logical (h1 : r.Computes scopes e1 c1) (h2 : r.Computes scopes e2 c2) :
    r.Computes scopes (.binary a (if z then .logicalAnd else .logicalOr) e1 e2)
      (c1 ++ [Line.instr (branchIf z (word 0) l)] ++ c2 ++ [Line.instr (branchIf z (word 0) l)] ++
        verdictCode z l done) := by
  intro pc depth env env' v m hat he ha hf hlim
  simp only [length_append] at hlim
  obtain ⟨left, env1, hleft, he⟩ := eval_logical he
  refine (h1.does hleft ha hf (by omega)).logical (fun m1 hc1 hz m' hq hv => ?_) (fun m1 hc1 hz => ?_) hat
  · rw [hc1.value] at hz
    obtain ⟨rfl, rfl⟩ := (if_pos hz).mp he
    exact hc1.verdict hq hv
  · rw [hc1.value] at hz
    obtain ⟨right, hright, rfl⟩ := (if_neg hz).mp he
    refine (h2.does hright hc1.agrees (hf.steady hc1.steady) (by omega)).mono fun m2 hc2 m' hq hv => ?_
    exact (hc2.after hc1.steady).verdict hq (hc2.value ▸ hv)

theorem Run.Computes.conditional (h1 : r.Computes scopes e1 c1) (h2 : r.Computes scopes e2 c2)
    (h3 : r.Computes scopes e3 c3) :
    r.Computes scopes (.conditional a e1 e2 e3)
      (c1 ++ [Line.instr (.branchZero (word 0) otherwise)] ++ c2 ++ [Line.instr (.branch done)] ++
        [Line.label otherwise] ++ c3 ++ [Line.label done]) := by
  intro pc depth env env' v m hat he ha hf hlim
  simp only [length_append] at hlim
  obtain ⟨⟨u, env1⟩, hu, he⟩ := bind_eq_some_iff.mp he
  refine (h1.does hu ha hf (by omega)).conditional (fun m1 hc1 hz => ?_) (fun m1 hc1 hz => ?_) hat
  · have hzero : u = 0 := hc1.value.symm.trans hz
    exact hc1.then hf h3 ((if_neg (not_not.mpr hzero)).symm.trans he) (by omega)
  · have hother : u ≠ 0 := fun h0 => hz (hc1.value.trans h0)
    exact hc1.then hf h2 ((if_pos hother).symm.trans he) (by omega)

end Cases

end CCompiler.Codegen
