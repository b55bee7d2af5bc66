import CCompiler.Proofs.Codegen.Generator

/-!
# The code of statements runs them

A run of a statement over `int` is followed by its code, step for step: where the statement ends normally the
code reaches its end, and where it breaks, continues or returns the code reaches the label for it. The locals
have the same values in both, and the code leaves everything outside the frame as it was.

* `Run.Housed` -- the locals are known, and each has a cell of its own;
* `Run.Ends` -- where the code stands when a statement has ended;
* `Run.Follows`, `Run.FollowsItems`, `Run.FollowsLoop` -- the code follows all runs up to some depth;
* `Run.follows` -- it follows all runs.
-/
namespace CCompiler.Codegen

open List
open Machine (Label Line Instr Reg Width Address Memory Reaches At effects below place?)
open Meaning (Env IntValue exec execItems execLoop)
open Option (bind_eq_some_iff)
open Bool (and_eq_true)

variable {scene : Scene} {r : Run} {body : Body} {st st' : State} {s : Stmt NodeId} {c : Code} {pc n : Nat}
  {locals : List String} {marks : List Nat} {env env' : Env} {o : Meaning.Outcome} {m m' : Machine.State}
  {scopes : Scopes} {fin fin' p q : Nat}
variable {condition : Expr NodeId}

/-! ## 1. Where statements end -/

/-- The place of a label in the code of a run. -/
abbrev Run.Marks (r : Run) (l : Label) (p : Nat) : Prop := place? r.code l = some p

/-- The function returns an `int`, and the labels to which its statements lead stand in the code. -/
structure Run.Knows (r : Run) (body : Body) : Prop where
  returns : isInt body.returnType = true
  exit : ∃ p, r.Marks body.exit p
  next : ∀ loop, body.loop = some loop → ∃ p, r.Marks loop.next p
  done : ∀ loop, body.loop = some loop → ∃ p, r.Marks loop.done p

/-- Where the code stands when a statement has ended: at the end of its code, at a label of the loop around
    it, or at the exit of the function with the value that is returned. -/
def Run.Ends (r : Run) (body : Body) (fin : Nat) (o : Meaning.Outcome) (p : Nat) (m : Machine.State) : Prop :=
  match o with
  | .normal => p = fin
  | .break_ => ∃ loop, body.loop = some loop ∧ r.Marks loop.done p
  | .continue_ => ∃ loop, body.loop = some loop ∧ r.Marks loop.next p
  | .return_ v => r.Marks body.exit p ∧ m.get (word 0) = v

/-- The depth of the stack between two statements. -/
def Run.floor (r : Run) : Nat := 16 + r.frame

/-- The code from some place on follows a statement that ends somehow, in the scopes that it leaves. -/
def Run.Reached (r : Run) (body : Body) (pc fin : Nat) (o : Meaning.Outcome)
    (scopes : Scopes) (env : Env) (m : Machine.State) : Prop :=
  ∃ p m', r.Leads (pc, m) (p, m') ∧ r.Ends body fin o p m' ∧ r.Agrees scopes env m'.mem ∧ r.Steady r.floor m m'

/-- What is reached later is reached from the start. -/
theorem Run.Reached.after (h : r.Reached body q fin o scopes env m') (hrun : r.Leads (pc, m) (q, m'))
    (hs : r.Steady r.floor m m') : r.Reached body pc fin o scopes env m := by
  obtain ⟨p, m'', hp, hends, ha, hsteady⟩ := h
  exact ⟨p, m'', hrun.trans hp, hends, ha, hs.trans hsteady⟩

theorem At.length_le (h : At code pc piece) : piece.length ≤ code.length := by
  obtain ⟨front, back, rfl, -⟩ := h
  simp only [length_append]
  omega

/-- The code of an expression between two statements. -/
theorem Run.Computes.run {e : Expr NodeId} {v : IntValue}
    (h : r.Computes scopes e c) (hat : At r.code pc c) (he : Meaning.eval e env = some (v, env'))
    (ha : r.Agrees scopes env m.mem) (hf : r.Framed r.floor m) :
    ∃ m', r.Leads (pc, m) (pc + c.length, m') ∧ r.Computed scopes env' v r.floor m m' := by
  refine h hat he ha hf ?_
  have := At.length_le hat
  unfold Run.floor Run.limit
  omega

theorem At.cons_cons_iff : At code pc (x :: y :: rest) ↔ At code pc [x] ∧ At code (pc + 1) (y :: rest) :=
  (At.append_iff : At code pc ([x] ++ y :: rest) ↔ _)

/-! ## 2. Locals -/

/-- The locals are known, and each has a cell of its own. -/
structure Run.Housed (r : Run) (locals : List String) (st : State) : Prop where
  known : Known locals st.scopes
  placed : Placed r.frame st

namespace Run.Housed

theorem labelled (h : r.Housed locals st) : r.Housed locals (st.labelled n) := ⟨h.known, h.placed.labelled⟩

theorem opened (h : r.Housed locals st) : r.Housed locals st.opened := ⟨h.known, h.placed.opened⟩

theorem kept (h : r.Housed locals st) (hk : Kept outer st c st') (hs : st'.scopes = st.scopes) :
    r.Housed locals st' := ⟨fun name hn => hs ▸ h.known name hn, hk.placed h.placed⟩

theorem calm (h : r.Housed locals st) (hc : Calm st c st') : r.Housed locals st' := h.kept hc.kept hc.scopes

theorem mono (h : r.Housed names st) (hsub : ∀ name ∈ locals, name ∈ names) :
    r.Housed locals st := ⟨fun name hm => h.known name (hsub name hm), h.placed⟩

/-- A declaration makes its name known. -/
theorem declared {slot : Slot} {pending : List Slot} (name : String) (h : r.Housed locals st)
    (hp : st.pending = slot :: pending) : r.Housed (name :: locals) (st.declared name slot pending) := by
  refine ⟨fun x hx => ?_, (kept_declared hp).placed h.placed⟩
  rw [State.slotOf_declared]
  by_cases hxn : x = name
  · exact ⟨slot, by simp [hxn], h.placed.isInt_pending hp⟩
  · obtain ⟨old, ho, hold⟩ := h.known x ((mem_cons.mp hx).resolve_left hxn)
    exact ⟨old, by simp [hxn, ho], hold⟩

end Run.Housed

/-- The code of an expression over the locals. -/
theorem ExprGen.of_housed {e : Expr NodeId} {t : CType} (h : ExprGen scene st e c t st')
    (he : isIntExpr scene.typeOf locals e) (hr : r.Housed locals st) :
    isInt t ∧ r.Computes st.scopes e c := ExprGen.computes he hr.known (.of_placed hr.placed) h rfl

/-- **A statement that is no declaration keeps the scopes.** -/
theorem StmtGen.scopes_eq (h : StmtGen scene body st s c marks st')
    (hs : isIntStmt scene.typeOf locals s) : st'.scopes = st.scopes := by
  induction h using @StmtGen.rec scene _ (fun _ _ _ _ _ _ _ => True) (fun _ _ _ _ _ _ _ => True) with
  | silent | leave | break_ | continue_ => rfl
  | expr h | return_ h => exact h.calm.scopes
  | compound h => exact (StmtGen.group h).kept.outer
  | ifThen hc _ _ _ ih | while_ hc _ _ _ ih =>
    simp only [isIntStmt, and_eq_true] at hs
    exact (ih hs.2).trans hc.calm.scopes
  | ifElse hc _ _ _ _ _ iht ihe =>
    simp only [isIntStmt, and_eq_true] at hs
    exact ((ihe hs.2).trans (iht hs.1.2)).trans hc.calm.scopes
  | doWhile _ hc _ _ ih =>
    simp only [isIntStmt, and_eq_true] at hs
    exact hc.calm.scopes.trans (ih hs.2)
  | for_ hi hc _ hb hp =>
    exact ((hp.kept.outer.trans hb.kept.outer).trans hc.kept.outer).trans hi.kept.outer
  | group | object | init => simp [isIntStmt] at hs
  | _ => trivial

theorem Run.Housed.after (hr : r.Housed locals st) (h : StmtGen scene body st s c marks st')
    (hs : isIntStmt scene.typeOf locals s) : r.Housed locals st' := hr.kept h.kept (h.scopes_eq hs)

/-! ## 3. Declarations -/

/-- A declaration ends normally, with its locals in the innermost scope. -/
def Run.Declares (r : Run) (st : State) (c : Code) (st' : State)
    (run : Nat → Env → Option (Meaning.Outcome × Env)) : Prop :=
  ∀ ⦃n pc : Nat⦄ ⦃env env' : Env⦄ ⦃o : Meaning.Outcome⦄ ⦃m : Machine.State⦄, At r.code pc c →
    run n env = some (o, env') → r.Agrees st.scopes env m.mem → r.Framed r.floor m →
      o = .normal ∧ ∃ m', r.Leads (pc, m) (pc + c.length, m') ∧ r.Agrees st'.scopes env' m'.mem ∧
        r.Steady r.floor m m'

/-- The code of the declaration of an `int`. -/
theorem StmtGen.object_declares (h : StmtGen scene body st s c marks st')
    (hs : isIntObject scene.typeOf locals s) (hr : r.Housed locals st) :
    r.Housed (objectNames s ++ locals) st' ∧ r.Declares st c st' (exec · s) := by
  cases h with
  | object hpend =>
    refine ⟨hr.declared _ hpend, fun n pc env env' o m hat he ha hf => ?_⟩
    cases n with
    | zero => cases he
    | succ n =>
      cases he
      exact ⟨rfl, m, .refl _, ha.declare, .refl⟩
  | @init _ _ _ _ name value _ _ _ slot pending code _ _ _ _ hpend h hu hc hw =>
    simp only [isIntObject, and_eq_true] at hs
    have hint := hr.placed.isInt_pending hpend
    have hr1 := hr.declared name hpend
    have hcode := (h.of_housed hs.2 hr1).2
    cases hc.int (isInt_of_note (isIntExpr_note hs.2) hu) hint
    cases width_eq_word hint hw
    refine ⟨hr1.calm h.calm, fun n pc env env' o m hat he ha hf => ?_⟩
    rw [append_nil] at hat ⊢
    cases n with
    | zero => cases he
    | succ n =>
      obtain ⟨⟨v, env1⟩, hv, h2⟩ := bind_eq_some_iff.mp he
      obtain ⟨env2, hst, heq⟩ := bind_eq_some_iff.mp h2
      cases heq
      obtain ⟨m1, hrun1, hc1⟩ := hcode.run hat.left hv ha.declare hf
      have hslot : slotOf (st.declared name slot pending).scopes name = some slot := by
        rw [State.slotOf_declared, beq_self_eq_true, if_pos rfl]
      obtain ⟨m2, hrun2, hc2⟩ := hc1.stores (.of_placed hr1.placed) hslot hf (Nat.le_add_right _ _) hst hat.right
      refine ⟨rfl, m2, ?_, h.calm.scopes ▸ hc2.agrees, hc2.steady⟩
      rw [length_append]
      exact hrun1.trans hrun2
  | silent h =>
    unfold isSilent at h
    split at h
    · cases hs
    · cases hs
    · cases hs
    · cases hs
    · cases h
  | _ => cases hs

theorem StmtsGen.objects_declare (h : StmtsGen scene body st ss c marks st')
    (hs : isIntObjects scene.typeOf locals ss) (hr : r.Housed locals st) :
    r.Housed ((ss.flatMap objectNames).reverse ++ locals) st' ∧ r.Declares st c st' (execItems · ss) := by
  induction ss generalizing st c marks locals with
  | nil =>
    cases h
    refine ⟨hr, fun n pc env env' o m hat he ha hf => ?_⟩
    cases n with
    | zero => cases he
    | succ n =>
      cases he
      exact ⟨rfl, m, .refl _, ha, .refl⟩
  | cons s rest ih =>
    simp only [isIntObjects, and_eq_true] at hs
    cases h with
    | cons h h' =>
      obtain ⟨hr1, hd⟩ := h.object_declares hs.1 hr
      obtain ⟨hr2, hd'⟩ := ih h' hs.2 hr1
      refine ⟨hr2.mono fun x hx => ?_, fun n pc env env' o m hat he ha hf => ?_⟩
      · simp only [flatMap_cons, reverse_append, mem_append, mem_reverse] at hx ⊢
        tauto
      cases n with
      | zero => cases he
      | succ n =>
        obtain ⟨⟨o1, env1⟩, h1, h2⟩ := bind_eq_some_iff.mp he
        obtain ⟨rfl, m1, hrun1, ha1, hs1⟩ := hd hat.left h1 ha hf
        obtain ⟨rfl, m2, hrun2, ha2, hs2⟩ := hd' hat.right h2 ha1 (hf.steady hs1)
        refine ⟨rfl, m2, (hrun1.trans hrun2).cast ?_, ha2, hs1.trans hs2⟩
        rw [length_append, Nat.add_assoc]

/-- The code of a declaration over `int`. -/
theorem StmtGen.declares (h : StmtGen scene body st s c marks st')
    (hs : isIntDeclaration scene.typeOf locals s) (hr : r.Housed locals st) :
    r.Housed (declaredNames s ++ locals) st' ∧ r.Declares st c st' (exec · s) := by
  unfold isIntDeclaration at hs
  split at hs
  next declarations =>
    cases h with
    | silent h => cases h
    | group h =>
      obtain ⟨hr1, hd⟩ := h.objects_declare hs hr
      refine ⟨hr1, fun n pc env env' o m hat he ha hf => ?_⟩
      cases n with
      | zero => cases he
      | succ n => exact hd hat he ha hf
  next hgroup =>
    obtain ⟨hr1, hd⟩ := h.object_declares hs hr
    refine ⟨hr1.mono fun x hx => ?_, hd⟩
    unfold declaredNames at hx
    split at hx
    next declarations => exact absurd rfl (hgroup declarations)
    next => exact hx

/-! ## 4. Following a run -/

/-- The code of a statement follows all runs of some depth. -/
def Run.FollowsStmt (r : Run) (scene : Scene) (n : Nat) (s : Stmt NodeId) : Prop :=
  ∀ ⦃locals : List String⦄ ⦃body : Body⦄ ⦃st st' : State⦄ ⦃c : Code⦄ ⦃marks : List Nat⦄ ⦃pc : Nat⦄
    ⦃env env' : Env⦄ ⦃o : Meaning.Outcome⦄ ⦃m : Machine.State⦄, StmtGen scene body st s c marks st' →
    isIntStmt scene.typeOf locals s = true → r.Housed locals st → r.Knows body →
    At r.code pc c → exec n s env = some (o, env') → r.Agrees st.scopes env m.mem →
    r.Framed r.floor m → r.Reached body pc (pc + c.length) o st.scopes env' m

/-- The code of statements follows all runs of some depth. -/
def Run.Follows (r : Run) (scene : Scene) (n : Nat) : Prop := ∀ ⦃s : Stmt NodeId⦄, r.FollowsStmt scene n s

/-- The code of the items of a block follows all runs of some depth. Where they do not end normally, only
    the locals outside the block matter. -/
def Run.FollowsItems (r : Run) (scene : Scene) (n : Nat) : Prop :=
  ∀ ⦃locals : List String⦄ ⦃body : Body⦄ ⦃st st' : State⦄ ⦃ss : List (Stmt NodeId)⦄ ⦃c : Code⦄
    ⦃marks : List Nat⦄ ⦃pc : Nat⦄ ⦃env env' : Env⦄ ⦃o : Meaning.Outcome⦄ ⦃m : Machine.State⦄,
    StmtsGen scene body st ss c marks st' → isIntItems scene.typeOf locals ss = true →
    r.Housed locals st → r.Knows body → At r.code pc c → execItems n ss env = some (o, env') →
    r.Agrees st.scopes env m.mem → r.Framed r.floor m →
      r.Reached body pc (pc + c.length) o (st.scopes.drop 1) env'.tail m

/-- The code of a `for` behind its first clause. -/
def forCode (again next done : Label) (test code post : Code) : Code :=
  [Line.label again] ++ test ++ code ++ [Line.label next] ++ post ++ [Line.instr (.branch again), Line.label done]

/-- The code of a `for` behind its first clause follows all runs of some depth. -/
def Run.FollowsLoop (r : Run) (scene : Scene) (n : Nat) : Prop :=
  ∀ ⦃locals : List String⦄ ⦃body : Body⦄ ⦃st st1 st2 st3 : State⦄ ⦃condition post : Option (Expr NodeId)⦄
    ⦃s : Stmt NodeId⦄ ⦃again next done : Label⦄ ⦃test code postCode : Code⦄ ⦃marks : List Nat⦄ ⦃pc : Nat⦄
    ⦃env env' : Env⦄ ⦃o : Meaning.Outcome⦄ ⦃m : Machine.State⦄, TestGen scene done st condition test st1 →
    condition.all (isIntExpr scene.typeOf locals) = true →
    StmtGen scene { body with loop := some ⟨next, done⟩ } st1 s code marks st2 →
    isIntStmt scene.typeOf locals s = true → PostGen scene st2 post postCode st3 →
    post.all (isIntExpr scene.typeOf locals) = true → r.Housed locals st → r.Knows body →
    At r.code pc (forCode again next done test code postCode) →
    execLoop n condition post s env = some (o, env') → r.Agrees st.scopes env m.mem →
    r.Framed r.floor m →
      r.Reached body pc (pc + (forCode again next done test code postCode).length) o st.scopes env' m

theorem Run.Agrees.tail (h : r.Agrees scopes env mem) : r.Agrees (scopes.drop 1) env.tail mem := by
  cases h with
  | nil => exact .nil
  | cons _ h => exact h

/-- An end that is not normal does not depend on the end of the code. -/
theorem Run.Ends.of_ne_normal (h : r.Ends body fin o p m) (ho : o ≠ .normal) : r.Ends body fin' o p m := by
  cases o with
  | normal => exact absurd rfl ho
  | _ => exact h

theorem Run.Reached.of_ne_normal (h : r.Reached body pc fin o scopes env m) (ho : o ≠ .normal) :
    r.Reached body pc fin' o scopes env m := by
  obtain ⟨p, m', hrun, hends, ha, hs⟩ := h
  exact ⟨p, m', hrun, hends.of_ne_normal ho, ha, hs⟩

theorem Run.Reached.tail (h : r.Reached body pc fin o scopes env m) :
    r.Reached body pc fin o (scopes.drop 1) env.tail m := by
  obtain ⟨p, m', hrun, hends, ha, hs⟩ := h
  exact ⟨p, m', hrun, hends, ha.tail, hs⟩

/-- The code leads on to a place. -/
def Run.Arrives (r : Run) (pc fin : Nat) (scopes : Scopes) (env : Env) (m : Machine.State) : Prop :=
  ∃ m', r.Leads (pc, m) (fin, m') ∧ r.Agrees scopes env m'.mem ∧ r.Steady r.floor m m'

/-- A statement that has ended normally. -/
theorem Run.Reached.normal (h : r.Reached body pc fin .normal scopes env m) : r.Arrives pc fin scopes env m := by
  obtain ⟨p, m', hrun, rfl, ha, hs⟩ := h
  exact ⟨m', hrun, ha, hs⟩

theorem declaredNames_of_isIntStmt (hs : isIntStmt typeOf locals s) : declaredNames s = [] := by
  cases s with
  | group => simp [isIntStmt] at hs
  | declaration => simp [isIntStmt] at hs
  | _ => rfl

/-- One more step of depth for the items of a block. -/
theorem Run.FollowsItems.succ (hS : r.Follows scene n) (hI : r.FollowsItems scene n) :
    r.FollowsItems scene (n + 1) := by
  intro locals body st st' ss c marks pc env env' o m h hss hr hk hat he ha hf
  cases h with
  | nil =>
    cases he
    exact ⟨pc, m, .refl _, rfl, ha.tail, .refl⟩
  | cons hs hrest =>
    simp only [isIntItems, and_eq_true, Bool.or_eq_true] at hss
    obtain ⟨⟨o1, env1⟩, h1, h2⟩ := bind_eq_some_iff.mp he
    rw [length_append, ← Nat.add_assoc]
    rcases hss.1 with hstmt | hdecl
    · rw [declaredNames_of_isIntStmt hstmt] at hss
      have hfirst := hS hs hstmt hr hk hat.left h1 ha hf
      have hscopes := hs.scopes_eq hstmt
      cases o1 with
      | normal =>
        obtain ⟨m1, hrun1, ha1, hs1⟩ := hfirst.normal
        have hrest := hI hrest hss.2 (hr.after hs hstmt) hk hat.right h2 (hscopes ▸ ha1) (hf.steady hs1)
        rw [← hscopes]
        exact hrest.after hrun1 hs1
      | _ =>
        cases h2
        exact hfirst.tail.of_ne_normal (by simp)
    · obtain ⟨hr1, hd⟩ := hs.declares hdecl hr
      obtain ⟨rfl, m1, hrun1, ha1, hs1⟩ := hd hat.left h1 ha hf
      have hrest := hI hrest hss.2 hr1 hk hat.right h2 ha1 (hf.steady hs1)
      rw [← hs.kept.outer]
      exact hrest.after hrun1 hs1

/-! ## 5. Loops -/

section Loops

variable {next done : Label}

/-- The body of a loop knows the labels of the loop. -/
theorem Run.Knows.inner (h : r.Knows body) (hn : r.Marks next p) (hd : r.Marks done q) :
    r.Knows { body with loop := some ⟨next, done⟩ } where
  returns := h.returns
  exit := h.exit
  next := by
    rintro loop ⟨⟩
    exact ⟨p, hn⟩
  done := by
    rintro loop ⟨⟩
    exact ⟨q, hd⟩

/-- A body that ends normally and one that continues lead to the next turn; one that breaks leads to the end
    of the loop, and one that returns leads out of it. -/
theorem Run.Reached.turn (h : r.Reached { body with loop := some ⟨next, done⟩ } pc fin o scopes env m)
    (hn : r.Marks next p) (hon : ∀ m', r.Leads (fin, m') (p, m')) (hdone : At r.code q [Line.label done]) :
    (o = .normal ∨ o = .continue_) ∧ r.Arrives pc p scopes env m ∨
      o = .break_ ∧ r.Reached body pc (q + 1) .normal scopes env m ∨
      (∃ v, o = .return_ v) ∧ r.Reached body pc (q + 1) o scopes env m := by
  obtain ⟨x, m', hrun, hends, ha, hs⟩ := h
  cases o with
  | normal =>
    cases hends
    exact .inl ⟨.inl rfl, m', hrun.trans (hon m'), ha, hs⟩
  | continue_ =>
    obtain ⟨loop, ⟨⟩, hx⟩ := hends
    obtain rfl : x = p := Option.some.inj (hx.symm.trans hn)
    exact .inl ⟨.inr rfl, m', hrun, ha, hs⟩
  | break_ =>
    obtain ⟨loop, ⟨⟩, hx⟩ := hends
    obtain rfl : x = q := Option.some.inj (hx.symm.trans (hdone.place (r.once _)))
    exact .inr (.inl ⟨rfl, x + 1, m', hrun.trans (hdone.reaches_label m'), rfl, ha, hs⟩)
  | return_ v => exact .inr (.inr ⟨⟨v, rfl⟩, x, m', hrun, hends, ha, hs⟩)

/-- The end of a loop is reached. -/
theorem Run.Reached.end_ (hat : At r.code p [Line.label done]) (ha : r.Agrees scopes env m.mem) :
    r.Reached body p (p + 1) .normal scopes env m := ⟨p + 1, m, hat.reaches_label m, rfl, ha, .refl⟩

end Loops

section Clauses

variable {st1 : State} {v : IntValue}

/-- The condition of a `for` leads on when it holds and to the end of the loop when it fails. -/
theorem TestGen.run {done : Label} {condition : Option (Expr NodeId)}
    (h : TestGen scene done st condition c st1) (hs : condition.all (isIntExpr scene.typeOf locals))
    (hr : r.Housed locals st) (hat : At r.code pc c) (hd : r.Marks done p)
    (he : Meaning.evalOr 1 condition env = some (v, env')) (ha : r.Agrees st.scopes env m.mem)
    (hf : r.Framed r.floor m) :
    r.Arrives pc (if v = 0 then p else pc + c.length) st.scopes env' m := by
  cases h with
  | absent =>
    cases he
    exact ⟨m, .refl _, ha, .refl⟩
  | present h hw =>
    obtain ⟨ht, hc⟩ := h.of_housed hs hr
    cases width_eq_word ht hw
    obtain ⟨m1, hrun, hc1⟩ := hc.run hat.left he ha hf
    refine ⟨m1, ?_, hc1.agrees, hc1.steady⟩
    by_cases hz : v = 0
    · rw [if_pos hz]
      exact hrun.trans (hat.right.reaches_zero hd (hc1.value.trans hz))
    · rw [if_neg hz, length_append]
      exact hrun.trans (hat.right.reaches_zero_not (hc1.value ▸ hz))

/-- The condition of a `for` keeps the scopes. -/
theorem TestGen.scopes_eq {done : Label} {condition : Option (Expr NodeId)}
    (h : TestGen scene done st condition c st1) : st1.scopes = st.scopes := by
  cases h with
  | absent => rfl
  | present h => exact h.calm.scopes

/-- The last clause of a `for` leads on. -/
theorem PostGen.run {post : Option (Expr NodeId)} (h : PostGen scene st post c st1)
    (hs : post.all (isIntExpr scene.typeOf locals)) (hr : r.Housed locals st) (hat : At r.code pc c)
    (he : Meaning.evalOr 0 post env = some (v, env')) (ha : r.Agrees st.scopes env m.mem)
    (hf : r.Framed r.floor m) : r.Arrives pc (pc + c.length) st.scopes env' m := by
  cases h with
  | absent =>
    cases he
    exact ⟨m, .refl _, ha, .refl⟩
  | present h =>
    obtain ⟨m1, hrun, hc1⟩ := (h.of_housed hs hr).2.run hat he ha hf
    exact ⟨m1, hrun, hc1.agrees, hc1.steady⟩

/-- The first clause of a `for` leads on, with its locals in the scope of the loop. -/
theorem StmtGen.leads (h : StmtGen scene body st s c marks st1)
    (hs : (∃ value, s = .expr value ∧ isIntExpr scene.typeOf locals value) ∨
      isIntDeclaration scene.typeOf locals s) (hr : r.Housed locals st) :
    r.Housed (declaredNames s ++ locals) st1 ∧ r.Declares st c st1 (exec · s) := by
  rcases hs with ⟨value, rfl, hs⟩ | hs
  · cases h with
    | silent h => cases h
    | expr h =>
      refine ⟨hr.calm h.calm, fun n pc env env' o m hat he ha hf => ?_⟩
      cases n with
      | zero => cases he
      | succ n =>
        obtain ⟨⟨v, env1⟩, hv, heq⟩ := bind_eq_some_iff.mp he
        cases heq
        obtain ⟨m1, hrun, hc1⟩ := (h.of_housed hs hr).2.run hat hv ha hf
        exact ⟨rfl, m1, hrun, h.calm.scopes ▸ hc1.agrees, hc1.steady⟩
  · exact h.declares hs hr

end Clauses

theorem Run.FollowsStmt.while_ (hS : r.Follows scene n) : r.FollowsStmt scene (n + 1) (.while_ condition s) := by
  intro locals body st st' c marks pc env env' o m h hs hr hk hat he ha hf
  have hself := h
  have hint := hs
  have hwhole := hat
  simp only [isIntStmt, and_eq_true] at hs
  cases h with
  | silent h => cases h
  | while_ hc hw hfront hb =>
    have htest : TestGen scene ⟨"while_end", st.labels + 2⟩ _ (some condition) _ _ := .present hc hw
    rw [append_assoc] at hfront
    generalize _ ++ [Line.instr _] = test at hfront htest
    subst hfront
    simp only [append_assoc, At.append_iff, At.cons_cons_iff, length_singleton] at hat
    obtain ⟨hagain, hatest, hcode, hback, hdone⟩ := hat
    simp only [length_append, length_cons, length_nil, Nat.zero_add, ← Nat.add_assoc]
    have hpa := hagain.place (r.once _)
    have hpd := hdone.place (r.once _)
    obtain ⟨⟨v, env1⟩, hv, he⟩ := bind_eq_some_iff.mp he
    obtain ⟨m1, hrun1, ha1, hs1⟩ := htest.run hs.1 hr.labelled hatest hpd hv ha hf
    have hfirst : r.Leads (pc, m) (_, m1) := (hagain.reaches_label m).trans hrun1
    by_cases hz : v = 0
    · simp only [hz, if_true] at he hfirst
      cases he
      exact (Run.Reached.end_ hdone ha1).after hfirst hs1
    · simp only [hz, if_false] at he hfirst
      obtain ⟨⟨o2, env2⟩, h2, he⟩ := bind_eq_some_iff.mp he
      have hf1 := hf.steady hs1
      have hbody := hS hb hs.2 (hr.labelled.calm hc.calm) (hk.inner hpa hpd) hcode h2 (hc.calm.scopes ▸ ha1) hf1
      rw [hc.calm.scopes] at hbody
      obtain ⟨ho, m2, hrun2, ha2, hs2⟩ | ⟨rfl, hout⟩ | ⟨⟨v, rfl⟩, hout⟩ :=
        hbody.turn hpa (fun m' => hback.reaches_branch hpa m') hdone
      · replace he : exec n (.while_ condition s) env2 = some (o, env') := by
          rcases ho with rfl | rfl <;> exact he
        have hrest := hS hself hint hr hk hwhole he ha2 (hf1.steady hs2)
        simp only [length_append, length_cons, length_nil, Nat.zero_add, ← Nat.add_assoc] at hrest
        exact hrest.after (hfirst.trans hrun2) (hs1.trans hs2)
      all_goals
        cases he
        exact hout.after hfirst hs1

theorem Run.FollowsStmt.doWhile (hS : r.Follows scene n) : r.FollowsStmt scene (n + 1) (.doWhile s condition) := by
  intro locals body st st' c marks pc env env' o m h hs hr hk hat he ha hf
  have hself := h
  have hint := hs
  simp only [isIntStmt, and_eq_true] at hs
  cases h with
  | silent h => cases h
  | @doWhile _ _ st1 _ _ _ test code _ _ _ _ hb hc hu hw =>
    have hscopes : st1.scopes = st.scopes := hb.scopes_eq hs.2
    have hcomp := (hc.of_housed hs.1 (hr.labelled.after hb hs.2)).2
    cases width_eq_word (isInt_of_note (isIntExpr_note hs.1) hu) hw
    rw [hscopes] at hcomp
    have hwhole := hat
    simp only [append_assoc, At.append_iff, At.cons_cons_iff, length_singleton] at hat
    obtain ⟨hagain, hcode, hnext, htest, hbr, hdone⟩ := hat
    simp only [length_append, length_cons, length_nil, Nat.zero_add, ← Nat.add_assoc]
    have hpa := hagain.place (r.once _)
    have hpn := hnext.place (r.once _)
    have hpd := hdone.place (r.once _)
    have hstart : r.Leads (_, m) (_, m) := hagain.reaches_label m
    obtain ⟨⟨o1, env1⟩, h1, he⟩ := bind_eq_some_iff.mp he
    have hbody := hS hb hs.2 hr.labelled (hk.inner hpn hpd) hcode h1 ha hf
    obtain ⟨ho, m1, hrun1, ha1, hs1⟩ | ⟨rfl, hout⟩ | ⟨⟨v, rfl⟩, hout⟩ :=
      hbody.turn hpn (fun _ => .refl _) hdone
    · replace he : (do
          let found ← Meaning.eval condition env1
          if found.1 = 0 then return (Meaning.Outcome.normal, found.2)
          exec n (.doWhile s condition) found.2) = some (o, env') := by
        rcases ho with rfl | rfl <;> exact he
      obtain ⟨⟨v, env2⟩, hv, he⟩ := bind_eq_some_iff.mp he
      have hlabel : r.Leads (_, m1) (_, m1) := hnext.reaches_label m1
      obtain ⟨m2, hrun2, hc2⟩ := hcomp.run htest hv ha1 (hf.steady hs1)
      have hfirst := ((hstart.trans hrun1).trans hlabel).trans hrun2
      have hs2 := hs1.trans hc2.steady
      by_cases hz : v = 0
      · simp only [hz, if_true] at he
        cases he
        have hpass : r.Leads (_, m2) (_, m2) := hbr.reaches_nonzero_not (hc2.value.trans hz)
        exact (Run.Reached.end_ hdone hc2.agrees).after (hfirst.trans hpass) hs2
      · simp only [hz, if_false] at he
        have hjump : r.Leads (_, m2) (pc, m2) := hbr.reaches_nonzero hpa (hc2.value ▸ hz)
        have hrest := hS hself hint hr hk hwhole he hc2.agrees (hf.steady hs2)
        simp only [length_append, length_cons, length_nil, Nat.zero_add, ← Nat.add_assoc] at hrest
        exact hrest.after (hfirst.trans hjump) hs2
    all_goals
      cases he
      exact hout.after hstart .refl

/-- One more step of depth for a `for` behind its first clause. -/
theorem Run.FollowsLoop.succ (hS : r.Follows scene n) (hL : r.FollowsLoop scene n) : r.FollowsLoop scene (n + 1) := by
  intro locals body st st1 st2 st3 condition post s again next done test code postCode marks pc env env' o m
    hc hcs hb hbs hpost hps hr hk hat he ha hf
  have hwhole := hat
  unfold forCode at hat ⊢
  simp only [append_assoc, At.append_iff, At.cons_cons_iff, length_singleton] at hat
  obtain ⟨hagain, htest, hcode, hnext, hpostAt, hback, hdone⟩ := hat
  simp only [length_append, length_cons, length_nil, Nat.zero_add, ← Nat.add_assoc]
  have hpa := hagain.place (r.once _)
  have hpn := hnext.place (r.once _)
  have hpd := hdone.place (r.once _)
  have hstart : r.Leads (_, m) (_, m) := hagain.reaches_label m
  obtain ⟨⟨v, env1⟩, hv, he⟩ := bind_eq_some_iff.mp he
  obtain ⟨m1, hrun1, ha1, hs1⟩ := hc.run hcs hr htest hpd hv ha hf
  by_cases hz : v = 0
  · simp only [hz, if_true] at he hrun1
    cases he
    exact (Run.Reached.end_ hdone ha1).after (hstart.trans hrun1) hs1
  · simp only [hz, if_false] at he hrun1
    have hfirst := hstart.trans hrun1
    obtain ⟨⟨o2, env2⟩, h2, he⟩ := bind_eq_some_iff.mp he
    have hscopes1 := hc.scopes_eq
    have hscopes2 := (hb.scopes_eq hbs).trans hscopes1
    have hr1 := hr.kept hc.kept hscopes1
    have hbody := hS hb hbs hr1 (hk.inner hpn hpd) hcode h2 (hscopes1 ▸ ha1) (hf.steady hs1)
    rw [hscopes1] at hbody
    obtain ⟨ho, m2, hrun2, ha2, hs2⟩ | ⟨rfl, hout⟩ | ⟨⟨v, rfl⟩, hout⟩ :=
      hbody.turn hpn (fun _ => .refl _) hdone
    · replace he : (do
          let found ← Meaning.evalOr 0 post env2
          execLoop n condition post s found.2) = some (o, env') := by
        rcases ho with rfl | rfl <;> exact he
      obtain ⟨⟨u, env3⟩, hu, he⟩ := bind_eq_some_iff.mp he
      have hs2' := hs1.trans hs2
      have hlabel : r.Leads (_, m2) (_, m2) := hnext.reaches_label m2
      obtain ⟨m3, hrun3, ha3, hs3⟩ := hpost.run hps (hr1.after hb hbs) hpostAt hu (hscopes2 ▸ ha2) (hf.steady hs2')
      have hjump : r.Leads (_, m3) (pc, m3) := hback.reaches_branch hpa m3
      have hs3' := hs2'.trans hs3
      have hrest := hL hc hcs hb hbs hpost hps hr hk hwhole he (hscopes2 ▸ ha3) (hf.steady hs3')
      simp only [forCode, length_append, length_cons, length_nil, Nat.zero_add, ← Nat.add_assoc] at hrest
      exact hrest.after ((((hfirst.trans hrun2).trans hlabel).trans hrun3).trans hjump) hs3'
    all_goals
      cases he
      exact hout.after hfirst hs1

theorem Run.FollowsStmt.for_ {init : Option (Stmt NodeId)} {condition post : Option (Expr NodeId)}
    (hL : r.FollowsLoop scene n) : r.FollowsStmt scene (n + 1) (.for_ init condition post s) := by
  intro locals body st st' c marks pc env env' o m h hs hr hk hat he ha hf
  simp only [isIntStmt, and_eq_true] at hs
  obtain ⟨⟨⟨hinit, hcond⟩, hposts⟩, hbody⟩ := hs
  cases h with
  | silent h => cases h
  | @for_ _ _ st1 st2 st3 st4 _ _ _ _ initCode test code postCode _ _ _ hi hc hfront hb hpost =>
    have hcode : initCode ++ [Line.label ⟨"for_cond", st.labels + 1⟩] ++ test ++ code ++
        [Line.label ⟨"for_post", st.labels + 2⟩] ++ postCode ++
        [Line.instr (.branch ⟨"for_cond", st.labels + 1⟩), Line.label ⟨"for_end", st.labels + 3⟩] =
        initCode ++ forCode ⟨"for_cond", st.labels + 1⟩ ⟨"for_post", st.labels + 2⟩
          ⟨"for_end", st.labels + 3⟩ test code postCode := by
      simp only [forCode, append_assoc]
    rw [hfront, hcode] at hat ⊢
    rw [length_append, ← Nat.add_assoc]
    have hr0 : r.Housed locals (st.opened.labelled (st.labels + 3)) := hr.opened.labelled
    have houter : st1.scopes.drop 1 = st.scopes := hi.kept.outer
    have ha0 : r.Agrees st.opened.scopes ([] :: env) m.mem := .cons .nil ha
    -- the loop runs in the scope of its first clause, which is closed behind it
    have hloop : ∀ {m1 env1 o1 env2}, r.Housed ((init.map declaredNames).getD [] ++ locals) st1 →
        r.Leads (pc, m) (pc + initCode.length, m1) → r.Agrees st1.scopes env1 m1.mem →
        r.Steady r.floor m m1 → execLoop n condition post s env1 = some (o1, env2) →
        r.Reached body pc (pc + initCode.length + (forCode ⟨"for_cond", st.labels + 1⟩
          ⟨"for_post", st.labels + 2⟩ ⟨"for_end", st.labels + 3⟩ test code postCode).length) o1
          st.scopes env2.tail m := by
      intro m1 env1 o1 env2 hr1 hrun1 ha1 hs1 he
      have hrest := (hL hc hcond hb hbody hpost hposts hr1 hk hat.right he ha1 (hf.steady hs1)).tail
      rw [houter] at hrest
      exact hrest.after hrun1 hs1
    cases hi with
    | absent =>
      obtain ⟨⟨o1, env1⟩, h1, heq⟩ := bind_eq_some_iff.mp he
      cases heq
      exact hloop hr0 (.refl _) ha0 .refl h1
    | present hi =>
      obtain ⟨⟨o1, env1⟩, h1, he⟩ := bind_eq_some_iff.mp he
      obtain ⟨⟨o2, env2⟩, h2, heq⟩ := bind_eq_some_iff.mp he
      cases heq
      obtain ⟨hr1, hd⟩ := hi.leads (by split at hinit <;> simp_all) hr0
      obtain ⟨-, m1, hrun1, ha1, hs1⟩ := hd hat.left h1 ha0 hf
      exact hloop hr1 hrun1 ha1 hs1 h2

/-! ## 6. All statements -/

/-- A statement that ends normally goes on from its end. -/
theorem Run.Reached.extend (h : r.Reached body pc fin o scopes env m)
    (hrun : ∀ m', r.Leads (fin, m') (fin', m')) : r.Reached body pc fin' o scopes env m := by
  by_cases ho : o = .normal
  · subst ho
    obtain ⟨m1, hrun1, ha1, hs1⟩ := h.normal
    exact ⟨fin', m1, hrun1.trans (hrun m1), rfl, ha1, hs1⟩
  · exact h.of_ne_normal ho

theorem Run.FollowsStmt.ifElse {elseBody : Option (Stmt NodeId)}
    (hS : r.Follows scene n) : r.FollowsStmt scene (n + 1) (.ifElse condition s elseBody) := by
  intro locals body st st' c marks pc env env' o m h hs hr hk hat he ha hf
  obtain ⟨⟨v, env1⟩, hv, he⟩ := bind_eq_some_iff.mp he
  cases h with
  | silent h => cases h
  | ifThen hc hw hfront ht =>
    simp only [isIntStmt, and_eq_true] at hs
    have htest : TestGen scene ⟨"else", st.labels + 1⟩ _ (some condition) _ _ := .present hc hw
    rw [← hfront] at htest
    simp only [append_assoc, At.append_iff] at hat
    obtain ⟨hatest, hthen, helse⟩ := hat
    obtain ⟨m1, hrun1, ha1, hs1⟩ := htest.run hs.1 hr.labelled hatest (helse.place (r.once _)) hv ha hf
    simp only [length_append, length_singleton, ← Nat.add_assoc]
    by_cases hz : v = 0
    · simp only [hz, ne_eq, not_true_eq_false, if_true, if_false] at he hrun1
      cases he
      exact (Run.Reached.end_ helse ha1).after hrun1 hs1
    · simp only [hz, ne_eq, not_false_eq_true, if_true, if_false] at he hrun1
      have hbody := hS ht hs.2 (hr.labelled.calm hc.calm) hk hthen he (hc.calm.scopes ▸ ha1) (hf.steady hs1)
      rw [hc.calm.scopes] at hbody
      exact (hbody.extend fun m' => helse.reaches_label m').after hrun1 hs1
  | @ifElse _ _ _ st2 _ _ _ _ _ _ _ _ _ _ _ _ _ hc hw hfront ht hmiddle hel =>
    simp only [isIntStmt, and_eq_true] at hs
    have htest : TestGen scene ⟨"else", st.labels + 1⟩ _ (some condition) _ _ := .present hc hw
    rw [← hfront] at htest
    subst hmiddle
    have hr1 := hr.labelled.calm hc.calm
    simp only [append_assoc, At.append_iff, At.cons_cons_iff, length_cons, length_nil, Nat.zero_add] at hat
    obtain ⟨hatest, hthen, ⟨hout, helse⟩, helseCode, hdone⟩ := hat
    obtain ⟨m1, hrun1, ha1, hs1⟩ := htest.run hs.1.1 hr.labelled hatest (helse.place (r.once _)) hv ha hf
    have hf1 := hf.steady hs1
    simp only [length_append, length_cons, length_nil, Nat.zero_add, ← Nat.add_assoc]
    by_cases hz : v = 0
    · simp only [hz, ne_eq, not_true_eq_false, if_true, if_false] at he hrun1
      have hlabel : r.Leads (_, m1) (_, m1) := helse.reaches_label m1
      have hscopes : st2.scopes = st.scopes := (ht.scopes_eq hs.1.2).trans hc.calm.scopes
      have hbody := hS hel hs.2 (hr1.after ht hs.1.2) hk helseCode he (hscopes ▸ ha1) hf1
      rw [hscopes] at hbody
      exact (hbody.extend fun m' => hdone.reaches_label m').after (hrun1.trans hlabel) hs1
    · simp only [hz, ne_eq, not_false_eq_true, if_true, if_false] at he hrun1
      have hbody := hS ht hs.1.2 hr1 hk hthen he (hc.calm.scopes ▸ ha1) hf1
      rw [hc.calm.scopes] at hbody
      refine (hbody.extend fun m' => ?_).after hrun1 hs1
      exact (hout.reaches_branch (hdone.place (r.once _)) m').trans (hdone.reaches_label m')

/-- One more step of depth for statements. -/
theorem Run.Follows.succ (hS : r.Follows scene n) (hI : r.FollowsItems scene n)
    (hL : r.FollowsLoop scene n) : r.Follows scene (n + 1) := by
  intro s locals body st st' c marks pc env env' o m h hs hr hk hat he ha hf
  cases s with
  | ifElse => exact Run.FollowsStmt.ifElse hS h hs hr hk hat he ha hf
  | while_ => exact Run.FollowsStmt.while_ hS h hs hr hk hat he ha hf
  | doWhile => exact Run.FollowsStmt.doWhile hS h hs hr hk hat he ha hf
  | for_ => exact Run.FollowsStmt.for_ hL h hs hr hk hat he ha hf
  | compound items =>
    cases h with
    | silent h => cases h
    | compound h =>
      obtain ⟨⟨o1, env1⟩, h1, heq⟩ := bind_eq_some_iff.mp he
      cases heq
      exact hI h hs hr.opened hk hat h1 (.cons .nil ha) hf
  | expr value =>
    cases h with
    | silent h => cases h
    | expr h =>
      obtain ⟨⟨v, env1⟩, hv, heq⟩ := bind_eq_some_iff.mp he
      cases heq
      obtain ⟨m1, hrun, hc1⟩ := (h.of_housed hs hr).2.run hat hv ha hf
      exact ⟨_, m1, hrun, rfl, hc1.agrees, hc1.steady⟩
  | null =>
    cases h
    cases he
    exact ⟨pc, m, .refl _, rfl, ha, .refl⟩
  | break_ =>
    cases h with
    | silent h => cases h
    | break_ hl =>
      cases he
      obtain ⟨p, hmark⟩ := hk.done _ hl
      exact ⟨p, m, hat.reaches_branch hmark m, ⟨_, hl, hmark⟩, ha, .refl⟩
  | continue_ =>
    cases h with
    | silent h => cases h
    | continue_ hl =>
      cases he
      obtain ⟨p, hmark⟩ := hk.next _ hl
      exact ⟨p, m, hat.reaches_branch hmark m, ⟨_, hl, hmark⟩, ha, .refl⟩
  | return_ value =>
    cases h with
    | silent h => cases h
    | leave => cases he
    | return_ h hu hconvert =>
      cases hconvert.int (isInt_of_note (isIntExpr_note hs) hu) hk.returns
      rw [append_nil] at hat ⊢
      obtain ⟨⟨v, env1⟩, hv, heq⟩ := bind_eq_some_iff.mp he
      cases heq
      obtain ⟨m1, hrun, hc1⟩ := (h.of_housed hs hr).2.run hat.left hv ha hf
      obtain ⟨p, hmark⟩ := hk.exit
      exact ⟨p, m1, hrun.trans (hat.right.reaches_branch hmark m1), ⟨hmark, hc1.value⟩, hc1.agrees, hc1.steady⟩
  | _ => simp [isIntStmt] at hs

/-- **The code of statements over `int` follows their runs.** -/
theorem Run.follows (r : Run) (scene : Scene) (n : Nat) :
    r.Follows scene n ∧ r.FollowsItems scene n ∧ r.FollowsLoop scene n := by
  induction n with
  | zero =>
    refine ⟨?_, ?_, ?_⟩
    · intro s locals body st st' c marks pc env env' o m _ _ _ _ _ he
      cases he
    · intro locals body st st' ss c marks pc env env' o m _ _ _ _ _ he
      cases he
    · intro locals body st st1 st2 st3 condition post s again next done test code postCode marks pc env env' o m
        _ _ _ _ _ _ _ _ _ he
      cases he
  | succ n ih =>
    obtain ⟨hS, hI, hL⟩ := ih
    exact ⟨hS.succ hI hL, .succ hS hI, .succ hS hL⟩

end CCompiler.Codegen
