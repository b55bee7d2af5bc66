import Mathlib
import CCompiler.Macro.Expand

/-!
# Expansion ends

Expansion, written as a machine: it looks through tokens one after another, and what waits for the end of a
replacement or of an argument stands on a stack. Nothing in the machine limits how long it runs.

* `step_sound` -- what one step keeps: no macro waits or was replaced while its name was disabled;
* `run_sound` -- the same over a whole run;
* `scans`, `passes` -- the machine comes to the answers of `expandTokens` and `expandArguments`;
* `expandTokens_of_agree` -- what a disabled name stands for has no part in the answer;
* `expansion_ends` -- all of this for every table, all tokens and all disabled names.
-/
namespace CCompiler.Macro

open List
open Preprocess (Cause Failure)

variable {ctx : Context} {disabled : List String} {t : MacroToken} {rest : List MacroToken}

/-! ## 1. The token at the front -/

/-- What the token at the front of others stands for. -/
inductive Front where
  | copied
  | place
  | object (m : Macro)
  | call (m : Macro) (params : List String) (args : List (List MacroToken)) (behind : List MacroToken)
  | refused (cause : Cause)

/-- What a token before others stands for, where some names are disabled. -/
def front (ctx : Context) (disabled : List String) (t : MacroToken) (rest : List MacroToken) : Front :=
  if t.kind ≠ .identifier then .copied
  else if ctx.dynamic.contains t.text && ctx.macros.defines t.text then .place
  else
    match ctx.macros.get? t.text with
    | none => .copied
    | some m =>
      if disabled.contains m.name then .copied
      else
        match m.params with
        | none => .object m
        | some params =>
          match invocation rest with
          | .absent => .copied
          | .unterminated => .refused .unterminatedInvocation
          | .call args behind =>
            match checkCount m params args.length with
            | .error cause => .refused cause
            | .ok () => .call m params args behind

/-- A macro stands at the front: its name is the token, which is neither disabled nor dynamic. -/
structure Stands (ctx : Context) (disabled : List String) (t : MacroToken) (m : Macro) : Prop where
  defined : ctx.macros.get? t.text = some m
  enabled : m.name ∉ disabled
  static : m.name ∉ ctx.dynamic

theorem name_of_get? {table : MacroTable} {name : String} {m : Macro} (h : table.get? name = some m) :
    m.name = name := by
  have := find?_some h
  exact eq_of_beq this

/-- What it means for a token that it stands for something. -/
def Front.Fits (ctx : Context) (disabled : List String) (t : MacroToken) (rest : List MacroToken) : Front → Prop
  | .copied => True
  | .place => t.text ∈ ctx.dynamic
  | .object m => Stands ctx disabled t m
  | .call m _ args behind => Stands ctx disabled t m ∧ invocation rest = .call args behind
  | .refused _ => True

theorem front_fits (ctx : Context) (disabled : List String) (t : MacroToken) (rest : List MacroToken) :
    (front ctx disabled t rest).Fits ctx disabled t rest := by
  unfold front
  split
  · trivial
  split
  · rename_i hplace
    exact contains_iff_mem.mp (Bool.and_eq_true_iff.mp hplace).1
  · rename_i hdynamic
    split
    · trivial
    · rename_i m hm
      split
      · trivial
      · rename_i hd
        have hs : Stands ctx disabled t m := by
          refine ⟨hm, fun hmem => hd (contains_iff_mem.mpr hmem), fun hmem => hdynamic ?_⟩
          rw [name_of_get? hm] at hmem
          rw [contains_iff_mem.mpr hmem, MacroTable.defines, hm]
          rfl
        split
        · exact hs
        · split
          · trivial
          · trivial
          · rename_i args behind hi
            split
            · trivial
            · exact ⟨hs, hi⟩

/-- The expansion of a token with the tokens behind it, by what it stands for. -/
def Front.expand (ctx : Context) (disabled : List String) (t : MacroToken) (rest : List MacroToken) :
    Front → Expand (List MacroToken)
  | .copied => do return t :: (← expandTokens ctx disabled rest)
  | .place => do
    let token ← resolve ctx t.text
    return token :: (← expandTokens ctx disabled rest)
  | .object m => do
    let replaced ← expandTokens ctx (m.name :: disabled) m.replacement
    return replaced ++ (← expandTokens ctx disabled rest)
  | .call m params args behind => do
    let arguments ← expandArguments ctx disabled args
    let replaced ← liftM (replace ctx m params arguments)
    let expanded ← expandTokens ctx (m.name :: disabled) replaced
    return expanded ++ (← expandTokens ctx disabled behind)
  | .refused cause => refuse ctx cause

/-- **Expansion goes by what stands at the front.** -/
theorem expandTokens_cons : expandTokens ctx disabled (t :: rest) =
    (front ctx disabled t rest).expand ctx disabled t rest := by
  rw [expandTokens]
  unfold front
  split
  · rfl
  split
  · rfl
  · split
    · rename_i hm
      simp only [hm, Front.expand]
    · rename_i m hm
      simp only [hm]
      split
      · rfl
      · cases hp : m.params with
        | none => rfl
        | some params =>
          dsimp only
          split <;> rename_i hi <;> simp only [hi, Front.expand]
          split <;> rename_i hc <;> simp only [hc]

/-! ## 2. The machine -/

/-- Tokens that are looked through: the names that are disabled there, what was written for the tokens
    before, and the tokens to come. -/
structure Scan where
  disabled : List String
  written : List MacroToken
  rest : List MacroToken

/-- What waits for the end of a scan. -/
inductive Frame where
  /-- The scan is over the replacement of a macro, and the scan around it goes on behind its name. -/
  | replacement (outer : Scan)
  /-- The scan is over an argument of a macro, behind those that are done and before others. -/
  | argument (outer : Scan) (m : Macro) (params : List String) (done : List Argument)
      (raw : List MacroToken) (todo : List (List MacroToken))

/-- A name that gives way to other tokens, and the names that are disabled there. -/
inductive Event where
  | replaced (m : Macro) (disabled : List String)
  | resolved (name : String) (disabled : List String)

/-- Where an expansion stands, with what was replaced so far. -/
inductive Config where
  | scanning (scan : Scan) (frames : List Frame) (count : Nat) (log : List Event)
  | ended (answer : Except Failure (List MacroToken) × Nat) (log : List Event)

/-- The start of an expansion. -/
def Config.start (disabled : List String) (tokens : List MacroToken) (count : Nat) : Config :=
  .scanning ⟨disabled, [], tokens⟩ [] count []

/-- What was replaced so far. -/
def Config.log : Config → List Event
  | .scanning _ _ _ log => log
  | .ended _ log => log

/-- The place behind an action: a failure ends all, a value is handed on. -/
def Config.behind {α : Type} (result : Except Failure α × Nat) (log : List Event)
    (next : α → Nat → List Event → Config) : Config :=
  match result with
  | (.ok value, count) => next value count log
  | (.error failure, count) => .ended (.error failure, count) log

/-- Goes into the next argument of a macro, or into its replacement when all arguments are done. -/
def enter (ctx : Context) (outer : Scan) (m : Macro) (params : List String) (done : List Argument)
    (todo : List (List MacroToken)) (frames : List Frame) (count : Nat) (log : List Event) : Config :=
  match todo with
  | raw :: todo =>
    .scanning ⟨outer.disabled, [], raw⟩ (.argument outer m params done raw todo :: frames) count log
  | [] =>
    .behind (replace ctx m params done, count) (log ++ [.replaced m outer.disabled]) fun tokens =>
      .scanning ⟨m.name :: outer.disabled, [], tokens⟩ (.replacement outer :: frames)

/-- Ends a scan. -/
def leave (ctx : Context) (written : List MacroToken) (count : Nat) (log : List Event) : List Frame → Config
  | [] => .ended (.ok written, count) log
  | .replacement outer :: frames =>
    .scanning { outer with written := outer.written ++ written } frames count log
  | .argument outer m params done raw todo :: frames =>
    enter ctx outer m params (done ++ [⟨raw, written⟩]) todo frames count log

/-- One step: one token of a scan, or the end of it. -/
def step (ctx : Context) : Config → Config
  | .ended answer log => .ended answer log
  | .scanning ⟨_, written, []⟩ frames count log => leave ctx written count log frames
  | .scanning ⟨disabled, written, t :: rest⟩ frames count log =>
    match front ctx disabled t rest with
    | .copied => .scanning ⟨disabled, written ++ [t], rest⟩ frames count log
    | .place =>
      .behind (resolve ctx t.text count) (log ++ [.resolved t.text disabled]) fun token =>
        .scanning ⟨disabled, written ++ [token], rest⟩ frames
    | .object m =>
      .scanning ⟨m.name :: disabled, [], m.replacement⟩ (.replacement ⟨disabled, written, rest⟩ :: frames)
        count (log ++ [.replaced m disabled])
    | .call m params args behind => enter ctx ⟨disabled, written, behind⟩ m params [] args frames count log
    | .refused cause => .ended (refuse ctx cause count) log

/-- The machine after a number of steps. -/
def run (ctx : Context) (n : Nat) (c : Config) : Config := (step ctx)^[n] c

/-! ## 3. What a step keeps -/

section Sound

variable {initial : List String} {c : Config}

/-- The names that are disabled in a scan were so from the start or are no dynamic ones. -/
def Scan.Sound (ctx : Context) (initial : List String) (scan : Scan) : Prop :=
  ∀ name ∈ scan.disabled, name ∈ initial ∨ name ∉ ctx.dynamic

/-- A macro whose arguments are expanded is not disabled. -/
def Frame.Sound (ctx : Context) (initial : List String) : Frame → Prop
  | .replacement outer => outer.Sound ctx initial
  | .argument outer m .. => outer.Sound ctx initial ∧ m.name ∉ outer.disabled ∧ m.name ∉ ctx.dynamic

/-- A macro was replaced while its name was not disabled. A dynamic name was disabled from the start or not
    at all. -/
def Event.Sound (initial : List String) : Event → Prop
  | .replaced m disabled => m.name ∉ disabled
  | .resolved name disabled => name ∈ disabled → name ∈ initial

/-- **The invariant of the machine.** -/
def Config.Sound (ctx : Context) (initial : List String) : Config → Prop
  | .scanning scan frames _ log => scan.Sound ctx initial ∧ (∀ f ∈ frames, f.Sound ctx initial) ∧
      ∀ e ∈ log, e.Sound initial
  | .ended _ log => ∀ e ∈ log, e.Sound initial

theorem Config.Sound.events (h : c.Sound ctx initial) : ∀ e ∈ c.log, e.Sound initial := by
  cases c with
  | scanning scan frames count log => exact h.2.2
  | ended answer log => exact h

theorem Scan.Sound.disable {scan : Scan} {m : Macro} {written rest : List MacroToken}
    (h : scan.Sound ctx initial) (hm : m.name ∉ ctx.dynamic) :
    Scan.Sound ctx initial ⟨m.name :: scan.disabled, written, rest⟩ := by
  exact forall_mem_cons.mpr ⟨.inr hm, h⟩

theorem sound_append {log : List Event} {new : Event} (h : ∀ e ∈ log, e.Sound initial)
    (hnew : new.Sound initial) : ∀ e ∈ log ++ [new], e.Sound initial := by
  exact forall_mem_append.mpr ⟨h, forall_mem_singleton.mpr hnew⟩

theorem behind_sound {α : Type} {result : Except Failure α × Nat} {log : List Event}
    {next : α → Nat → List Event → Config} (hl : ∀ e ∈ log, e.Sound initial)
    (h : ∀ a count, (next a count log).Sound ctx initial) :
    (Config.behind result log next).Sound ctx initial := by
  rcases result with ⟨failure | a, count⟩
  · exact hl
  · exact h a count

theorem enter_sound {outer : Scan} {m : Macro} {params : List String} {done : List Argument}
    {todo : List (List MacroToken)} {frames : List Frame} {count : Nat} {log : List Event}
    (hm : m.name ∉ outer.disabled) (hstatic : m.name ∉ ctx.dynamic) (ho : outer.Sound ctx initial)
    (hf : ∀ f ∈ frames, f.Sound ctx initial) (hl : ∀ e ∈ log, e.Sound initial) :
    (enter ctx outer m params done todo frames count log).Sound ctx initial := by
  cases todo with
  | cons raw todo => exact ⟨ho, forall_mem_cons.mpr ⟨⟨ho, hm, hstatic⟩, hf⟩, hl⟩
  | nil =>
    have hnew : Event.Sound initial (.replaced m outer.disabled) := hm
    have hl := sound_append hl hnew
    exact behind_sound hl fun _ _ => ⟨ho.disable hstatic, forall_mem_cons.mpr ⟨ho, hf⟩, hl⟩

theorem leave_sound {written : List MacroToken} {frames : List Frame} {count : Nat} {log : List Event}
    (hf : ∀ f ∈ frames, f.Sound ctx initial) (hl : ∀ e ∈ log, e.Sound initial) :
    (leave ctx written count log frames).Sound ctx initial := by
  cases frames with
  | nil => exact hl
  | cons frame frames =>
    obtain ⟨hframe, hframes⟩ := forall_mem_cons.mp hf
    cases frame with
    | replacement outer => exact ⟨hframe, hframes, hl⟩
    | argument outer m params done raw todo =>
      obtain ⟨ho, hm, hstatic⟩ := hframe
      exact enter_sound hm hstatic ho hframes hl

/-- **One step keeps the invariant.** -/
theorem step_sound (h : c.Sound ctx initial) : (step ctx c).Sound ctx initial := by
  rcases c with ⟨⟨disabled, written, _ | ⟨t, rest⟩⟩, frames, count, log⟩ | ⟨answer, log⟩
  · exact leave_sound h.2.1 h.2.2
  · obtain ⟨hs, hf, hl⟩ := h
    have hfits := front_fits ctx disabled t rest
    unfold step
    dsimp only
    cases hfront : front ctx disabled t rest with rw [hfront] at hfits
    | copied => exact ⟨hs, hf, hl⟩
    | place =>
      have hplace : Event.Sound initial (.resolved t.text disabled) := fun hmem =>
        (hs t.text hmem).resolve_right fun hne => hne hfits
      have hl := sound_append hl hplace
      exact behind_sound hl fun _ _ => ⟨hs, hf, hl⟩
    | object m =>
      have hnew : Event.Sound initial (.replaced m disabled) := hfits.enabled
      exact ⟨Scan.Sound.disable hs hfits.static, forall_mem_cons.mpr ⟨hs, hf⟩, sound_append hl hnew⟩
    | call m params args behind =>
      exact enter_sound hfits.1.enabled hfits.1.static hs hf hl
    | refused cause => exact hl
  · exact h

/-- **A whole run keeps the invariant.** -/
theorem run_sound (h : c.Sound ctx initial) (n : Nat) : (run ctx n c).Sound ctx initial := by
  induction n generalizing c with
  | zero => exact h
  | succ n ih => exact ih (step_sound h)

theorem start_sound (ctx : Context) (initial : List String) (tokens : List MacroToken) (count : Nat) :
    (Config.start initial tokens count).Sound ctx initial :=
  ⟨fun _ hname => .inl hname, nofun, nofun⟩

end Sound

/-! ## 4. The machine carries out the expansion -/

section Carries

variable {α β : Type} {c d : Config} {x : Expand α} {f : α → Expand β} {count : Nat}
  {next : α → Nat → List Event → Config}

/-- The machine comes from a place to another. -/
def Leads (ctx : Context) (c d : Config) : Prop := ∃ n, run ctx n c = d

theorem Leads.refl : Leads ctx c c := ⟨0, rfl⟩

theorem Leads.step : Leads ctx c (step ctx c) := ⟨1, rfl⟩

theorem Leads.trans (h : Leads ctx c d) (h' : Leads ctx d e) : Leads ctx c e := by
  obtain ⟨n, rfl⟩ := h
  obtain ⟨k, rfl⟩ := h'
  exact ⟨k + n, Function.iterate_add_apply _ _ _ _⟩

/-- From a place the machine carries out an action and goes on with its value. -/
def Carries (ctx : Context) (c : Config) (x : Expand α) (count : Nat) (next : α → Nat → List Event → Config) : Prop :=
  ∃ log, Leads ctx c (.behind (x count) log next)

theorem Carries.after (h : Leads ctx c d) (hd : Carries ctx d x count next) : Carries ctx c x count next := by
  obtain ⟨log, hlog⟩ := hd
  exact ⟨log, h.trans hlog⟩

theorem Carries.pure (log : List Event) (h : c = next a count log) : Carries ctx c (Pure.pure a) count next := by
  subst h
  exact ⟨log, .refl⟩

theorem Carries.behind : Carries ctx (.behind (x count) log next) x count next :=
  ⟨log, .refl⟩

theorem bind_of_ok (h : x count = (.ok a, count')) : (x >>= f) count = f a count' := by
  show ExceptT.bindCont f (x count).1 (x count).2 = _
  rw [h]
  rfl

theorem bind_of_error {failure : Failure} {count' : Nat} (h : x count = (.error failure, count')) :
    (x >>= f) count = (.error failure, count') := by
  show ExceptT.bindCont f (x count).1 (x count).2 = _
  rw [h]
  rfl

/-- One action after another. -/
theorem Carries.bind {next' : β → Nat → List Event → Config} (h : Carries ctx c x count next)
    (hf : ∀ a count log, Carries ctx (next a count log) (f a) count next') :
    Carries ctx c (x >>= f) count next' := by
  obtain ⟨log, hlog⟩ := h
  rcases hx : x count with ⟨failure | a, count'⟩ <;> rw [hx] at hlog
  · exact ⟨log, bind_of_error hx ▸ hlog⟩
  · obtain ⟨log', hlog'⟩ := hf a count' log
    exact ⟨log', hlog.trans (bind_of_ok hx ▸ hlog')⟩

/-- The machine looks through tokens as they are expanded, wherever it does so. -/
def Scans (ctx : Context) (disabled : List String) (tokens : List MacroToken) : Prop :=
  ∀ written frames count log,
    Carries ctx (.scanning ⟨disabled, written, tokens⟩ frames count log) (expandTokens ctx disabled tokens)
      count fun out => .scanning ⟨disabled, written ++ out, []⟩ frames

/-- The machine goes through arguments as they are expanded. -/
def Passes (ctx : Context) (disabled : List String) (args : List (List MacroToken)) : Prop :=
  ∀ outer m params done frames count log, outer.disabled = disabled →
    Carries ctx (enter ctx outer m params done args frames count log) (expandArguments ctx disabled args)
      count fun arguments => enter ctx outer m params (done ++ arguments) [] frames

/-- A replacement is looked through, and then what stands behind it. -/
theorem Scans.replacement {m : Macro} {tokens written : List MacroToken} {frames : List Frame}
    {log : List Event} (hin : Scans ctx (m.name :: disabled) tokens) (hout : Scans ctx disabled rest) :
    Carries ctx (.scanning ⟨m.name :: disabled, [], tokens⟩ (.replacement ⟨disabled, written, rest⟩ :: frames) count
        log)
      (do
        let replaced ← expandTokens ctx (m.name :: disabled) tokens
        return replaced ++ (← expandTokens ctx disabled rest))
      count fun out => .scanning ⟨disabled, written ++ out, []⟩ frames := by
  refine (hin _ _ _ _).bind fun replaced count log => .after .step ?_
  refine (hout _ _ _ _).bind fun behind count log => .pure log ?_
  rw [nil_append, append_assoc]

theorem Scans.nil : Scans ctx disabled [] := by
  intro written frames count log
  rw [expandTokens]
  refine .pure log ?_
  rw [append_nil]

/-- **Tokens are looked through one at a time.** -/
theorem Scans.cons (hrest : Scans ctx disabled rest)
    (hin : ∀ m, Stands ctx disabled t m → ∀ tokens, Scans ctx (m.name :: disabled) tokens)
    (hcall : ∀ args behind, invocation rest = .call args behind →
      Passes ctx disabled args ∧ Scans ctx disabled behind) :
    Scans ctx disabled (t :: rest) := by
  intro written frames count log
  rw [expandTokens_cons]
  have hfits := front_fits ctx disabled t rest
  refine .after .step ?_
  unfold step
  dsimp only
  cases hfront : front ctx disabled t rest with rw [hfront] at hfits
  | copied =>
    refine (hrest _ _ _ _).bind fun out count log => .pure log ?_
    rw [append_assoc]
    rfl
  | place =>
    refine Carries.behind.bind fun token count log => ?_
    refine (hrest _ _ _ _).bind fun out count log => .pure log ?_
    rw [append_assoc]
    rfl
  | object m => exact (hin m hfits _).replacement hrest
  | call m params args behind =>
    obtain ⟨hargs, hbehind⟩ := hcall args behind hfits.2
    refine (hargs _ _ _ _ _ _ _ rfl).bind fun arguments count log => ?_
    refine Carries.bind Carries.behind ?_
    exact fun tokens count log => (hin m hfits.1 tokens).replacement hbehind
  | refused cause => exact ⟨log, .refl⟩

theorem Passes.nil : Passes ctx disabled [] := by
  intro outer m params done frames count log houter
  rw [expandArguments]
  refine .pure log ?_
  rw [append_nil]

theorem Passes.cons (harg : Scans ctx disabled arg)
    (hargs : Passes ctx disabled args) : Passes ctx disabled (arg :: args) := by
  rintro outer m params done frames count log rfl
  rw [expandArguments]
  refine (harg _ _ _ _).bind fun expanded count log => .after .step ?_
  refine (hargs _ _ _ _ _ _ _ rfl).bind fun arguments count log => .pure log ?_
  rw [append_assoc]
  rfl

mutual

/-- **The machine looks through any tokens as they are expanded.** -/
theorem scans (ctx : Context) (disabled : List String) (tokens : List MacroToken) : Scans ctx disabled tokens := by
  cases tokens with
  | nil => exact .nil
  | cons t rest =>
    refine .cons (scans ctx disabled rest) (fun m hm tokens => ?_) fun args behind hi => ?_
    · have := enabled_lt hm.defined (by simpa using hm.enabled)
      exact scans ctx (m.name :: disabled) tokens
    · have := invocation_size hi
      exact ⟨passes ctx disabled args, scans ctx disabled behind⟩
termination_by (enabled ctx.macros disabled, tokens.length)
decreasing_by
  all_goals first
    | exact .left _ _ (by assumption)
    | exact .right _ (by simp only [length_cons]; omega)

/-- The machine goes through any arguments as they are expanded. -/
theorem passes (ctx : Context) (disabled : List String) (args : List (List MacroToken)) :
    Passes ctx disabled args := by
  cases args with
  | nil => exact .nil
  | cons arg args => exact .cons (scans ctx disabled arg) (passes ctx disabled args)
termination_by (enabled ctx.macros disabled, argsSize args)
decreasing_by
  all_goals
    simp only [argsSize]
    omega

end

end Carries

/-! ## 5. What has no part in an expansion -/

section Agree

variable {macros : MacroTable}

/-- Two tables define the same names, and the names that are not disabled in the same way. -/
structure Agree (disabled : List String) (macros macros' : MacroTable) : Prop where
  defines : ∀ name, macros.defines name = macros'.defines name
  enabled : ∀ name, name ∉ disabled → macros.get? name = macros'.get? name

theorem Agree.disable (h : Agree disabled macros ctx.macros) (name : String) :
    Agree (name :: disabled) macros ctx.macros :=
  ⟨h.defines, fun k hk => h.enabled k fun hmem => hk (mem_cons_of_mem _ hmem)⟩

/-- A disabled name that is no dynamic one is copied, if it stands for something or not. -/
theorem front_of_disabled (hd : t.text ∈ disabled) : front ctx disabled t rest = if t.kind ≠ .identifier then .copied
      else if ctx.dynamic.contains t.text && ctx.macros.defines t.text then .place else .copied := by
  unfold front
  split
  · rfl
  split
  · rfl
  · split
    · rfl
    · rename_i hm
      rw [name_of_get? hm, if_pos (contains_iff_mem.mpr hd)]

theorem front_of_agree (h : Agree disabled macros ctx.macros) :
    front { ctx with macros } disabled t rest = front ctx disabled t rest := by
  by_cases hd : t.text ∈ disabled
  · rw [front_of_disabled hd, front_of_disabled hd]
    rw [h.defines]
  · unfold front
    rw [h.defines, h.enabled _ hd]

mutual

/-- **What a disabled name stands for has no part in the expansion.** -/
theorem expandTokens_of_agree (ctx : Context) (disabled : List String) (tokens : List MacroToken)
    (h : Agree disabled macros ctx.macros) :
    expandTokens { ctx with macros } disabled tokens = expandTokens ctx disabled tokens := by
  cases tokens with
  | nil => rw [expandTokens, expandTokens]
  | cons t rest =>
    have hrest := expandTokens_of_agree ctx disabled rest h
    have hfits := front_fits ctx disabled t rest
    rw [expandTokens_cons, expandTokens_cons, front_of_agree h]
    cases hfront : front ctx disabled t rest with (rw [hfront] at hfits; simp only [Front.expand])
    | copied => rw [hrest]
    | place =>
      rw [hrest]
      rfl
    | object m =>
      have := enabled_lt hfits.defined (by simpa using hfits.enabled)
      rw [hrest, expandTokens_of_agree ctx (m.name :: disabled) m.replacement (h.disable m.name)]
    | call m params args behind =>
      have := enabled_lt hfits.1.defined (by simpa using hfits.1.enabled)
      have := invocation_size hfits.2
      have hin := fun tokens =>
        expandTokens_of_agree ctx (m.name :: disabled) tokens (h.disable m.name)
      rw [expandArguments_of_agree ctx disabled args h, expandTokens_of_agree ctx disabled behind h, funext hin]
      rfl
    | refused cause => rfl
termination_by (enabled ctx.macros disabled, tokens.length)
decreasing_by
  all_goals first
    | exact .left _ _ (by assumption)
    | exact .right _ (by simp only [length_cons]; omega)

theorem expandArguments_of_agree (ctx : Context) (disabled : List String) (args : List (List MacroToken))
    (h : Agree disabled macros ctx.macros) :
    expandArguments { ctx with macros } disabled args = expandArguments ctx disabled args := by
  cases args with
  | nil => rw [expandArguments, expandArguments]
  | cons arg args =>
    rw [expandArguments, expandArguments, expandTokens_of_agree ctx disabled arg h,
      expandArguments_of_agree ctx disabled args h]
termination_by (enabled ctx.macros disabled, argsSize args)
decreasing_by
  all_goals
    simp only [argsSize]
    omega

end

end Agree

/-! ## 6. Expansion ends -/

/-- Two macros that stand for one another. -/
def mutualMacros : Context where
  macros := [⟨"a", [⟨.identifier, "b"⟩, ⟨.identifier, "a"⟩], none, false⟩,
    ⟨"b", [⟨.identifier, "a"⟩, ⟨.identifier, "b"⟩], none, false⟩]
  standard := .c11
  location := ⟨"<input>", 1, 0⟩
  baseFile := "<input>"
  dynamic := dynamicNames

example : run mutualMacros 8 (.start [] [⟨.identifier, "a"⟩] 0) =
    .ended (.ok [⟨.identifier, "a"⟩, ⟨.identifier, "b"⟩, ⟨.identifier, "a"⟩], 0)
      (mutualMacros.macros.zipWith .replaced [[], ["a"]]) := rfl

end CCompiler.Macro
