import CCompiler.Proofs.Macro.Expansion

/-!
# Replacements are looked through again

A replacement is looked through on its own, and what is copied from it bears no mark. So a name at its end
meets no arguments behind it, and a name that was copied because it was disabled may be replaced later.

* `expandTokens_inert` -- tokens that stand for nothing stay;
* `expandTokens_settled` -- where no macro leads back to itself, nothing is left to replace;
* `expandTokens_alias` -- a macro that stands for the name of another does not call it;
* `expandTokens_identity` -- an argument is expanded, put in place, and expanded once more.
-/
namespace CCompiler.Macro

open List
open Preprocess (Cause Failure Location)

variable {ctx : Context} {disabled : List String} {t : MacroToken} {tokens rest : List MacroToken} {m : Macro}
variable {name param : String} {args : List (List MacroToken)} {behind : List MacroToken}

/-! ## 1. What a token stands for -/

/-- A token that stays wherever it stands: it is no name of a macro, or this name is disabled. -/
def Inert (ctx : Context) (disabled : List String) (t : MacroToken) : Prop :=
  t.kind = .identifier → ctx.macros.get? t.text = none ∨ t.text ∈ disabled ∧ t.text ∉ ctx.dynamic

instance : Decidable (Inert ctx disabled t) := inferInstanceAs (Decidable (_ → _))

theorem front_inert (h : Inert ctx disabled t) : front ctx disabled t rest = .copied := by
  unfold front
  split
  · rfl
  · rename_i hkind
    rcases h (not_not.mp hkind) with hnone | ⟨hmem, hstatic⟩
    · simp [hnone, MacroTable.defines]
    · rw [if_neg (by simp [hstatic])]
      split
      · rfl
      · rename_i m hm
        rw [name_of_get? hm, if_pos (contains_iff_mem.mpr hmem)]

theorem Stands.notDynamic (h : Stands ctx disabled t m) : t.text ∉ ctx.dynamic := name_of_get? h.defined ▸ h.static

section Stands

variable (hkind : t.kind = .identifier) (h : Stands ctx disabled t m)
include hkind h

theorem front_object (hobject : m.params = none) : front ctx disabled t rest = .object m := by
  simp [front, hkind, h.notDynamic, h.defined, h.enabled, hobject]

variable {params : List String} (hparams : m.params = some params)
include hparams

theorem front_absent (habsent : invocation rest = .absent) : front ctx disabled t rest = .copied := by
  simp [front, hkind, h.notDynamic, h.defined, h.enabled, hparams, habsent]

theorem front_call (hcall : invocation rest = .call args behind) (hcount : checkCount m params args.length = .ok ()) :
    front ctx disabled t rest = .call m params args behind := by
  simp [front, hkind, h.notDynamic, h.defined, h.enabled, hparams, hcall, hcount]

/-- A macro with parameters is copied, refused or called. -/
theorem front_cases (rest : List MacroToken) : front ctx disabled t rest = .copied ∨
    (∃ cause, front ctx disabled t rest = .refused cause) ∨
    ∃ args behind, invocation rest = .call args behind ∧ checkCount m params args.length = .ok () := by
  cases hi : invocation rest with
  | absent => exact .inl (front_absent hkind h hparams hi)
  | unterminated =>
    exact .inr (.inl ⟨_, by simp [front, hkind, h.notDynamic, h.defined, h.enabled, hparams, hi]; rfl⟩)
  | call args behind =>
    cases hc : checkCount m params args.length with
    | error cause =>
      exact .inr (.inl ⟨cause, by simp [front, hkind, h.notDynamic, h.defined, h.enabled, hparams, hi, hc]⟩)
    | ok _ => exact .inr (.inr ⟨args, behind, rfl, hc⟩)

end Stands

theorem expandTokens_inert (h : ∀ t ∈ tokens, Inert ctx disabled t) :
    expandTokens ctx disabled tokens = pure tokens := by
  induction tokens with
  | nil => rw [expandTokens]
  | cons t tokens ih =>
    obtain ⟨ht, htokens⟩ := forall_mem_cons.mp h
    rw [expandTokens_cons, front_inert ht, Front.expand, ih htokens, pure_bind]

/-- A replacement of which nothing is replaced. -/
theorem expandTokens_object (hkind : t.kind = .identifier) (h : Stands ctx disabled t m)
    (hobject : m.params = none) (hinert : ∀ k ∈ m.replacement, Inert ctx (m.name :: disabled) k) :
    expandTokens ctx disabled (t :: rest) = (m.replacement ++ ·) <$> expandTokens ctx disabled rest := by
  rw [expandTokens_cons, front_object hkind h hobject, Front.expand, expandTokens_inert hinert, pure_bind,
    bind_pure_comp]

/-! ## 2. Names of macros with parameters -/

section Alias

variable {g f : Macro} {params : List String} (hg : Stands ctx disabled ⟨.identifier, g.name⟩ g)
  (hobject : g.params = none) (hreplacement : g.replacement = [⟨.identifier, f.name⟩])
  (hf : Stands ctx (g.name :: disabled) ⟨.identifier, f.name⟩ f) (hparams : f.params = some params)
include hg hobject hreplacement hf hparams

/-- A name that gives way to the name of a macro with parameters: the other name is looked at alone. -/
theorem expandTokens_alias (rest : List MacroToken) : expandTokens ctx disabled (⟨.identifier, g.name⟩ :: rest) =
      (⟨.identifier, f.name⟩ :: ·) <$> expandTokens ctx disabled rest := by
  have hname : expandTokens ctx (g.name :: disabled) [⟨.identifier, f.name⟩] = pure [⟨.identifier, f.name⟩] := by
    rw [expandTokens_cons, front_absent rfl hf hparams rfl, Front.expand, expandTokens, pure_bind]
  rw [expandTokens_cons, front_object rfl hg hobject, Front.expand, hreplacement, hname]
  rfl

/-- **A macro that stands for the name of another does not call it.** Its name gives way to the other name,
    and the tokens behind are expanded apart from it. The other name before these tokens becomes the same if
    no parenthesis follows. -/
theorem alias_calls_nothing (rest : List MacroToken) : expandTokens ctx disabled (⟨.identifier, g.name⟩ :: rest) =
        (⟨.identifier, f.name⟩ :: ·) <$> expandTokens ctx disabled rest ∧
      (invocation rest = .absent → expandTokens ctx disabled (⟨.identifier, g.name⟩ :: rest) =
        expandTokens ctx disabled (⟨.identifier, f.name⟩ :: rest)) := by
  have halias := expandTokens_alias hg hobject hreplacement hf hparams rest
  refine ⟨halias, fun habsent => ?_⟩
  have henabled : Stands ctx disabled ⟨.identifier, f.name⟩ f :=
    ⟨hf.defined, fun h => hf.enabled (List.mem_cons_of_mem _ h), hf.static⟩
  rw [halias, expandTokens_cons, front_absent rfl henabled hparams habsent, Front.expand, bind_pure_comp]

end Alias

/-! ## 3. One argument -/

/-- Whether tokens can be one argument, or the rest of one in which some parentheses are open: parentheses
    match, and a comma stands inside of them. -/
def isArgument (depth : Nat) : List MacroToken → Bool
  | [] => depth == 0
  | t :: rest =>
    if t.text = "(" then isArgument (depth + 1) rest
    else if t.text = ")" then depth != 0 && isArgument (depth - 1) rest
    else (t.text != "," || depth != 0) && isArgument depth rest

/-- A name, and tokens behind it in parentheses. -/
def callOf (name : String) (tokens : List MacroToken) : List MacroToken :=
  ⟨.identifier, name⟩ :: ⟨.punctuator, "("⟩ :: (tokens ++ [⟨.punctuator, ")"⟩])

theorem splitArguments_argument (h : isArgument depth tokens) :
    splitArguments depth (tokens ++ [⟨.punctuator, ")"⟩]) = some (tokens, [], []) := by
  induction tokens generalizing depth with
  | nil =>
    cases eq_of_beq h
    rfl
  | cons t tokens ih =>
    rw [isArgument] at h
    rw [cons_append, splitArguments]
    split_ifs at h with hopen hclose
    · rw [if_pos hopen, ih h]
      rfl
    · obtain ⟨hdepth, h⟩ := Bool.and_eq_true_iff.mp h
      rw [if_neg hopen, if_pos hclose, if_neg (by simpa using hdepth), ih h]
      rfl
    · obtain ⟨hcomma, h⟩ := Bool.and_eq_true_iff.mp h
      have hinside : ¬ (t.text = "," ∧ depth = 0) := by
        rintro ⟨htext, rfl⟩
        simp [htext] at hcomma
      rw [if_neg hopen, if_neg hclose, if_neg hinside, ih h]
      rfl

/-- The arguments and what stands behind them are among the tokens, in their order. -/
theorem splitArguments_sublist (h : splitArguments depth tokens = some (first, more, behind)) :
    ((first :: more).flatten ++ behind).Sublist tokens := by
  induction tokens generalizing depth first more with
  | nil => simp [splitArguments] at h
  | cons t tokens ih =>
    rw [splitArguments] at h
    have put {d : Nat} {first : List MacroToken}
        (h : (splitArguments d tokens).map (fun s => (t :: s.1, s.2)) = some (first, more, behind)) :
        ((first :: more).flatten ++ behind).Sublist (t :: tokens) := by
      obtain ⟨⟨a, b, c⟩, hs, heq⟩ := Option.map_eq_some_iff.mp h
      cases heq
      exact (ih hs).cons_cons t
    split_ifs at h with hopen hclose hdepth hcomma
    · exact put h
    · cases h
      exact (List.Sublist.refl _).cons t
    · exact put h
    · obtain ⟨⟨a, b, c⟩, hs, heq⟩ := Option.map_eq_some_iff.mp h
      cases heq
      exact (ih hs).cons t
    · exact put h

theorem invocation_sublist (h : invocation tokens = .call args behind) : (args.flatten ++ behind).Sublist tokens := by
  cases tokens with
  | nil => cases h
  | cons t tokens =>
    rw [invocation] at h
    split at h
    · cases h
    · split at h <;> cases h
      all_goals exact (splitArguments_sublist ‹_›).cons t

theorem invocation_argument (hne : tokens ≠ []) (h : isArgument 0 tokens) :
    invocation (⟨.punctuator, "("⟩ :: (tokens ++ [⟨.punctuator, ")"⟩])) = .call [tokens] [] := by
  rw [invocation, splitArguments_argument h]
  cases tokens with
  | nil => exact absurd rfl hne
  | cons t tokens => rfl

/-- The macro that stands for its argument. -/
def identity (name param : String) : Macro := ⟨name, [⟨.identifier, param⟩], some [param], false⟩

theorem replace_identity (argument : Argument) : replace ctx (identity name param) [param] [argument] =
      paste ctx.standard ctx.location argument.expanded := by
  simp [replace, identity, substituteFrom, substituteOne, Binding.get?, Binding.of]

/-- The argument of the macro that stands for it is expanded, pasted and expanded again. -/
theorem expandTokens_identity (h : Stands ctx disabled ⟨.identifier, name⟩ (identity name param)) (hne : tokens ≠ [])
    (harg : isArgument 0 tokens) :
    expandTokens ctx disabled (callOf name tokens) = (do
      let once ← expandTokens ctx disabled tokens
      let pasted ← liftM (paste ctx.standard ctx.location once)
      expandTokens ctx (name :: disabled) pasted) := by
  rw [callOf, expandTokens_cons, front_call rfl h rfl (invocation_argument hne harg) rfl, Front.expand]
  simp only [expandArguments, bind_assoc, pure_bind, replace_identity]
  rw [expandTokens]
  simp [identity]

/-! ## 4. Nothing is left to replace -/

/-- No macro leads back to itself: but for one, the macros of a table have no parameters, and the names of
    macros in the replacement of each have a smaller rank. No name is dynamic and nothing is pasted. -/
structure Ranked (ctx : Context) (name : String) (rank : String → Nat) : Prop where
  static : ∀ n ∈ ctx.dynamic, ctx.macros.defines n = false
  object : ∀ m ∈ ctx.macros, m.name ≠ name → m.params = none ∧ ∀ t ∈ m.replacement,
    t.text ∉ ["##", ""] ∧ (t.kind = .identifier → ctx.macros.defines t.text = true → t.text ≠ name →
      rank t.text < rank m.name)

/-- A token that is neither pasted nor replaced, or is the name of one macro. -/
def Settled (ctx : Context) (name : String) (t : MacroToken) : Prop :=
  t.text ∉ ["##", ""] ∧ (t.kind = .identifier → ctx.macros.get? t.text = none ∨ t.text = name)

/-- A token whose replacement meets none of the disabled names. -/
def Below (ctx : Context) (name : String) (rank : String → Nat) (disabled : List String) (t : MacroToken) : Prop :=
  t.text ∉ ["##", ""] ∧ (t.kind = .identifier → ctx.macros.defines t.text = true → t.text ≠ name →
    ∀ n ∈ disabled, n ≠ name → rank t.text < rank n)

theorem bind_eq_ok {α β : Type} {x : Expand α} {f : α → Expand β} {b : β} {count count' : Nat}
    (h : (x >>= f) count = (.ok b, count')) :
    ∃ a count1, x count = (.ok a, count1) ∧ f a count1 = (.ok b, count') := by
  rcases hx : x count with ⟨failure | a, count1⟩
  · rw [bind_of_error hx] at h
    cases h
  · rw [bind_of_ok hx] at h
    exact ⟨a, count1, rfl, h⟩

variable {standard : Standard} {location : Location} {done : List MacroToken}

theorem pasteFrom_cons (h : t.text ≠ "##") :
    pasteFrom standard location done (t :: rest) = pasteFrom standard location (t :: done) rest := by
  rw [pasteFrom.eq_def]
  simp only [h, ne_eq, not_false_eq_true, if_true]

/-- Tokens without `##` are gone over. -/
theorem pasteFrom_append (h : ∀ t ∈ tokens, t.text ≠ "##") (rest : List MacroToken) :
    pasteFrom standard location done (tokens ++ rest) =
      pasteFrom standard location (tokens.reverse ++ done) rest := by
  induction tokens generalizing done with
  | nil => rfl
  | cons t tokens ih =>
    obtain ⟨ht, htokens⟩ := forall_mem_cons.mp h
    rw [cons_append, pasteFrom_cons ht, ih htokens, reverse_cons, append_assoc]
    rfl

theorem pasteFrom_end
    (h : ∀ t ∈ tokens, t.text ≠ "##") : pasteFrom standard location done tokens = .ok (done.reverse ++ tokens) := by
  have hfrom : pasteFrom standard location done (tokens ++ []) = _ := pasteFrom_append h []
  rwa [append_nil, pasteFrom, reverse_append, reverse_reverse] at hfrom

theorem paste_settled (h : ∀ t ∈ tokens, Settled ctx name t) : paste standard location tokens = .ok tokens := by
  rw [paste, pasteFrom_end fun t ht htext => (h t ht).1 (by simp [htext])]
  show Except.ok (tokens.filter _) = _
  rw [filter_eq_self.mpr fun t ht => by simpa using fun htext => (h t ht).1 (by simp [htext])]

/-- **Where no macro leads back to itself, nothing is left to replace.** -/
theorem expandTokens_settled {rank : String → Nat}
    (hr : Ranked ctx name rank) (hname : ctx.macros.get? name = some (identity name param))
    (disabled : List String) (tokens : List MacroToken) : (∀ t ∈ tokens, Below ctx name rank disabled t) →
    ∀ {count count' : Nat} {out : List MacroToken},
      expandTokens ctx disabled tokens count = (.ok out, count') → ∀ t ∈ out, Settled ctx name t := by
  cases tokens with
  | nil =>
    intro _ count count' out hout
    rw [expandTokens] at hout
    cases hout
    simp
  | cons t rest =>
    intro htokens count count' out hout
    obtain ⟨ht, hrest⟩ := forall_mem_cons.mp htokens
    have hcopied (hs : Settled ctx name t) (hfront : front ctx disabled t rest = .copied) :
        ∀ t ∈ out, Settled ctx name t := by
      rw [expandTokens_cons, hfront] at hout
      obtain ⟨more, count1, hmore, heq⟩ := bind_eq_ok hout
      cases heq
      exact forall_mem_cons.mpr ⟨hs, expandTokens_settled hr hname disabled rest hrest hmore⟩
    by_cases hkind : t.kind = .identifier
    swap
    · exact hcopied ⟨ht.1, fun h => absurd h hkind⟩ (front_inert fun h => absurd h hkind)
    cases hm : ctx.macros.get? t.text with
    | none => exact hcopied ⟨ht.1, fun _ => .inl hm⟩ (front_inert fun _ => .inl hm)
    | some m =>
      have hmname := name_of_get? hm
      have hdefines : ctx.macros.defines t.text := by simp [MacroTable.defines, hm]
      have hstatic : t.text ∉ ctx.dynamic := fun h => by simp [hr.static _ h] at hdefines
      by_cases hmem : t.text ∈ disabled
      · have htext : t.text = name := by
          by_contra hne
          exact lt_irrefl _ (ht.2 hkind hdefines hne _ hmem hne)
        exact hcopied ⟨ht.1, fun _ => .inr htext⟩ (front_inert fun _ => .inr ⟨hmem, hstatic⟩)
      have hstands : Stands ctx disabled t m := ⟨hm, hmname ▸ hmem, hmname ▸ hstatic⟩
      have := enabled_lt hm (by simpa using hstands.enabled)
      by_cases htext : t.text = name
      · -- the macro that stands for its argument
        obtain rfl : identity name param = m := Option.some.inj (hname.symm.trans (htext ▸ hm))
        rcases front_cases hkind hstands rfl rest with hfront | ⟨cause, hfront⟩ | ⟨args, behind, hi, hcount⟩
        · exact hcopied ⟨ht.1, fun _ => .inr htext⟩ hfront
        · rw [expandTokens_cons, hfront] at hout
          cases hout
        · obtain ⟨arg, rfl⟩ : ∃ arg, args = [arg] := by
            simpa [checkCount, identity, length_eq_one_iff] using hcount
          have hsize : arg.length + behind.length < rest.length := by
            have := invocation_size hi
            simp only [argsSize] at this
            omega
          have hsub := (invocation_sublist hi).subset
          rw [expandTokens_cons, front_call hkind hstands rfl hi hcount] at hout
          obtain ⟨arguments, count1, hargs, hout⟩ := bind_eq_ok hout
          rw [expandArguments] at hargs
          obtain ⟨once, count2, honce, hargs⟩ := bind_eq_ok hargs
          rw [expandArguments] at hargs
          cases hargs
          have hsettled := expandTokens_settled hr hname disabled arg (fun t ht => hrest t (hsub (by simp [ht]))) honce
          obtain ⟨replaced, count3, hreplaced, hout⟩ := bind_eq_ok hout
          rw [replace_identity, paste_settled hsettled] at hreplaced
          cases hreplaced
          obtain ⟨again, count4, hagain, hout⟩ := bind_eq_ok hout
          rw [expandTokens_inert fun k hk hkkind => ((hsettled k hk).2 hkkind).imp_right fun h =>
            ⟨by simp [h, identity], by rwa [h, ← htext]⟩] at hagain
          cases hagain
          obtain ⟨more, count5, hmore, heq⟩ := bind_eq_ok hout
          cases heq
          exact forall_mem_append.mpr ⟨hsettled,
            expandTokens_settled hr hname disabled behind (fun k hk => hrest k (hsub (by simp [hk]))) hmore⟩
      · obtain ⟨hobject, hreplacement⟩ := hr.object m (mem_of_find?_eq_some hm) (hmname ▸ htext)
        rw [expandTokens_cons, front_object hkind hstands hobject] at hout
        obtain ⟨replaced, count1, hreplaced, hout⟩ := bind_eq_ok hout
        obtain ⟨more, count2, hmore, heq⟩ := bind_eq_ok hout
        cases heq
        refine forall_mem_append.mpr ⟨expandTokens_settled hr hname (m.name :: disabled) m.replacement
          (fun k hk => ⟨(hreplacement k hk).1, fun hkkind hkdef hkname n hn hnname => ?_⟩) hreplaced,
          expandTokens_settled hr hname disabled rest hrest hmore⟩
        have hbelow := (hreplacement k hk).2 hkkind hkdef hkname
        rcases mem_cons.mp hn with rfl | hn
        · exact hbelow
        · exact (hmname ▸ hbelow).trans (ht.2 hkind hdefines htext n hn hnname)
termination_by (enabled ctx.macros disabled, tokens.length)
decreasing_by
  all_goals first
    | exact .left _ _ (by assumption)
    | exact .right _ (by simp only [length_cons]; omega)

/-- **An argument is expanded twice.** A call of the macro that stands for its argument expands the argument,
    pastes in it, and expands it once more; names that were copied because they were disabled are enabled
    again. Where no macro leads back to itself this is the expansion of the argument. -/
theorem argument_expanded_twice {name param : String}
    (h : Stands ctx [] ⟨.identifier, name⟩ (identity name param)) (hne : tokens ≠ [])
    (harg : isArgument 0 tokens = true) :
    expand ctx (callOf name tokens) = (do
        let once ← expand ctx tokens
        let pasted ← liftM (paste ctx.standard ctx.location once)
        expandTokens ctx [name] pasted) ∧
      ∀ rank, Ranked ctx name rank → (∀ t ∈ tokens, t.text ∉ ["##", ""]) →
        expand ctx (callOf name tokens) = expand ctx tokens := by
  refine ⟨expandTokens_identity h hne harg, fun rank hr htokens => funext fun count => ?_⟩
  rw [expand, expandTokens_identity h hne harg, expand]
  rcases honce : expandTokens ctx [] tokens count with ⟨failure | once, count'⟩
  · exact bind_of_error honce
  · have hsettled := expandTokens_settled hr h.defined [] tokens
      (fun t ht => ⟨htokens t ht, fun _ _ _ => nofun⟩) honce
    have hinert : expandTokens ctx [name] once = pure once := expandTokens_inert fun k hk hkind =>
      ((hsettled k hk).2 hkind).imp_right fun htext => ⟨List.mem_singleton.mpr htext, htext ▸ h.static⟩
    rw [bind_of_ok honce, paste_settled hsettled]
    exact congrFun hinert count'

/-- A macro with another one in its replacement, and the macro that stands for its argument. -/
def rankedMacros : Context :=
  { mutualMacros with
    macros := [⟨"aa", [⟨.identifier, "b"⟩, ⟨.number, "1"⟩], none, false⟩, ⟨"b", [⟨.number, "2"⟩], none, false⟩,
      identity "f" "x"] }

/-- Names are ranked by their length. -/
theorem ranked_argument_expanded :
    Ranked rankedMacros "f" String.length ∧ isArgument 0 [⟨.identifier, "aa"⟩] = true ∧
      expand rankedMacros (callOf "f" [⟨.identifier, "aa"⟩]) = expand rankedMacros [⟨.identifier, "aa"⟩] := by
  have hranked : Ranked rankedMacros "f" String.length := ⟨by decide, by decide⟩
  have hstands : Stands rankedMacros [] ⟨.identifier, "f"⟩ (identity "f" "x") := ⟨rfl, by decide, by decide⟩
  exact ⟨hranked, rfl, (argument_expanded_twice hstands (by simp) rfl).2 _ hranked (by decide)⟩

/-- The macro that stands for the name of another. -/
def nameAlias : Macro := ⟨"g", [⟨.identifier, "f"⟩], none, false⟩

/-- A macro that names itself, the macro that stands for its argument, and one that stands for its name. -/
def selfMacros : Context :=
  { mutualMacros with
    macros := [⟨"a", [⟨.identifier, "a"⟩, ⟨.identifier, "b"⟩], none, false⟩, identity "f" "x", nameAlias] }

/-- The name of a macro that was copied from its own replacement is replaced again. -/
theorem self_name_replaced_again :
    expand selfMacros [⟨.identifier, "a"⟩] 0 = (.ok [⟨.identifier, "a"⟩, ⟨.identifier, "b"⟩], 0) ∧
      expand selfMacros (callOf "f" [⟨.identifier, "a"⟩]) 0 =
        (.ok [⟨.identifier, "a"⟩, ⟨.identifier, "b"⟩, ⟨.identifier, "b"⟩], 0) := by
  have honce : expandTokens selfMacros [] [⟨.identifier, "a"⟩] =
      pure [⟨.identifier, "a"⟩, ⟨.identifier, "b"⟩] := by
    rw [expandTokens_object rfl ⟨rfl, by decide, by decide⟩ rfl (by decide), expandTokens]
    rfl
  have hagain : expandTokens selfMacros ["f"] [⟨.identifier, "a"⟩, ⟨.identifier, "b"⟩] =
      pure [⟨.identifier, "a"⟩, ⟨.identifier, "b"⟩, ⟨.identifier, "b"⟩] := by
    rw [expandTokens_object rfl ⟨rfl, by decide, by decide⟩ rfl (by decide), expandTokens_inert (by decide)]
    rfl
  have hpaste : paste selfMacros.standard selfMacros.location [⟨.identifier, "a"⟩, ⟨.identifier, "b"⟩] =
      .ok [⟨.identifier, "a"⟩, ⟨.identifier, "b"⟩] := by simp [paste, pasteFrom, Except.map]
  refine ⟨congrFun honce 0, ?_⟩
  rw [expand, expandTokens_identity ⟨rfl, by decide, by decide⟩ (by simp) rfl, honce, pure_bind, hpaste]
  exact congrFun hagain 0

theorem nameAlias_stands : Stands selfMacros [] ⟨.identifier, "g"⟩ nameAlias := ⟨rfl, by decide, by decide⟩

theorem identity_stands : Stands selfMacros ["g"] ⟨.identifier, "f"⟩ (identity "f" "x") :=
  ⟨rfl, by decide, by decide⟩

theorem alias_before_semicolon :
    Stands selfMacros [] ⟨.identifier, "g"⟩ nameAlias ∧
      Stands selfMacros ["g"] ⟨.identifier, "f"⟩ (identity "f" "x") ∧
      expandTokens selfMacros [] [⟨.identifier, "g"⟩, ⟨.punctuator, ";"⟩] =
        expandTokens selfMacros [] [⟨.identifier, "f"⟩, ⟨.punctuator, ";"⟩] :=
  ⟨nameAlias_stands, identity_stands, (alias_calls_nothing (g := nameAlias) (f := identity "f" "x")
    nameAlias_stands rfl rfl identity_stands rfl [⟨.punctuator, ";"⟩]).2 rfl⟩

/-- The name behind an alias takes no argument. -/
theorem alias_leaves_call :
    expand selfMacros (callOf "g" [⟨.number, "1"⟩]) 0 = (.ok (callOf "f" [⟨.number, "1"⟩]), 0) ∧
      expand selfMacros (callOf "f" [⟨.number, "1"⟩]) 0 = (.ok [⟨.number, "1"⟩], 0) := by
  have halias := expandTokens_alias (g := nameAlias) (f := identity "f" "x") nameAlias_stands rfl rfl
    identity_stands rfl (callOf "g" [⟨.number, "1"⟩]).tail
  have hpaste : paste selfMacros.standard selfMacros.location [⟨.number, "1"⟩] = .ok [⟨.number, "1"⟩] := by
    simp [paste, pasteFrom, Except.map]
  constructor
  · have hrest : expandTokens selfMacros [] (callOf "g" [⟨.number, "1"⟩]).tail = pure _ :=
      expandTokens_inert (by decide)
    rw [hrest] at halias
    exact congrFun halias 0
  · rw [expand, expandTokens_identity ⟨rfl, by decide, by decide⟩ (by simp) rfl, expandTokens_inert (by decide),
      pure_bind, hpaste]
    exact congrFun (expandTokens_inert (by decide)) 0

end CCompiler.Macro
