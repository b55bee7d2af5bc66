import CCompiler.Command.Run
import CCompiler.Proofs.Steps

/-!
# The arguments kept for the other compiler

Arguments of our own are left out of what the other compiler gets, and what is left out says nothing about
inputs: whoever reads the kept arguments finds the same C inputs.

* `ofArguments_forwarded` -- the kept arguments name the same C inputs as the given ones
* `readFrom_assemble` -- the arguments of the tool that turns assembly into a program name none
* `ofArguments_filters` -- the kept arguments are the items that do not choose the generator
-/
namespace CCompiler.BuildConfig

variable {c d : BuildConfig} {language : Language} {arg path value : String} {argv : List String}

/-! ## 1. Steps of the reader -/

@[simp] theorem forward_cInputs (args : List String) : (c.forward args).cInputs = c.cInputs := rfl

@[simp] theorem forward_forwarded (args : List String) : (c.forward args).forwarded = c.forwarded ++ args := rfl

@[simp] theorem setFlag_cInputs (f : Flag) : (c.setFlag f).cInputs = c.cInputs := by
  cases f <;> simp only [setFlag] <;> split <;> rfl

@[simp] theorem setFlag_forwarded (f : Flag) : (c.setFlag f).forwarded = c.forwarded := by
  cases f <;> simp only [setFlag] <;> split <;> rfl

variable {o : ValueOption} {c1 : BuildConfig} {kept : List String}

/-- Setting a value is a matter of the value, and leaves the inputs and the kept arguments alone. -/
theorem setValue_ok (h : c.setValue value o = .ok d) : d.cInputs = c.cInputs ∧ d.forwarded = c.forwarded ∧
      ∀ c' : BuildConfig, ∃ d', c'.setValue value o = .ok d' ∧ d'.cInputs = c'.cInputs := by
  cases o with
  | backend | standard =>
    simp only [setValue] at h ⊢
    split at h <;> cases h
    exact ⟨rfl, rfl, fun c' => ⟨_, rfl, rfl⟩⟩
  | _ =>
    cases h
    exact ⟨rfl, rfl, fun c' => ⟨_, rfl, rfl⟩⟩

theorem addInput_cInputs (h : c.cInputs = d.cInputs) :
    (c.addInput language path).cInputs = (d.addInput language path).cInputs := by
  unfold addInput
  split
  · simp only [h]
  · exact h

theorem addInput_forwarded : (c.addInput language path).forwarded = c.forwarded := by
  unfold addInput
  split <;> rfl

theorem addInputs_cInputs (paths : List String) (h : c.cInputs = d.cInputs) :
    (paths.foldl (fun c path => c.addInput language path) c).cInputs =
      (paths.foldl (fun c path => c.addInput language path) d).cInputs := by
  induction paths generalizing c d with
  | nil => exact h
  | cons path paths ih => exact ih (addInput_cInputs h)

theorem addInputs_forwarded (paths : List String) :
    (paths.foldl (fun c path => c.addInput language path) c).forwarded = c.forwarded := by
  induction paths generalizing c with
  | nil => rfl
  | cons path paths ih => exact ih.trans addInput_forwarded

/-! ## 2. Reading the kept arguments -/

/-- What a list of arguments adds to the C inputs, as seen from any other configuration with the same. -/
def Repeats (c d : BuildConfig) (language : Language) (kept : List String) : Prop :=
  ∀ c' : BuildConfig, c'.cInputs = c.cInputs → ∃ d', readFrom c' language kept = .ok d' ∧ d'.cInputs = d.cInputs

/-- One argument, or an option with its value, that both readings take alike. -/
theorem Repeats.step (front : List String)
    (hstep : ∀ c' : BuildConfig, c'.cInputs = c.cInputs → ∃ c1' : BuildConfig, c1'.cInputs = c1.cInputs ∧
      ∀ rest, readFrom c' language (front ++ rest) = readFrom c1' after rest)
    (h : Repeats c1 d after kept) : Repeats c d language (front ++ kept) := by
  intro c' hc'
  obtain ⟨c1', hc1, hread⟩ := hstep c' hc'
  rw [hread]
  exact h c1' hc1

/-- An option with its value: our own is left out, every other is read again. -/
theorem Repeats.option (hset : c.setValue value o = .ok c1)
    (hread : ∀ (c' : BuildConfig) (rest : List String), readFrom c' language (front ++ rest) =
      (c'.setValue value o).bind fun c' =>
        readFrom (c'.forwardOption o front) (languageAfter language o value) rest)
    (hkept : d.forwarded = (c1.forwardOption o front).forwarded ++ kept)
    (hrep : Repeats (c1.forwardOption o front) d (languageAfter language o value) kept) :
    ∃ kept', d.forwarded = c.forwarded ++ kept' ∧ Repeats c d language kept' := by
  obtain ⟨hinputs, hforwarded, hagain⟩ := setValue_ok hset
  by_cases ho : o = .backend
  · subst ho
    refine ⟨kept, hkept.trans (by rw [forwardOption, if_pos rfl, hforwarded]), fun c' hc' => ?_⟩
    exact hrep c' (hc'.trans hinputs.symm)
  · rw [forwardOption, if_neg ho] at hkept hrep
    refine ⟨front ++ kept, by simpa [hforwarded] using hkept, hrep.step front fun c' hc' => ?_⟩
    obtain ⟨c1', hset', hinputs'⟩ := hagain c'
    refine ⟨c1'.forward front, hinputs'.trans (hc'.trans hinputs.symm), fun rest => ?_⟩
    rw [hread, hset']
    show readFrom (c1'.forwardOption o front) _ rest = _
    rw [forwardOption, if_neg ho]

/-- Reading the kept arguments in the same language gives the same C inputs. -/
theorem readFrom_forwarded (h : readFrom c language argv = .ok d) :
    ∃ kept, d.forwarded = c.forwarded ++ kept ∧ Repeats c d language kept := by
  fun_induction readFrom c language argv with
  | case1 c language =>
    cases h
    exact ⟨[], by simp, fun c' hc' => ⟨c', rfl, hc'⟩⟩
  | case2 c language arg rest hread =>
    cases h
    refine ⟨arg :: rest, addInputs_forwarded _, fun c' hc' => ?_⟩
    refine ⟨c'.addRest language (arg :: rest), ?_, addInputs_cInputs _ hc'⟩
    rw [readFrom, hread]
  | case3 c language arg rest hread ih =>
    -- our own flag is not kept, and the C inputs do not notice
    exact ih h
  | case4 c language arg rest f hf hread ih =>
    obtain ⟨kept, hkept, hrep⟩ := ih h
    refine ⟨arg :: kept, by simpa using hkept, hrep.step [arg] fun c' hc' => ?_⟩
    refine ⟨(c'.setFlag f).forward [arg], by simpa using hc', fun rest' => ?_⟩
    rw [List.singleton_append, readFrom, hread]
    cases f <;> first | rfl | exact absurd rfl hf
  | case5 c language arg rest o value hread ih =>
    obtain ⟨c1, hset, h⟩ := bind_ok h
    obtain ⟨kept, hkept, hrep⟩ := ih c1 h
    refine Repeats.option hset (fun c' rest' => ?_) hkept hrep
    rw [List.singleton_append, readFrom, hread]
    rfl
  | case6 c language arg o hread => cases h
  | case7 c language arg o hread value rest ih =>
    obtain ⟨c1, hset, h⟩ := bind_ok h
    obtain ⟨kept, hkept, hrep⟩ := ih c1 h
    refine Repeats.option hset (fun c' rest' => ?_) hkept hrep
    rw [List.cons_append, readFrom, hread]
    rfl
  | case8 c language arg rest path hread ih =>
    obtain ⟨kept, hkept, hrep⟩ := ih h
    rw [addInput_forwarded] at hkept
    refine ⟨arg :: kept, by simpa using hkept, hrep.step [arg] fun c' hc' => ?_⟩
    refine ⟨(c'.forward [arg]).addInput language path, addInput_cInputs (by simpa using hc'), fun rest' => ?_⟩
    rw [List.singleton_append, readFrom, hread]
  | case9 c language arg rest hread ih =>
    obtain ⟨kept, hkept, hrep⟩ := ih h
    refine ⟨arg :: kept, by simpa using hkept, hrep.step [arg] fun c' hc' => ?_⟩
    refine ⟨{ c'.forward [arg] with unknownFlags := c'.unknownFlags ++ [arg] }, hc', fun rest' => ?_⟩
    rw [List.singleton_append, readFrom, hread]

/-- **The kept arguments name the same C inputs as the given ones.** -/
theorem ofArguments_forwarded (h : ofArguments argv = .ok c) :
    ∃ d, ofArguments c.forwarded = .ok d ∧ d.cInputs = c.cInputs := by
  obtain ⟨kept, hkept, hrep⟩ := readFrom_forwarded h
  rw [hkept]
  exact hrep {} rfl

/-! ## 3. Items -/

/-- The options whose value may be the argument behind them. -/
def separateOptions : List String :=
  ["--backend", "-x", "-std", "-o", "-I", "-iquote", "-isystem", "-idirafter", "-include", "-imacros", "-D", "-U"]

/-- The items of arguments. -/
def items : List String → List (List String)
  | [] => []
  | arg :: rest =>
    if arg = "--" then [arg :: rest]
    else if arg ∈ separateOptions then
      match rest with
      | [] => [[arg]]
      | value :: rest => [arg, value] :: items rest
    else [arg] :: items rest

/-- Whether an item chooses the generator, which its first argument tells. -/
def isOwn (item : List String) : Bool :=
  item.head?.any fun arg =>
    arg = "--backend" || arg = "--no-backend-fallback" || "--backend=".toList.isPrefixOf arg.toList

/-- The arguments of the items that are not our own. -/
def others (argv : List String) : List String := ((items argv).filter (!isOwn ·)).flatten

/-- An argument that is an item alone, and whether it is one of our own. -/
def Alone (arg : String) (own : Bool) : Prop := arg ≠ "--" ∧ arg ∉ separateOptions ∧ isOwn [arg] = own

section Items

variable {own : Bool} {rest : List String}

/-- Nothing is lost between items. -/
theorem flatten_items (argv : List String) : (items argv).flatten = argv := by
  fun_induction items argv <;> simp_all

theorem Alone.others (h : Alone arg own) :
    others (arg :: rest) = (if own then [] else [arg]) ++ BuildConfig.others rest := by
  obtain ⟨hsep, hopt, rfl⟩ := h
  rw [BuildConfig.others, items.eq_def]
  cases ho : isOwn [arg] <;> simp [BuildConfig.others, hsep, hopt, ho]

theorem others_option (o : ValueOption) :
    others (o.spelling :: value :: rest) = (if o = .backend then [] else [o.spelling, value]) ++ others rest := by
  have hsep : o.spelling ≠ "--" := by cases o <;> decide
  have hopt : o.spelling ∈ separateOptions := by cases o <;> decide
  have hown : isOwn [o.spelling, value] = decide (o = .backend) := by cases o <;> rfl
  rw [others, items.eq_def]
  dsimp only
  rw [if_neg hsep, if_pos hopt, List.filter_cons, hown]
  by_cases ho : o = .backend <;> simp [others, ho]

end Items

/-! ## 4. What is kept -/

/-- An argument that is no flag and no option by itself is our own if it joins an option to a generator's name. -/
theorem alone_of_not_listed (hsep : arg ≠ "--") (hflag : flags.lookup arg = none)
    (hopt : ValueOption.all.find? (·.spelling == arg) = none) : Alone arg (joined? .backend arg).isSome := by
  have hspelled : arg ∉ separateOptions := by
    have hall : separateOptions = ValueOption.all.map ValueOption.spelling := by decide
    rw [hall]
    intro hmem
    obtain ⟨o, ho, rfl⟩ := List.mem_map.mp hmem
    simpa using List.find?_eq_none.mp hopt o ho
  have hbackend : arg ≠ "--backend" := by
    rintro rfl
    exact hspelled (by decide)
  have hfallback : arg ≠ "--no-backend-fallback" := by
    rintro rfl
    revert hflag
    decide
  refine ⟨hsep, hspelled, ?_⟩
  have hfront : (ValueOption.spelling .backend ++ ValueOption.sign .backend).toList = "--backend=".toList := by decide
  simp only [isOwn, joined?, hfront, List.head?_cons, Option.any_some, hbackend, hfallback]
  cases "--backend=".toList.isPrefixOf arg.toList <;> rfl

/-- The item that an argument begins, by what is read from it: everything from a separator on, an option with the
    value behind it, or the argument alone. -/
def Begins (arg : String) : Argument → Prop
  | .separator => arg = "--"
  | .option o none => o.spelling = arg
  | .option o (some _) => Alone arg (o = .backend)
  | .flag f => (arg, f) ∈ flags
  | .input path => path = arg ∧ Alone arg false
  | .unknown => Alone arg false

theorem alone_of_flag (h : (arg, f) ∈ flags) : Alone arg (f = .noFallback) := by
  have hall : ∀ p ∈ flags, Alone p.1 (p.2 = .noFallback) := by unfold Alone; decide
  exact hall (arg, f) h

/-- **What is read from an argument says which item it begins.** -/
theorem readArgument_begins (h : readArgument arg = a) : Begins arg a := by
  subst h
  unfold readArgument
  by_cases hsep : arg = "--"
  · rw [if_pos (by simpa using hsep)]
    exact hsep
  rw [if_neg (by simpa using hsep)]
  cases hflag : flags.lookup arg with
  | some f => exact mem_of_lookup hflag
  | none =>
    dsimp only
    unfold option?
    cases hopt : ValueOption.all.find? (·.spelling == arg) with
    | some o => exact show o.spelling = arg by simpa using List.find?_some hopt
    | none =>
      have halone := alone_of_not_listed hsep hflag hopt
      -- the generator is the first option that an argument is tried for
      rw [ValueOption.all, List.findSome?_cons]
      cases hback : joined? .backend arg with rw [hback] at halone
      | some value => exact halone
      | none =>
        split
        · rename_i a ha
          obtain ⟨o, hmem, ho⟩ := List.exists_of_findSome?_eq_some ha
          obtain ⟨value, -, rfl⟩ := Option.map_eq_some_iff.mp ho
          have hne : o ≠ .backend := by
            rintro rfl
            revert hmem
            decide
          simpa [Begins, hne] using halone
        · split
          · exact ⟨rfl, halone⟩
          · exact halone

/-- Reading keeps the items that are not our own, behind what was kept before. -/
theorem readFrom_others (h : readFrom c language argv = .ok d) : d.forwarded = c.forwarded ++ others argv := by
  fun_induction readFrom c language argv with
  | case1 c language =>
    cases h
    simp [others, items]
  | case2 c language arg rest hread =>
    cases h
    rw [show arg = "--" from readArgument_begins hread, others, items.eq_def]
    exact (addInputs_forwarded _).trans (by simp [isOwn])
  | case3 c language arg rest hread ih =>
    rw [ih h, (alone_of_flag (readArgument_begins hread)).others]
    simp
  | case4 c language arg rest f hf hread ih =>
    rw [ih h, (alone_of_flag (readArgument_begins hread)).others]
    simp [show f ≠ .noFallback from hf]
  | case5 c language arg rest o value hread ih =>
    obtain ⟨c1, hset, h⟩ := bind_ok h
    rw [ih c1 h, Alone.others (readArgument_begins hread), forwardOption]
    split <;> simp_all [(setValue_ok hset).2.1]
  | case6 c language arg o hread => cases h
  | case7 c language arg o hread value rest ih =>
    obtain ⟨c1, hset, h⟩ := bind_ok h
    rw [ih c1 h, ← show o.spelling = arg from readArgument_begins hread, others_option, forwardOption]
    split <;> simp [(setValue_ok hset).2.1]
  | case8 c language arg rest path hread ih =>
    rw [ih h, addInput_forwarded, (readArgument_begins hread).2.others]
    simp
  | case9 c language arg rest hread ih =>
    rw [ih h, Alone.others (readArgument_begins hread)]
    simp [forward]

/-- **The other compiler is given the arguments without those that choose the generator.** Every argument
    belongs to one item, and the items that are not our own are kept whole and in order. -/
theorem ofArguments_filters (h : ofArguments argv = .ok c) :
    (items argv).flatten = argv ∧ c.forwarded = ((items argv).filter (!isOwn ·)).flatten :=
  ⟨flatten_items argv, readFrom_others h⟩

/-- Values that are spelled like our own options are kept, and so is what follows a separator. -/
theorem ofArguments_filters_values :
    ∃ c, ofArguments ["--backend", "clang", "-D", "--backend", "--backend=xcc", "a.c", "--", "--backend"] = .ok c ∧
      c.forwarded = ["-D", "--backend", "a.c", "--", "--backend"] := by
  refine Exists.imp (fun c hc => ⟨hc, (ofArguments_filters hc).2.trans ?_⟩) ⟨_, rfl⟩
  decide +kernel

/-! ## 5. The arguments that turn assembly into a program -/

/-- Whether a name is that of a file with assembly. -/
def NamesAssembly (path : String) : Prop := ['.', 's'] <:+ path.toList

instance : DecidablePred NamesAssembly := fun path => inferInstanceAs (Decidable (_ <:+ path.toList))

/-- The name of assembly is no flag and no option that waits for a value. -/
theorem readArgument_assembly (h : NamesAssembly path) :
    (∃ o value, readArgument path = .option o (some value)) ∨ readArgument path = .input path ∨
      readArgument path = .unknown := by
  have hbegins : Begins path (readArgument path) := readArgument_begins rfl
  cases hread : readArgument path with rw [hread] at hbegins
  | separator =>
    cases hbegins
    exact absurd h (by decide)
  | flag f =>
    have hnot : ∀ p ∈ flags, ¬ NamesAssembly p.1 := by decide
    exact absurd h (hnot _ hbegins)
  | option o value? =>
    cases value? with
    | none =>
      cases hbegins
      exact absurd h (by cases o <;> decide)
    | some value => exact .inl ⟨o, value, rfl⟩
  | input p => exact .inr (.inl (congrArg _ hbegins.1))
  | unknown => exact .inr (.inr rfl)

theorem isC_assembly (h : NamesAssembly path) : isC none path = false := by
  obtain ⟨front, hfront⟩ := h
  have hc : ".c".toList.isSuffixOf path.toList = false := by
    rw [← hfront, Bool.eq_false_iff]
    intro hs
    obtain ⟨front', hfront'⟩ := List.isSuffixOf_iff_suffix.mp hs
    have hlast := congrArg List.getLast? hfront'
    simp at hlast
  rw [isC, hc]
  simp

theorem readFrom_output (c : BuildConfig) (language : Language) (output : String) :
    ∃ d, readFrom c language ["-o", output] = .ok d ∧ d.cInputs = c.cInputs := by
  have hread : readArgument "-o" = .option .output none := by decide
  refine ⟨({ c with output := some output } : BuildConfig).forward ["-o", output], ?_, rfl⟩
  rw [readFrom, hread]
  rfl

/-- Assembly and where the result goes: no C input. -/
theorem readFrom_assemble {source output : String} (h : NamesAssembly source)
    (hread : readFrom c none [source, "-o", output] = .ok d) : d.cInputs = c.cInputs := by
  have last : ∀ {c1 : BuildConfig} (language : Language), c1.cInputs = c.cInputs →
      readFrom c1 language ["-o", output] = .ok d → d.cInputs = c.cInputs := by
    intro c1 language hc1 hd
    obtain ⟨d', hd', hinputs⟩ := readFrom_output c1 language output
    rw [hd] at hd'
    cases hd'
    exact hinputs.trans hc1
  rw [readFrom] at hread
  rcases readArgument_assembly h with ⟨o, value, ha⟩ | ha | ha <;> rw [ha] at hread
  · obtain ⟨c1, hset, hread⟩ := bind_ok hread
    have hinputs : (c1.forwardOption o [source]).cInputs = c.cInputs := by
      unfold forwardOption
      split <;> exact (setValue_ok hset).1
    exact last (languageAfter none o value) hinputs hread
  · refine last none ?_ hread
    rw [addInput, isC_assembly h]
    rfl
  · exact last none (by rfl) hread

end CCompiler.BuildConfig
