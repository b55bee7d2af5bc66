import CCompiler.Source.Phases
import Mathlib.Data.List.SplitBy

/-!
# Lines that are scanned

Scanning counts lines behind the first two phases, which may join lines and divide them. Where texts are put
one behind another, the lines that are scanned are these texts under a condition on each of them and on each
seam.

* `phaseTwo_seam` -- behind a whole line the phases begin anew, unless the seam divides a line end;
* `scanLines_eq_iff` -- texts are the lines that are scanned if, and only if, each is a line.
-/
namespace CCompiler.Source

open List

variable {a b : List Char} {texts : List (List Char)} {c : Char} {text : List Char}

theorem unifyLineEnds_cons (h : c ≠ '\r') (cs : List Char) : unifyLineEnds (c :: cs) = c :: unifyLineEnds cs := by
  rw [unifyLineEnds]
  · rintro ds rfl
    exact absurd rfl h
  · exact h

theorem replaceTrigraphs_cons (h : c ≠ '?') (cs : List Char) :
    replaceTrigraphs (c :: cs) = c :: replaceTrigraphs cs := by
  rw [replaceTrigraphs]
  rintro d ds rfl
  exact absurd rfl h

/-- A phase that only one character starts leaves a text without it alone. -/
theorem append_of_cons {f : List Char → List Char} (hf : ∀ {d}, d ≠ c → ∀ cs, f (d :: cs) = d :: f cs)
    (h : c ∉ a) (b : List Char) : f (a ++ b) = a ++ f b := by
  induction a with
  | nil => rfl
  | cons d a ih =>
    rw [mem_cons, not_or] at h
    rw [cons_append, hf (Ne.symm h.1), ih h.2, cons_append]

theorem unifyLineEnds_plain (h : '\r' ∉ a) : unifyLineEnds a = a := by
  simpa [unifyLineEnds] using append_of_cons unifyLineEnds_cons h []

/-- A seam between two texts divides a line end of two characters. -/
def DividesLineEnd (a b : List Char) : Prop := a.getLast? = some '\r' ∧ b.head? = some '\n'

theorem getLast?_of_tail {α : Type} {x y : α} {xs : List α} (h : xs.getLast? = some y) :
    (x :: xs).getLast? = some y := by
  rw [getLast?_cons, h]
  rfl

theorem DividesLineEnd.cons (h : DividesLineEnd a b) : DividesLineEnd (c :: a) b := ⟨getLast?_of_tail h.1, h.2⟩

theorem unifyLineEnds_seam (h : ¬ DividesLineEnd a b) :
    unifyLineEnds (a ++ b) = unifyLineEnds a ++ unifyLineEnds b := by
  fun_induction unifyLineEnds a with
  | case1 => rfl
  | case2 rest ih =>
    rw [cons_append, cons_append, unifyLineEnds, ih fun hd => h hd.cons.cons, cons_append]
  | case3 rest hnext ih =>
    rw [cons_append, unifyLineEnds, ih fun hd => h hd.cons, cons_append]
    intro more heq
    cases rest with
    | nil => exact h ⟨rfl, by rw [nil_append] at heq; rw [heq]; rfl⟩
    | cons c rest =>
      cases heq
      exact hnext rest rfl
  | case4 c rest hpair hreturn ih =>
    rw [cons_append, unifyLineEnds_cons hreturn, ih fun hd => h hd.cons, cons_append]

/-- A line end that a seam divides is one line end. -/
theorem unifyLineEnds_divided (ha : a.getLast? = some '\r') (b : List Char) :
    unifyLineEnds (a ++ '\n' :: b) = unifyLineEnds a ++ unifyLineEnds b := by
  obtain ⟨front, rfl⟩ := getLast?_eq_some_iff.mp ha
  have hseam : ∀ rest, ¬ DividesLineEnd front ('\r' :: rest) := fun _ hd => absurd hd.2 (by simp)
  rw [append_assoc, singleton_append, unifyLineEnds_seam (hseam _), unifyLineEnds_seam (hseam _), append_assoc]
  rfl

theorem replaceTrigraphs_seam (h : a.getLast? ≠ some '?') (b : List Char) :
    replaceTrigraphs (a ++ b) = replaceTrigraphs a ++ replaceTrigraphs b := by
  fun_induction replaceTrigraphs a with
  | case1 c rest d hd ih =>
    have hrest : rest.getLast? ≠ some '?' := fun hl =>
      h (getLast?_of_tail (getLast?_of_tail (getLast?_of_tail hl)))
    simp only [cons_append, replaceTrigraphs, hd, ih hrest]
  | case2 c rest hd ih =>
    have hrest : ('?' :: c :: rest).getLast? ≠ some '?' := fun hl => h (getLast?_of_tail hl)
    simp only [cons_append] at ih
    simp only [cons_append, replaceTrigraphs, hd, ih hrest]
  | case3 c rest hnext ih =>
    have hrest : rest.getLast? ≠ some '?' := fun hl => h (getLast?_of_tail hl)
    rw [cons_append, replaceTrigraphs, ih hrest, cons_append]
    -- two question marks before the seam would leave one at its front
    rintro d more rfl heq
    rcases rest with _ | ⟨e, _ | ⟨f, rest⟩⟩
    · exact h rfl
    · cases heq
      exact h rfl
    · cases heq
      exact hnext d rest rfl rfl
  | case4 => rfl

theorem spliceLines_seam (h : a.getLast? ≠ some '\\') (b : List Char) :
    spliceLines (a ++ b) = spliceLines a ++ spliceLines b := by
  fun_induction spliceLines a with
  | case1 rest ih =>
    have hrest : rest.getLast? ≠ some '\\' := fun hl => h (getLast?_of_tail (getLast?_of_tail hl))
    rw [cons_append, cons_append, spliceLines, ih hrest]
  | case2 c rest hnext ih =>
    have hrest : rest.getLast? ≠ some '\\' := fun hl => h (getLast?_of_tail hl)
    rw [cons_append, spliceLines, ih hrest, cons_append]
    rintro more rfl heq
    cases rest with
    | nil => exact h rfl
    | cons d rest =>
      cases heq
      exact hnext rest rfl rfl
  | case3 => rfl

/-- A text is empty or ends with a newline. -/
def EndsLine (a : List Char) : Prop := ∀ c ∈ a.getLast?, c = '\n'

@[simp] theorem endsLine_nil : EndsLine [] := fun _ h => absurd h (by simp)

@[simp] theorem endsLine_cons : EndsLine (c :: a) ↔ EndsLine a ∧ (a = [] → c = '\n') := by
  cases a with
  | nil => simp [EndsLine]
  | cons d a => simp [EndsLine, getLast?_cons_cons]

theorem EndsLine.ne (h : EndsLine a) (hc : c ≠ '\n') : a.getLast? ≠ some c :=
  fun heq => hc (h c heq)

theorem trigraph?_ne_newline (h : trigraph? c = some d) : d ≠ '\n' := by
  unfold trigraph? at h
  split at h <;> cases h <;> decide

theorem EndsLine.of_replaceTrigraphs (h : EndsLine (replaceTrigraphs a)) : EndsLine a := by
  fun_induction replaceTrigraphs a with
  | case1 c rest d hd ih =>
    obtain ⟨hrest, hnil⟩ := endsLine_cons.mp h
    have hne : rest ≠ [] := by
      rintro rfl
      exact trigraph?_ne_newline hd (hnil rfl)
    simp [ih hrest, hne]
  | case2 c rest hd ih => exact endsLine_cons.mpr ⟨ih (endsLine_cons.mp h).1, by simp⟩
  | case3 c rest hnext ih =>
    obtain ⟨hrest, hnil⟩ := endsLine_cons.mp h
    exact endsLine_cons.mpr ⟨ih hrest, by rintro rfl; exact hnil rfl⟩
  | case4 => exact endsLine_nil

theorem EndsLine.of_spliceLines (h : EndsLine (spliceLines a)) : EndsLine a := by
  fun_induction spliceLines a with
  | case1 rest ih => simp [ih h]
  | case2 c rest hnext ih =>
    obtain ⟨hrest, hnil⟩ := endsLine_cons.mp h
    exact endsLine_cons.mpr ⟨ih hrest, by rintro rfl; exact hnil rfl⟩
  | case3 => exact endsLine_nil

/-- Behind a whole line the phases after the first begin anew. -/
theorem phaseTwo_of_unifyLineEnds (ha : EndsLine (phaseTwo a))
    (h : unifyLineEnds text = unifyLineEnds a ++ unifyLineEnds b) : phaseTwo text = phaseTwo a ++ phaseTwo b := by
  have htri : EndsLine (replaceTrigraphs (unifyLineEnds a)) := ha.of_spliceLines
  have hunify : EndsLine (unifyLineEnds a) := htri.of_replaceTrigraphs
  unfold phaseTwo
  rw [h, replaceTrigraphs_seam (hunify.ne (by decide)), spliceLines_seam (htri.ne (by decide))]

theorem phaseTwo_seam (ha : EndsLine (phaseTwo a)) (hseam : ¬ DividesLineEnd a b) :
    phaseTwo (a ++ b) = phaseTwo a ++ phaseTwo b :=
  phaseTwo_of_unifyLineEnds ha (unifyLineEnds_seam hseam)

theorem phaseTwo_newline (b : List Char) : phaseTwo ('\n' :: b) = '\n' :: phaseTwo b :=
  phaseTwo_seam (a := ['\n']) (endsLine_cons.mpr ⟨endsLine_nil, fun _ => rfl⟩) fun hd =>
    absurd hd.1 (by decide)

/-- At a seam behind a whole line a character is lost if the seam divides a line end, and none else. -/
theorem length_phaseTwo_seam (ha : EndsLine (phaseTwo a)) :
    (phaseTwo (a ++ b)).length ≤ (phaseTwo a).length + (phaseTwo b).length ∧
      (DividesLineEnd a b → (phaseTwo (a ++ b)).length < (phaseTwo a).length + (phaseTwo b).length) := by
  by_cases hd : DividesLineEnd a b
  · obtain ⟨hlast, hhead⟩ := hd
    obtain ⟨rest, rfl⟩ := head?_eq_some_iff.mp hhead
    rw [phaseTwo_of_unifyLineEnds ha (unifyLineEnds_divided hlast rest), phaseTwo_newline, length_append, length_cons]
    omega
  · rw [phaseTwo_seam ha hd, length_append]
    exact ⟨le_refl _, fun h => absurd h hd⟩

/-- The lines that scanning counts in a text: each ends with a newline, but perhaps the last. -/
def scanLines (text : List Char) : List (List Char) := (phaseTwo text).splitBy fun c _ => c ≠ '\n'

/-- Texts that are put one behind another are lines: each has one newline at most, at its end; where another
    follows, the newline is there, and none is made of characters of both. -/
structure Lined (texts : List (List Char)) : Prop where
  line : ∀ text ∈ texts, phaseTwo text ≠ [] ∧ '\n' ∉ (phaseTwo text).dropLast
  next : texts.IsChain fun a b => EndsLine (phaseTwo a) ∧ ¬ DividesLineEnd a b

theorem Lined.tail (h : Lined (text :: texts)) : Lined texts :=
  ⟨(forall_mem_cons.mp h.line).2, h.next.tail⟩

theorem phaseTwo_ne_nil (h : phaseTwo text ≠ []) : text ≠ [] := by
  rintro rfl
  exact h rfl

/-- A seam before texts is a seam before the first of them. -/
theorem dividesLineEnd_flatten (hb : b ≠ []) : DividesLineEnd a (b :: texts).flatten ↔ DividesLineEnd a b := by
  obtain ⟨c, b, rfl⟩ := exists_cons_of_ne_nil hb
  rfl

theorem phaseTwo_flatten (h : Lined texts) : phaseTwo texts.flatten = (texts.map phaseTwo).flatten := by
  induction texts with
  | nil => rfl
  | cons a texts ih =>
    rw [flatten_cons, map_cons, flatten_cons, ← ih h.tail]
    cases texts with
    | nil =>
      rw [flatten_nil, append_nil]
      exact (append_nil _).symm
    | cons b texts =>
      obtain ⟨hab, -⟩ := isChain_cons_cons.mp h.next
      have hb : b ≠ [] := phaseTwo_ne_nil (h.line b (by simp)).1
      exact phaseTwo_seam hab.1 fun hd => hab.2 ((dividesLineEnd_flatten hb).mp hd)

theorem length_phaseTwo_flatten (h : texts.IsChain fun a _ => EndsLine (phaseTwo a)) :
    (phaseTwo texts.flatten).length ≤ (texts.map phaseTwo).flatten.length := by
  induction texts with
  | nil => exact le_refl _
  | cons a texts ih =>
    rw [flatten_cons, map_cons, flatten_cons, length_append]
    cases texts with
    | nil => simp
    | cons b texts =>
      obtain ⟨ha, hrest⟩ := isChain_cons_cons.mp h
      have hseam := (length_phaseTwo_seam (b := (b :: texts).flatten) ha).1
      have hle := ih hrest
      omega

/-- If no character is lost between whole lines, no seam divides a line end. -/
theorem not_dividesLineEnd (h : texts.IsChain fun a _ => EndsLine (phaseTwo a)) (hne : ∀ text ∈ texts, text ≠ [])
    (hlength : (texts.map phaseTwo).flatten.length ≤ (phaseTwo texts.flatten).length) :
    texts.IsChain fun a b => EndsLine (phaseTwo a) ∧ ¬ DividesLineEnd a b := by
  induction texts with
  | nil => exact .nil
  | cons a texts ih =>
    cases texts with
    | nil => exact .singleton a
    | cons b texts =>
      obtain ⟨ha, hrest⟩ := isChain_cons_cons.mp h
      obtain ⟨hle, hlt⟩ := length_phaseTwo_seam (b := (b :: texts).flatten) ha
      have hle' := length_phaseTwo_flatten hrest
      rw [flatten_cons, map_cons, flatten_cons, length_append] at hlength
      rw [dividesLineEnd_flatten (hne b (by simp))] at hlt
      refine isChain_cons_cons.mpr ⟨⟨ha, fun hd => ?_⟩, ?_⟩
      · have := hlt hd
        omega
      · exact ih hrest (forall_mem_cons.mp hne).2 (by omega)

theorem isChain_newline : (text.IsChain fun c _ => decide (c ≠ '\n')) ↔ '\n' ∉ text.dropLast := by
  induction text with
  | nil => simp
  | cons c text ih =>
    cases text with
    | nil => simp
    | cons d text =>
      rw [isChain_cons_cons, ih, dropLast_cons_cons, mem_cons, not_or, decide_eq_true_iff, ne_comm]

/-- What splitting says of two parts that follow one another. -/
theorem endsLine_iff (ha : a ≠ []) (hb : b ≠ []) : EndsLine a ↔ ∃ (ha : a ≠ []) (hb : b ≠ []),
      (fun c (_ : Char) => decide (c ≠ '\n')) (a.getLast ha) (b.head hb) = false := by
  unfold EndsLine
  rw [getLast?_eq_some_getLast ha]
  simp [ha, hb]

/-- **Texts that are put one behind another are the lines that are scanned, if each is a line.** -/
theorem scanLines_eq_iff : scanLines texts.flatten = texts.map phaseTwo ↔ Lined texts := by
  unfold scanLines
  rw [splitBy_eq_iff]
  constructor
  · rintro ⟨hflatten, hnil, hline, hends⟩
    have hne : ∀ text ∈ texts, phaseTwo text ≠ [] := fun text htext heq =>
      hnil (mem_map.mpr ⟨text, htext, heq⟩)
    rw [isChain_map] at hends
    refine ⟨fun text htext => ⟨hne text htext, isChain_newline.mp (hline _ (mem_map_of_mem htext))⟩, ?_⟩
    refine not_dividesLineEnd ?_ (fun text htext => phaseTwo_ne_nil (hne text htext)) (by rw [hflatten])
    exact hends.imp_of_mem_imp fun a b ha hb => (endsLine_iff (hne a ha) (hne b hb)).mpr
  · intro h
    refine ⟨phaseTwo_flatten h, fun hmem => ?_, fun line hline => ?_, ?_⟩
    · obtain ⟨text, htext, hnil⟩ := mem_map.mp hmem
      exact (h.line text htext).1 hnil
    · obtain ⟨text, htext, rfl⟩ := mem_map.mp hline
      exact isChain_newline.mpr (h.line text htext).2
    · rw [isChain_map]
      refine h.next.imp_of_mem_imp fun a b ha hb hab => ?_
      exact (endsLine_iff (h.line a ha).1 (h.line b hb).1).mp hab.1

end CCompiler.Source
