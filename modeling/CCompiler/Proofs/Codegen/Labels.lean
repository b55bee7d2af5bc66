import CCompiler.Proofs.Codegen.Legality

/-!
# The labels of a program

Labels are made, used and placed at different points of generation, and those of strings stand behind all
functions.

* `Label.text_injective` -- labels with the same text are the same;
* `FunctionsGen.fresh` -- the labels of all functions are new, and each function branches into itself;
* `assembly_labels` -- every label of a program stands once, where it is looked for.
-/
namespace CCompiler.Machine

/-- The number of a label stands behind the last underscore of its text. -/
theorem Label.text_injective {l l' : Label} (h : l.text = l'.text) : l = l' := by
  have hnumber : ∀ l : Label, l.text.toList.reverse.takeWhile Char.isDigit = (Nat.toDigits 10 l.number).reverse := by
    intro l
    have hdigits : ∀ c ∈ (Nat.toDigits 10 l.number).reverse, c.isDigit := fun c hc =>
      Nat.isDigit_of_mem_toDigits (by decide) (by decide) (List.mem_reverse.mp hc)
    simp [Label.text, toString, Nat.repr_eq_ofList_toDigits, List.takeWhile_append_of_pos hdigits]
  have hdigits := hnumber l
  rw [h, hnumber, List.reverse_inj] at hdigits
  have hrepr := congrArg String.ofList hdigits
  rw [← Nat.repr_eq_ofList_toDigits, ← Nat.repr_eq_ofList_toDigits, Nat.repr_inj] at hrepr
  cases l
  cases l'
  cases hrepr
  simpa [Label.text, toString] using h

end CCompiler.Machine

namespace CCompiler.Codegen

open List
open Machine (Label Line Instr)

/-- The code of a function that branches into itself and takes the addresses of some strings only. -/
def Emitted (strings : List (String × Label)) (d : FunctionDef NodeId × List (Stmt NodeId)) (code : Code) : Prop :=
  (∃ scene st st', functionCode d.1 d.2 scene st = .ok (code, st')) ∧
    ∀ i, Line.instr i ∈ code → Names (Line.label · ∈ code) strings i

/-- **The labels of all functions are new**, and each function branches into itself. -/
theorem FunctionsGen.fresh (h : FunctionsGen scene st ds codes st') :
    Fresh nowhere st st' codes.flatten ∧ Forall₂ (Emitted st'.strings) ds codes := by
  induction h with
  | nil => exact ⟨@Fresh.instrs _ _ [] nofun, .nil⟩
  | cons h _ ih =>
    have hcode := (functionCode_gen h).choose.fresh
    obtain ⟨new, hs, -⟩ := ih.1.once
    refine ⟨hcode.append ih.1, .cons ⟨⟨_, _, _, h⟩, fun i hi => ?_⟩ ih.2⟩
    exact (hcode.names i hi).mono (fun _ h => h.resolve_left id) (hs ▸ subset_append_left ..)

/-- The label that stands in a line. -/
def label? : Line → Option Label
  | .label l => some l
  | _ => none

theorem count_strings (strings : List (String × Label)) (l : Label) :
    (stringsCode strings).count (.label l) = (strings.map (·.2)).count l := by
  have hall : ∀ f : String × Label → Code, (∀ s, (f s).count (.label l) = [s.2].count l) →
      (strings.flatMap f).count (.label l) = (strings.map (·.2)).count l := by
    intro f hf
    induction strings with
    | nil => rfl
    | cons s strings ih => rw [flatMap_cons, count_append, hf, ih, ← count_append, singleton_append, map_cons]
  unfold stringsCode
  split
  · simp_all
  · rw [count_cons, hall _ fun s => by simp [count_cons]]
    simp

/-- **Every label of a program stands once**: those that a function branches to in the code of the function, and
    those whose addresses it takes among the strings. -/
theorem assembly_labels {c : Compilation} {platform : Platform} {text : String} (h : c.assembly platform = .ok text) :
    ∃ lines objects functions, ∃ strings : List (String × Label), Machine.render lines = text ∧
      lines = objects ++ [.text] ++ functions.flatten ++ stringsCode strings ∧
      ((lines.filterMap label?).map Label.text).Nodup ∧
      Forall₂ (fun d code => (∃ scene st st', functionCode d.1 d.2 scene st = .ok (code, st')) ∧
        ∀ i l, .instr i ∈ code → (i.target? = some l → .label l ∈ code) ∧
          (address? i = some l → .label l ∈ stringsCode strings)) (definitions c.unit.externals) functions := by
  obtain ⟨lines, hlines, rfl⟩ := assembly_eq_ok h
  obtain ⟨scene, -, h1⟩ := bind_ok hlines
  obtain ⟨objects, hobjects, h2⟩ := bind_ok h1
  obtain ⟨⟨functions, state⟩, hfunctions, heq⟩ := bind_ok h2
  cases heq
  obtain ⟨codes, rfl, hcodes⟩ := functionsCode_gen hfunctions
  obtain ⟨⟨-, ⟨new, hs, hcount⟩, -⟩, hall⟩ := hcodes.fresh
  refine ⟨_, objects, codes, state.strings, rfl, rfl, .map (fun _ _ => Label.text_injective) ?_, hall.imp ?_⟩
  · rw [nodup_iff_count_le_one]
    intro l
    have hline : (fun line => label? line == some l) = (· == Line.label l) := by
      funext line
      cases line <;> simp [label?]
    rw [count_filterMap, hline]
    show count _ _ ≤ 1
    have hobject : objects.count (.label l) = 0 :=
      count_eq_zero.mpr fun hm => Bool.false_ne_true (all_eq_true.mp (objectsCode_all hobjects) _ hm)
    have hnew := hcount l
    rw [count_append, count_append, count_append, hobject, count_strings, hs]
    simp only [nil_append, count_singleton, reduceCtorEq, beq_iff_eq, if_false]
    split at hnew <;> omega
  · intro d code hd
    obtain ⟨hcode, hnames⟩ := hd
    refine ⟨hcode, fun i l hi => ⟨(hnames i hi).1 l, fun ha => count_pos_iff.mp ?_⟩⟩
    rw [count_strings]
    exact count_pos_iff.mpr ((hnames i hi).2 l ha)

/-- The labels of the program that counts. -/
theorem Counting.code_labels : ∃ text lines, Counting.compilation.assembly ⟨"Darwin", "arm64"⟩ = .ok text ∧
    Machine.render lines = text ∧ ((lines.filterMap label?).map Label.text).Nodup := by
  obtain ⟨text, htext⟩ := exists_assembly
  obtain ⟨lines, -, -, -, hrender, -, hnodup, -⟩ := assembly_labels htext
  exact ⟨text, lines, htext, hrender, hnodup⟩

end CCompiler.Codegen
