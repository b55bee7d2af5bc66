import CCompiler.Proofs.Steps
import CCompiler.Upkeep.Action
import Mathlib

/-!
# What changes of a disk show

Files beside one another differ by their names alone. A change at one path leaves what can be read at every
other, and makes no directories but those above it.

* `Path.resolve_beside` -- the resolved path of a file beside another;
* `Disk.lookup_store`, `Disk.lookup_erase` -- the bytes at a path after a change;
* `Disk.isDir_makeDir` -- the directories after a change.
-/
namespace CCompiler

open List

namespace Path

theorem splitOnAux_plain (before : List Char) (h : '/' ∉ rest) :
    (String.ofList (before ++ rest)).splitOnAux "/" 0 ⟨String.utf8Len before⟩ 0 [] =
      [String.ofList (before ++ rest)] := by
  induction rest generalizing before with
  | nil =>
    rw [String.splitOnAux.eq_1, if_pos ((String.atEnd_of_valid _ _).mpr rfl)]
    have hall := String.extract_of_valid [] before []
    simp only [String.utf8Len_nil, Nat.zero_add, nil_append] at hall
    rw [show (0 : String.Pos.Raw) = ⟨0⟩ from rfl, hall, append_nil]
    rfl
  | cons c rest ih =>
    have hc : c ≠ '/' := fun heq => h (heq ▸ mem_cons_self)
    have hget : String.Pos.Raw.get "/" 0 = '/' := by decide
    rw [String.splitOnAux.eq_1, if_neg (fun hend => by cases (String.atEnd_of_valid _ _).mp hend),
      String.get_of_valid, hget, if_neg (by simpa using hc)]
    have hstart : String.Pos.Raw.unoffsetBy ⟨String.utf8Len before⟩ 0 = ⟨String.utf8Len before⟩ := rfl
    have hnext : String.utf8Len before + c.utf8Size = String.utf8Len (before ++ [c]) := by simp
    rw [hstart, String.next_of_valid, hnext, append_cons]
    exact ih _ fun hmem => h (mem_cons_of_mem c hmem)

/-- A name without slashes is a path of one part. -/
theorem ofText_name {name : String} (hempty : name ≠ "") (hdot : name ≠ ".") (h : '/' ∉ name.toList) :
    ofText name = ⟨"", [name]⟩ := by
  have hroot : rootOf name.toList = "" := by
    unfold rootOf
    split
    · simp_all
    · simp_all
    · simp_all
    · rfl
  have hparts : name.splitOn "/" = [name] := by
    have hwhole := splitOnAux_plain [] h
    rwa [nil_append, String.ofList_toList] at hwhole
  rw [ofText, hroot, partsOf, hparts]
  simp [hempty, hdot]

theorem resolveParts_concat {name : String} (h : name ≠ "..") (before parts : List String) :
    resolveParts before (parts ++ [name]) = resolveParts before parts ++ [name] := by
  induction parts generalizing before with
  | nil => simp [resolveParts, h]
  | cons part rest ih =>
    rw [cons_append, resolveParts, resolveParts]
    split
    · exact ih _
    · exact ih _

theorem resolveParts_of_clean {parts : List String} (h : ".." ∉ parts) (before : List String) :
    resolveParts before parts = before.reverse ++ parts := by
  induction parts generalizing before with
  | nil => simp [resolveParts]
  | cons part rest ih =>
    rw [mem_cons, not_or] at h
    rw [resolveParts, if_neg (Ne.symm h.1), ih h.2]
    simp

theorem resolveParts_clean (h : ".." ∉ before) (parts : List String) :
    ".." ∉ resolveParts before parts := by
  induction parts generalizing before with
  | nil => simpa [resolveParts] using h
  | cons part rest ih =>
    rw [resolveParts]
    split
    · exact ih fun hmem => h (mem_of_mem_tail hmem)
    · rename_i hpart
      exact ih (by simp [h, Ne.symm hpart])

/-- A path that begins at the root and has no pair of dots. -/
def IsResolved (p : Path) : Prop := p.root ≠ "" ∧ ".." ∉ p.parts

theorem resolve_isResolved (p : Path) : p.resolve.IsResolved := by
  refine ⟨?_, resolveParts_clean (by simp) _⟩
  show (workingDirectory.join p).root ≠ ""
  rw [join]
  split
  · rename_i h
    simpa [isAbsolute] using h
  · simp [workingDirectory]

theorem IsResolved.resolve_eq {p : Path} (h : p.IsResolved) : p.resolve = p := by
  have hjoin : workingDirectory.join p = p := by
    rw [join, if_pos]
    simpa [isAbsolute] using h.1
  rw [resolve, hjoin]
  simp [resolveParts_of_clean h.2]

/-- The path of a file of another name in the same directory. -/
def beside (p : Path) (name : String) : Path := { p with parts := p.parts.dropLast ++ [name] }

@[simp] theorem parent_beside (p : Path) (name : String) : (p.beside name).parent = p.parent := by
  simp [beside, parent]

/-- A file in a directory. -/
def child (dir : Path) (name : String) : Path := { dir with parts := dir.parts ++ [name] }

@[simp] theorem parent_child (dir : Path) (name : String) : (dir.child name).parent = dir := by
  simp [child, parent]

theorem child_injective {dir : Path} {name name' : String} (h : dir.child name = dir.child name') : name = name' := by
  simpa [child] using h

/-- The resolved path of a file beside another stands in the resolved directory. -/
theorem resolve_beside (p : Path) {name : String} (h : name ≠ "..") :
    (p.beside name).resolve = p.parent.resolve.child name := by
  by_cases habsolute : p.root = ""
  · simp [resolve, join, isAbsolute, beside, parent, child, habsolute, ← append_assoc, resolveParts_concat h]
  · simp [resolve, join, isAbsolute, beside, parent, child, habsolute, resolveParts_concat h]

end Path

namespace Lookup

variable {κ β : Type} [DecidableEq κ] [BEq κ] [LawfulBEq κ]

theorem cons (q : κ) (f : κ × β) (rest : List (κ × β)) :
    (f :: rest).lookup q = if q = f.1 then some f.2 else rest.lookup q := by
  obtain ⟨key, value⟩ := f
  by_cases hq : q = key
  · simp [hq]
  · rw [lookup_cons, beq_false_of_ne hq, if_neg hq]

/-- All pairs with a key are taken away. -/
theorem filter_ne (key q : κ) (l : List (κ × β)) :
    (l.filter (·.1 != key)).lookup q = if q = key then none else l.lookup q := by
  induction l with
  | nil => simp
  | cons f rest ih =>
    rw [filter_cons, cons]
    by_cases hf : f.1 = key
    · rw [if_neg (by simp [hf]), ih, hf]
      by_cases hq : q = key <;> simp [hq]
    · rw [if_pos (by simp [hf]), cons, ih]
      by_cases hq : q = f.1
      · simp [hq, hf]
      · simp [hq]

/-- A pair is put in the place of the first with its key, or behind all. -/
theorem put (put : List (κ × β) → List (κ × β)) (hnil : put [] = [(key, value)])
    (hcons : ∀ n v rest, put ((n, v) :: rest) = if n = key then (key, value) :: rest else (n, v) :: put rest)
    (q : κ) (l : List (κ × β)) : (put l).lookup q = if q = key then some value else l.lookup q := by
  induction l with
  | nil => rw [hnil, cons]
  | cons f rest ih =>
    obtain ⟨n, v⟩ := f
    rw [hcons]
    split
    · rename_i hn
      rw [cons, cons, hn]
      by_cases hq : q = key <;> simp [hq]
    · rename_i hn
      rw [cons, cons, ih]
      by_cases hq : q = n
      · simp [hq, hn]
      · simp [hq]

end Lookup

namespace Disk

variable (d : Disk) (p : Path) (bytes : Option (List UInt8)) (q : Path)

theorem lookup_putFile (files : List (Path × Option (List UInt8))) :
    (putFile files p bytes).lookup q = if q = p then some bytes else files.lookup q := by
  unfold putFile
  split
  · rename_i hold
    by_cases hq : q = p
    · subst hq
      induction files with
      | nil => cases hold
      | cons f rest ih =>
        rw [map_cons, Lookup.cons]
        by_cases hf : f.1 = q
        · simp [hf]
        · simp only [any_cons, Bool.or_eq_true, beq_iff_eq, hf, false_or] at hold
          rw [ih hold]
          simp [hf, Ne.symm hf]
    · rw [if_neg hq]
      clear hold
      induction files with
      | nil => rfl
      | cons f rest ih =>
        rw [map_cons, Lookup.cons, Lookup.cons, ih]
        by_cases hf : f.1 = p
        · simp [hf, hq]
        · simp [hf]
  · rename_i hnew
    induction files with
    | nil => rw [nil_append, Lookup.cons]
    | cons f rest ih =>
      simp only [any_cons, Bool.or_eq_true, beq_iff_eq, not_or] at hnew
      rw [cons_append, Lookup.cons, Lookup.cons, ih (by simpa using hnew.2)]
      by_cases hq : q = f.1
      · rw [if_pos hq, if_pos hq, if_neg (by rw [hq]; exact hnew.1)]
      · rw [if_neg hq, if_neg hq]

@[simp] theorem lookup_makeDir : (d.makeDir p).files.lookup q = d.files.lookup q := rfl

theorem lookup_store : (d.store p bytes).files.lookup q = if q = p.resolve then some bytes else d.files.lookup q :=
  lookup_putFile _ _ _ _

theorem lookup_erase : (d.erase p).files.lookup q = if q = p.resolve then none else d.files.lookup q :=
  Lookup.filter_ne _ _ _

theorem isFile_eq : d.isFile p = (d.files.lookup p.resolve).isSome := by
  unfold isFile
  induction d.files with
  | nil => rfl
  | cons f rest ih =>
    rw [any_cons, ih, Lookup.cons]
    by_cases hf : p.resolve = f.1
    · simp [hf]
    · rw [if_neg hf, beq_false_of_ne (Ne.symm hf), Bool.false_or]

theorem isDir_makeDir : (d.makeDir p).isDir q ↔ d.isDir q ∨ q.resolve ∈ ancestry p.resolve := by
  have hadd : ∀ (more dirs : List Path), q.resolve ∈ more.foldl
      (fun dirs dir => if dirs.contains dir then dirs else dirs ++ [dir]) dirs ↔
        q.resolve ∈ dirs ∨ q.resolve ∈ more := by
    intro more
    induction more with
    | nil => simp
    | cons dir rest ih =>
      intro dirs
      rw [foldl_cons, ih, mem_cons]
      split
      · rename_i hold
        rw [contains_iff_mem] at hold
        constructor
        · rintro (h | h)
          · exact .inl h
          · exact .inr (.inr h)
        · rintro (h | rfl | h)
          · exact .inl h
          · exact .inl hold
          · exact .inr h
      · rw [mem_append, mem_singleton, or_assoc]
  simp only [isDir, contains_iff_mem]
  exact hadd _ _

@[simp] theorem isDir_erase : (d.erase p).isDir q = d.isDir q := rfl

/-- A file in a directory is not above it. -/
theorem child_notMem_ancestry (dir : Path) (name : String) : dir.child name ∉ ancestry dir := by
  intro h
  obtain ⟨n, -, hn⟩ := mem_map.mp h
  have hlength := congrArg (fun p => p.parts.length) hn
  simp only [Path.child, length_append, length_take, length_singleton] at hlength
  omega

end Disk

namespace Upkeep

variable {β γ : Type} {x : Action β} {f : β → Action γ} {host : Host} {site site' site'' : Site}

/-- An action with a cleanup that succeeds. -/
theorem andThen_of_cleanup (h : x host site = (r, site'))
    (hcleanup : cleanup host site' = (.ok (), site'')) : andThen x cleanup host site = (r, site'') := by
  cases r with
  | ok a =>
    refine (bind_of_ok (tryCatch_of_ok (a := .error a) ?_)).trans rfl
    rw [bind_of_ok h, bind_of_ok hcleanup]
    rfl
  | error failure =>
    refine bind_of_error ((tryCatch_of_error (bind_of_error h)).trans ?_)
    rw [bind_of_ok hcleanup]
    rfl

end Upkeep

end CCompiler
