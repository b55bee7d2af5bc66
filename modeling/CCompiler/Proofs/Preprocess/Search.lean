import CCompiler.Preprocess.Probe
import CCompiler.Proofs.Upkeep.Disk

/-!
# Where headers are looked for

A search for the next header goes on behind the directory of the file that asks, as far as the list of
directories tells where that is.

* `mem_distinctDirs` -- which directories are searched;
* `next_search_moves_on` -- where a search for the next header goes on.
-/
namespace CCompiler.Preprocess

variable {setting : Setting} {files : Files} {header : Header} {dir path : Path} {dirs seen : List Path}

/-- A name of one part, such as `stdio.h`. -/
def IsPlain (name : String) : Prop := name ∉ ["", ".", ".."] ∧ '/' ∉ name.toList

theorem mem_distinctDirs : dir ∈ distinctDirs seen dirs ↔ dir ∉ seen ∧ ∃ d ∈ dirs, d.resolve = dir := by
  induction dirs generalizing seen with
  | nil => simp [distinctDirs]
  | cons d rest ih =>
    rw [distinctDirs]
    split <;> grind

theorem dirsBehind_of_first (hroot : root.resolve = dir)
    (hfront : ∀ d ∈ front, d.resolve ≠ dir) : dirsBehind dir (front ++ root :: behind) = behind := by
  have hdrop : (front ++ root :: behind).dropWhile (·.resolve ≠ dir) = root :: behind := by
    rw [List.dropWhile_append_of_pos (by simpa using hfront), List.dropWhile_cons_of_neg (by simpa using hroot)]
  rw [dirsBehind, hdrop]

/-- A header of one part lies in the directory in which it is found. -/
theorem parent_of_findHeader? (hplain : IsPlain header.name) (hdirs : ∀ d ∈ dirs, d.IsResolved)
    (h : findHeader? files header dirs = some path) : path.parent ∈ dirs := by
  obtain ⟨found, hfound, rfl⟩ := Option.map_eq_some_iff.mp h
  obtain ⟨d, hd, rfl⟩ := List.mem_map.mp (List.mem_of_find?_eq_some hfound)
  obtain ⟨hname, hslash⟩ := hplain
  simp only [List.mem_cons, List.not_mem_nil, or_false, not_or] at hname
  have hjoin : d.join (Path.ofText header.name) = d.child header.name := by
    rw [Path.ofText_name hname.1 hname.2.1 hslash]
    rfl
  have hchild : (d.child header.name).IsResolved :=
    ⟨(hdirs d hd).1, by simpa [Path.child] using ⟨(hdirs d hd).2, Ne.symm hname.2.2⟩⟩
  rw [hjoin, hchild.resolve_eq, Path.parent_child]
  exact hd

theorem isResolved_of_mem (h : dir ∈ distinctDirs seen dirs) : dir.IsResolved := by
  obtain ⟨-, d, -, rfl⟩ := mem_distinctDirs.mp h
  exact d.resolve_isResolved

/-- **Where the search for the next header goes on**, in a file that was found by a name of one part in angle
    brackets. Angle brackets: behind the first place of its directory in the list, and never in that
    directory. Quotes: in all other directories, also in those before it. A header of one part is never found
    beside the file that asks. -/
theorem next_search_moves_on {name : String} {base : Option Path} {file : Path} (hplain : IsPlain name)
    (hfile : findHeader? files ⟨name, true⟩ (searchedDirs setting ⟨name, true⟩ base none) = some file)
    (next : String) :
    (∃ front root behind, searchDirs setting true none = front ++ root :: behind ∧ root.resolve = file.parent ∧
      (∀ d ∈ front, d.resolve ≠ file.parent) ∧
      searchedDirs setting ⟨next, true⟩ (some file.parent) (some file.parent) = distinctDirs [file.parent] behind) ∧
    searchedDirs setting ⟨next, false⟩ (some file.parent) none = file.parent ::
      searchedDirs setting ⟨next, false⟩ (some file.parent) (some file.parent) ∧
    ∀ isAngled found, IsPlain next → findHeader? files ⟨next, isAngled⟩ (searchedDirs setting ⟨next, isAngled⟩
      (some file.parent) (some file.parent)) = some found → found.parent ≠ file.parent := by
  have hmem := parent_of_findHeader? hplain (fun d hd => isResolved_of_mem hd) hfile
  have hresolved : file.parent.resolve = file.parent := (isResolved_of_mem hmem).resolve_eq
  have hlist (base : Option Path) : searchDirs setting true base = searchDirs setting true none := by
    cases base <;> rfl
  obtain ⟨-, root, hroot, hfound⟩ := mem_distinctDirs.mp hmem
  rw [hlist] at hroot
  refine ⟨?_, ?_, fun isAngled found hnext h heq => ?_⟩
  · obtain ⟨root, front, behind, hfront, hroot, hsplit, -⟩ :=
      List.exists_of_eraseP (p := (·.resolve == file.parent)) hroot (by simpa using hfound)
    simp only [beq_iff_eq] at hfront hroot
    refine ⟨front, root, behind, hsplit, hroot, hfront, ?_⟩
    show distinctDirs [file.parent.resolve] (dirsBehind file.parent.resolve (searchDirs setting true _)) = _
    rw [hlist, hsplit, hresolved, dirsBehind_of_first hroot hfront]
  · show distinctDirs [] (file.parent :: _) =
      _ :: distinctDirs [file.parent.resolve] (dirsBehind file.parent.resolve ([] ++ file.parent :: _))
    rw [dirsBehind_of_first rfl (by simp), distinctDirs, hresolved]
    rfl
  · have hdir := parent_of_findHeader? hnext (fun d hd => isResolved_of_mem hd) h
    have hother := (mem_distinctDirs.mp hdir).1
    rw [hresolved, List.mem_singleton] at hother
    exact hother heq

/-- Two directories that both have a header `h`. -/
def twoDirs : Setting := { options := { includeDirs := ["i", "j"] }, world := {} }

def twoHeaders : Files := [(⟨"/", ["v", "i", "h"]⟩, .locked), (⟨"/", ["v", "j", "h"]⟩, .locked)]

theorem next_search_of_two : findHeader? twoHeaders ⟨"h", true⟩ (searchedDirs twoDirs ⟨"h", true⟩ none none) =
      some ⟨"/", ["v", "i", "h"]⟩ ∧
    ∀ isAngled found, findHeader? twoHeaders ⟨"h", isAngled⟩ (searchedDirs twoDirs ⟨"h", isAngled⟩
      (some ⟨"/", ["v", "i"]⟩) (some ⟨"/", ["v", "i"]⟩)) = some found → found.parent ≠ ⟨"/", ["v", "i"]⟩ := by
  have hplain : IsPlain "h" := ⟨by decide, by decide⟩
  have hfile : findHeader? twoHeaders ⟨"h", true⟩ (searchedDirs twoDirs ⟨"h", true⟩ none none) =
      some ⟨"/", ["v", "i", "h"]⟩ := by cbv
  exact ⟨hfile, fun isAngled found => (next_search_moves_on hplain hfile "h").2.2 isAngled found hplain⟩

/-- A header that was found by a name of two parts finds itself, and quotes lead back. -/
theorem next_search_starts_over :
    findHeader? [(⟨"/", ["v", "i", "s", "h"]⟩, .locked)] ⟨"s/h", true⟩ (searchedDirs twoDirs ⟨"s/h", true⟩
      (some ⟨"/", ["v", "i", "s"]⟩) (some ⟨"/", ["v", "i", "s"]⟩)) = some ⟨"/", ["v", "i", "s", "h"]⟩ ∧
    findHeader? twoHeaders ⟨"h", false⟩ (searchedDirs twoDirs ⟨"h", false⟩
      (some ⟨"/", ["v", "j"]⟩) (some ⟨"/", ["v", "j"]⟩)) = some ⟨"/", ["v", "i", "h"]⟩ := by
  constructor <;> cbv

end CCompiler.Preprocess
