import Mathlib
import CCompiler.Preprocess.Source

/-!
# Documents with conditional groups

A document as a tree: lines of text, definitions, and groups whose branches are documents again. What is
selected of it is said along the tree, with no stack of open groups: of the branches of a group the first
whose test holds is selected, and behind it nothing is tested any more.

* `Doc.select` -- the lines that are left of a document;
* `fault?` -- the first place where lines do not nest;
* `fault?_lines` -- the lines of a document nest;
* `exists_doc` -- lines that nest are the lines of a document.
-/
namespace CCompiler.Preprocess

open List Text

variable {groups : List Bool} {number : Nat}

/-! ## 1. Lines -/

/-- What a branch of a group asks for. -/
inductive Test where
  | condition (body : List Char)
  | defined (name : String)
  | undefined (name : String)

/-- Whether a test holds at the moment. -/
def Test.holds (test : Test) (location : Location) (base : Option Path) : Preprocess Bool :=
  match test with
  | .condition body => conditionHolds body location base
  | .defined name => isDefined name
  | .undefined name => do return !(← isDefined name)

/-- Asks a test, if it counts; one that does not count does not hold. -/
def Test.ask (test : Test) (counts : Bool) (location : Location) (base : Option Path) : Preprocess Bool :=
  if counts then test.holds location base else pure false

/-- The directive that begins a group with a test. -/
def Test.opening : Test → GroupDirective
  | .defined _ => .ifdef
  | .undefined _ => .ifndef
  | .condition _ => .if_

/-- The directive that begins a further branch with a test. -/
def Test.branch : Test → GroupDirective
  | .defined _ => .elifdef
  | .undefined _ => .elifndef
  | .condition _ => .elif

/-- The operand of a directive says what a test asks for. -/
def Test.OperandIs (body : List Char) : Test → Prop
  | .condition asked => body = asked
  | .defined name | .undefined name =>
    words (Condition.withoutComments body) = [name.toList] ∧ isName name.toList = true

/-- Nothing but comments stands behind a directive. -/
def NoOperand (body : List Char) : Prop := (trimSpace (Condition.withoutComments body)).isEmpty = true

/-- The kinds of lines. -/
inductive Kind where
  | text
  | define (body : List Char)
  | undef (body : List Char)
  | opening (test : Test)
  | branch (test : Test)
  | else_
  | endif

/-- A directive is of a kind and has an operand as it should be. -/
def Kind.Fits (d : Directive) : Kind → Prop
  | .text => False
  | .define body => d = ⟨"define", body⟩
  | .undef body => d = ⟨"undef", body⟩
  | .opening test => d.name = test.opening.name ∧ test.OperandIs d.body
  | .branch test => d.name = test.branch.name ∧ test.OperandIs d.body
  | .else_ => d.name = "else" ∧ NoOperand d.body
  | .endif => d.name = "endif" ∧ NoOperand d.body

/-- The characters that plain text has not. -/
def specialChars : List Char := ['#', '"', '\'', '/', '\\', '(', ')']

/-- A line reads as one of a kind: plain text, or a directive that needs no other line and leaves no comment
    open. -/
def Kind.Reads (line : List Char) (kind : Kind) : Prop :=
  match kind with
  | .text => line.any specialChars.contains = false
  | kind => ∃ d, Directive.ofLine? line = some d ∧ kind.Fits d ∧ isContinued line = false ∧
      endsInComment line false = false

/-- A line of a kind: characters of which none ends a line, and a newline. -/
structure Line (kind : Kind) where
  content : List Char
  unbroken : content.any isLineBoundary = false
  reads : kind.Reads (content ++ ['\n'])

/-- The characters of a line. -/
def Line.chars {kind : Kind} (line : Line kind) : List Char := line.content ++ ['\n']

/-- A line of any kind. -/
abbrev AnyLine := Σ kind, Line kind

/-- The characters of a line of any kind. -/
def AnyLine.chars (line : AnyLine) : List Char := line.2.chars

/-- A line that a dialect knows: `#elifdef` and `#elifndef` are of the GNU dialect. -/
def AnyLine.Known (standard : Standard) : AnyLine → Prop
  | ⟨.branch test, _⟩ => test.branch = .elif ∨ standard = .gnu11
  | _ => True

/-! ## 2. Documents -/

mutual

/-- A document. -/
inductive Doc where
  | done
  | text (line : Line .text) (next : Doc)
  | define (body : List Char) (line : Line (.define body)) (next : Doc)
  | undef (body : List Char) (line : Line (.undef body)) (next : Doc)
  | group (test : Test) (line : Line (.opening test)) (branch : Doc) (more : Branches) (next : Doc)

/-- The branches of a group behind the first, with its end. -/
inductive Branches where
  | endif (line : Line .endif)
  | branch (test : Test) (line : Line (.branch test)) (body : Doc) (more : Branches)
  | else_ (line : Line .else_) (body : Doc) (last : Line .endif)

end

mutual

/-- The lines of a document. -/
def Doc.lines : Doc → List AnyLine
  | .done => []
  | .text line next => ⟨_, line⟩ :: next.lines
  | .define _ line next => ⟨_, line⟩ :: next.lines
  | .undef _ line next => ⟨_, line⟩ :: next.lines
  | .group _ line branch more next => ⟨_, line⟩ :: (branch.lines ++ more.lines ++ next.lines)

/-- The lines of branches. -/
def Branches.lines : Branches → List AnyLine
  | .endif line => [⟨_, line⟩]
  | .branch _ line body more => ⟨_, line⟩ :: (body.lines ++ more.lines)
  | .else_ line body last => ⟨_, line⟩ :: (body.lines ++ [⟨_, last⟩])

end

/-- Carries out an action, if it counts. -/
def carryOut (counts : Bool) (action : Preprocess Unit) : Preprocess Unit :=
  if counts then action else pure ()

/-- What is left of a line of text. -/
def Line.keep (line : Line .text) (selected : Bool) (location : Location) : Preprocess String :=
  if selected then expandLine (String.ofList line.chars) location else pure "\n"

mutual

/-- What is left of a document that begins at a place, line by line. In a selected document text is expanded
    and definitions are carried out; all other lines become empty. -/
def Doc.select (base : Option Path) (selected : Bool) (cursor : Cursor) : Doc → Preprocess (List String)
  | .done => return []
  | .text line next => do
    let kept ← line.keep selected cursor.location
    return kept :: (← next.select base selected (cursor.advance 1))
  | .define body _ next => do
    carryOut selected (define body)
    return "\n" :: (← next.select base selected (cursor.advance 1))
  | .undef body _ next => do
    carryOut selected (undefine body (cursor.directivePlace 0))
    return "\n" :: (← next.select base selected (cursor.advance 1))
  | .group test _ branch more next => do
    let holds ← test.ask selected (cursor.directivePlace 0) base
    let kept ← branch.select base holds (cursor.advance 1)
    let others ← more.select base selected holds (cursor.advance (1 + branch.lines.length))
    let behind ← next.select base selected (cursor.advance (1 + branch.lines.length + more.lines.length))
    return "\n" :: (kept ++ others ++ behind)

/-- What is left of the branches of a group that stands in selected text or not and of which a branch was
    taken or not. -/
def Branches.select (base : Option Path) (selected taken : Bool) (cursor : Cursor) :
    Branches → Preprocess (List String)
  | .endif _ => return ["\n"]
  | .branch test _ body more => do
    let holds ← test.ask (selected && !taken) (cursor.directivePlace 0) base
    let kept ← body.select base holds (cursor.advance 1)
    let others ← more.select base selected (taken || holds) (cursor.advance (1 + body.lines.length))
    return "\n" :: (kept ++ others)
  | .else_ _ body _ => do
    let kept ← body.select base (selected && !taken) (cursor.advance 1)
    return "\n" :: (kept ++ ["\n"])

end

/-! ## 3. Nesting -/

/-- The open groups behind a line of a kind, or why it does not stand there: a further branch or an end
    needs an open group, and a further branch one without `#else`. Open groups stand with the innermost
    first; of each it is told whether its `#else` was there. -/
def Kind.nest (groups : List Bool) : Kind → Except GroupFault (List Bool)
  | .text | .define _ | .undef _ => .ok groups
  | .opening _ => .ok (false :: groups)
  | .branch test =>
    match groups with
    | [] => .error (.outside test.branch.name)
    | true :: _ => .error (.afterElse test.branch.name)
    | false :: outer => .ok (false :: outer)
  | .else_ =>
    match groups with
    | [] => .error (.outside "else")
    | true :: _ => .error .duplicateElse
    | false :: outer => .ok (true :: outer)
  | .endif =>
    match groups with
    | [] => .error (.outside "endif")
    | _ :: outer => .ok outer

/-- The first fault in how lines nest, with the number of its line. A group that is open at the end is a
    fault there. -/
def fault? (groups : List Bool) (number : Nat) : List AnyLine → Option (Nat × GroupFault)
  | [] => if groups.isEmpty then none else some (number, .unterminated)
  | line :: rest =>
    match line.1.nest groups with
    | .error fault => some (number, fault)
    | .ok groups => fault? groups (number + 1) rest

mutual

/-- **The lines of a document nest**, whatever stands around them. -/
theorem fault?_lines_append (doc : Doc) (groups : List Bool) (number : Nat) (rest : List AnyLine) :
    fault? groups number (doc.lines ++ rest) = fault? groups (number + doc.lines.length) rest := by
  cases doc with
  | done => rfl
  | text line next | define body line next | undef body line next =>
    simp only [Doc.lines, cons_append, fault?, Kind.nest, length_cons]
    rw [fault?_lines_append next]
    congr 1
    omega
  | group test line branch more next =>
    simp only [Doc.lines, cons_append, append_assoc, fault?, Kind.nest, length_cons, length_append]
    rw [fault?_lines_append branch, fault?_branches_append more, fault?_lines_append next]
    congr 1
    omega

theorem fault?_branches_append (more : Branches) (groups : List Bool) (number : Nat) (rest : List AnyLine) :
    fault? (false :: groups) number (more.lines ++ rest) = fault? groups (number + more.lines.length) rest := by
  cases more with
  | endif line => rfl
  | branch test line body more =>
    simp only [Branches.lines, cons_append, append_assoc, fault?, Kind.nest, length_cons, length_append]
    rw [fault?_lines_append body, fault?_branches_append more]
    congr 1
    omega
  | else_ line body last =>
    simp only [Branches.lines, cons_append, append_assoc, fault?, Kind.nest, length_cons, length_append]
    rw [fault?_lines_append body]
    simp only [nil_append, length_nil, fault?, Kind.nest]
    congr 1
    omega

end

theorem fault?_lines (doc : Doc) (number : Nat) : fault? [] number doc.lines = none := by
  have h := fault?_lines_append doc [] number []
  rw [append_nil] at h
  exact h

/-- Lines that end every open group: a document, the further branches of the innermost group, and then the
    same for the groups around it. Behind `#else` a group has no further branch. -/
def Ends : List Bool → List AnyLine → Prop
  | [], ls => ∃ doc : Doc, ls = doc.lines
  | false :: groups, ls => ∃ (doc : Doc) (more : Branches) (rest : List AnyLine),
      ls = doc.lines ++ more.lines ++ rest ∧ Ends groups rest
  | true :: groups, ls => ∃ (doc : Doc) (last : Line .endif) (rest : List AnyLine),
      ls = doc.lines ++ ⟨_, last⟩ :: rest ∧ Ends groups rest

variable {ls : List AnyLine} {groups' : List Bool}

/-- What may stand before a document may stand wherever a document stands. -/
theorem Ends.append (front : List AnyLine) (hfront : ∀ next : Doc, ∃ doc : Doc, doc.lines = front ++ next.lines)
    (h : Ends groups ls) :
    Ends groups (front ++ ls) := by
  rcases groups with _ | ⟨_ | _, groups⟩
  · obtain ⟨next, rfl⟩ := h
    obtain ⟨doc, hdoc⟩ := hfront next
    exact ⟨doc, hdoc.symm⟩
  · obtain ⟨next, more, rest, rfl, hrest⟩ := h
    obtain ⟨doc, hdoc⟩ := hfront next
    refine ⟨doc, more, rest, ?_, hrest⟩
    rw [hdoc, append_assoc, append_assoc, append_assoc]
  · obtain ⟨next, last, rest, rfl, hrest⟩ := h
    obtain ⟨doc, hdoc⟩ := hfront next
    refine ⟨doc, last, rest, ?_, hrest⟩
    rw [hdoc, append_assoc]

/-- **Lines that nest end every open group.** -/
theorem ends_of_fault? (h : fault? groups number ls = none) : Ends groups ls := by
  induction ls generalizing groups number with
  | nil =>
    cases groups with
    | nil => exact ⟨.done, rfl⟩
    | cons seen groups => cases h
  | cons line ls ih =>
    obtain ⟨kind, line⟩ := line
    cases kind with
    | text => exact (ih h).append [⟨_, line⟩] fun next => ⟨.text line next, by rfl⟩
    | define body =>
      exact (ih h).append [⟨_, line⟩] fun next => ⟨.define body line next, by rfl⟩
    | undef body =>
      exact (ih h).append [⟨_, line⟩] fun next => ⟨.undef body line next, by rfl⟩
    | opening test =>
      obtain ⟨branch, more, rest, rfl, hrest⟩ := ih h
      exact hrest.append (⟨_, line⟩ :: (branch.lines ++ more.lines)) fun next =>
        ⟨.group test line branch more next, by rfl⟩
    | branch test =>
      rcases groups with _ | ⟨_ | _, groups⟩
      · cases h
      · obtain ⟨body, more, rest, rfl, hrest⟩ := ih h
        exact ⟨.done, .branch test line body more, rest, by rfl, hrest⟩
      · cases h
    | else_ =>
      rcases groups with _ | ⟨_ | _, groups⟩
      · cases h
      · obtain ⟨body, last, rest, rfl, hrest⟩ := ih h
        refine ⟨.done, .else_ line body last, rest, ?_, hrest⟩
        rw [append_cons]
        rfl
      · cases h
    | endif =>
      rcases groups with _ | ⟨_ | _, groups⟩
      · cases h
      · exact ⟨.done, .endif line, ls, by rfl, ih h⟩
      · exact ⟨.done, line, ls, rfl, ih h⟩

/-- **Lines that nest are the lines of a document.** -/
theorem exists_doc (h : fault? [] number ls = none) : ∃ doc : Doc, doc.lines = ls := by
  obtain ⟨doc, rfl⟩ := ends_of_fault? h
  exact ⟨doc, rfl⟩

/-! ## 4. Closing -/

/-- The open groups behind lines. -/
def nestAll (groups : List Bool) (ls : List AnyLine) : Except GroupFault (List Bool) :=
  ls.foldlM (fun groups line => line.1.nest groups) groups

theorem nestAll_cons : nestAll groups (line :: ls) = .ok groups' ↔
      ∃ behind, line.1.nest groups = .ok behind ∧ nestAll behind ls = .ok groups' := by
  unfold nestAll
  rw [foldlM_cons]
  cases line.1.nest groups with
  | error fault => exact ⟨nofun, nofun⟩
  | ok behind =>
    constructor
    · exact fun h => ⟨behind, rfl, h⟩
    · rintro ⟨_, h, hrest⟩
      cases h
      exact hrest

theorem fault?_append (h : nestAll groups front = .ok groups') :
    fault? groups number (front ++ rest) = fault? groups' (number + front.length) rest := by
  induction front generalizing groups number with
  | nil =>
    cases h
    rfl
  | cons line front ih =>
    obtain ⟨behind, hline, hfront⟩ := nestAll_cons.mp h
    simp only [cons_append, fault?, hline, length_cons]
    rw [ih hfront]
    congr 1
    omega

/-- Ends for open groups close them. -/
theorem fault?_replicate (last : Line .endif) (groups : List Bool) (number : Nat) :
    fault? groups number (replicate groups.length ⟨_, last⟩) = none := by
  induction groups generalizing number with
  | nil => rfl
  | cons seen groups ih => exact ih (number + 1)

/-- What stands before a fault, and why there is one. -/
theorem exists_front (h : fault? groups number ls = some (k, fault)) :
    ∃ front rest groups', ls = front ++ rest ∧ nestAll groups front = .ok groups' ∧ k = number + front.length ∧
      (rest = [] ∧ groups' ≠ [] ∧ fault = .unterminated ∨
        ∃ line rest', rest = line :: rest' ∧ line.1.nest groups' = .error fault) := by
  induction ls generalizing groups number with
  | nil =>
    cases groups with
    | nil => cases h
    | cons seen groups =>
      cases h
      exact ⟨[], [], seen :: groups, rfl, rfl, rfl, .inl ⟨rfl, nofun, rfl⟩⟩
  | cons line ls ih =>
    rw [fault?] at h
    cases hline : line.1.nest groups with rw [hline] at h
    | error found =>
      cases h
      exact ⟨[], line :: ls, groups, rfl, rfl, rfl, .inr ⟨line, ls, rfl, hline⟩⟩
    | ok behind =>
      obtain ⟨front, rest, groups', rfl, hfront, rfl, hwhy⟩ := ih h
      refine ⟨line :: front, rest, groups', rfl, nestAll_cons.mpr ⟨behind, hline, hfront⟩, ?_, hwhy⟩
      rw [length_cons]
      omega

/-- The line that ends a group. -/
def endifLine : Line .endif where
  content := "#endif".toList
  unbroken := by decide
  reads := ⟨⟨"endif", []⟩, by decide, by unfold Kind.Fits NoOperand; decide, by decide, by decide⟩

end CCompiler.Preprocess
