import CCompiler.Condition.Word

/-!
# How choices are rewritten

A choice is written `a ? b : c` in a condition and `b if a else c` in the words that are computed. Both ways
read words as the same trees. Rewriting goes from one to the other and keeps the tree.

* `Reads` -- how words are read, in either way;
* `Reads.unique` -- words are read as one tree at most;
* `Search.passes` -- no search stops inside parentheses;
* `Reads.arranged` -- choices are rewritten once those inside parentheses are;
* `Reads.grouped` -- choices inside parentheses are rewritten;
* `choices_keep_tree` -- words that are read as a tree become words that are read as the same tree.
-/
namespace CCompiler.Condition

open List

/-! ## 1. Trees -/

/-- The marks that give words a structure. -/
def structureMarks : List Word := [.opening, .closing, .question, .colon, .mark "if", .mark "else"]

/-- A word of an operand or an operator. -/
def Word.isPlain (word : Word) : Bool := !structureMarks.contains word

/-- What is chosen by what, among runs of words and of parts that stood in parentheses. -/
inductive Tree where
  | word (word : Word)
  | run (parts : List Tree)
  | choice (condition first second : Tree)

/-- The tree of a run. Parentheses around a whole operand do not show. -/
def whole : List Tree → Tree
  | [part] => part
  | parts => .run parts

/-- The ways to write choices: `condition ? first : second` and `first if condition else second`. -/
inductive Writing where
  | signs
  | names

namespace Writing

/-- The mark behind the first part of a choice. -/
def first : Writing → Word
  | .signs => .question
  | .names => .mark "if"

/-- The mark in front of the last part of a choice. -/
def second : Writing → Word
  | .signs => .colon
  | .names => .mark "else"

/-- The choice that three parts are. -/
def order : Writing → Tree → Tree → Tree → Tree
  | .signs, front, middle, last => .choice front middle last
  | .names, front, middle, last => .choice middle front last

/-- How choices between the marks are written. With names they stand in parentheses. -/
def between : Writing → Option Writing
  | .signs => some .signs
  | .names => none

end Writing

/-- How words are read: as the parts of a run, or of a whole with choices in some writing. There is one writing
    inside parentheses. -/
inductive Reads (inner : Writing) : Option Writing → List Word → List Tree → Prop
  | nil : Reads inner none [] []
  | word {word words parts} (plain : word.isPlain = true) (h : Reads inner none words parts) :
      Reads inner none (word :: words) (.word word :: parts)
  | group {words rest a parts} (h : Reads inner (some inner) words a) (hrest : Reads inner none rest parts) :
      Reads inner none (.opening :: (words ++ .closing :: rest)) (whole a :: parts)
  | run {w words parts} (h : Reads inner none words parts) : Reads inner (some w) words parts
  | choice {w front middle last a b c} (hfront : Reads inner none front a)
      (hmiddle : Reads inner w.between middle b) (hlast : Reads inner (some w) last c) :
      Reads inner (some w) (front ++ w.first :: (middle ++ w.second :: last)) [w.order (whole a) (whole b) (whole c)]

/-- Words are an expression with a tree. -/
def ReadsAs (w : Writing) (words : List Word) (t : Tree) : Prop :=
  ∃ parts, Reads w (some w) words parts ∧ whole parts = t

variable {w inner : Writing} {form : Option Writing} {word : Word} {words rest : List Word} {a : List Tree}

/-! ## 2. Words have one tree -/

/-- Whether more of a run or of a whole may begin with a word. -/
def goesOn (form : Option Writing) (word : Word) : Bool :=
  word.isPlain || word = .opening || form.any (·.first = word)

/-- Neither a run nor a whole goes on with these words. -/
def Stops (form : Option Writing) (words : List Word) : Prop := ∀ word ∈ words.head?, goesOn form word = false

theorem Stops.cons (h : goesOn form word = false) (words : List Word) :
    Stops form (word :: words) := fun _ hword => Option.some.inj hword ▸ h

theorem Stops.ne (h : Stops form rest) (hword : goesOn form word) (words : List Word) :
    rest ≠ word :: words := by
  rintro rfl
  cases hword.symm.trans (h word rfl)

theorem Stops.none (h : Stops (some w) rest) : Stops none rest :=
  fun word hword => (Bool.or_eq_false_iff.mp (h word hword)).1.symm ▸ Bool.or_false _

theorem goesOn_marks (w : Writing) : goesOn none w.first = false ∧ goesOn (some w) w.first ∧
    goesOn (some w) .closing = false ∧ goesOn w.between w.second = false := by
  cases w <;> decide

theorem goesOn_of_isPlain (h : word.isPlain) : goesOn form word := by
  rw [goesOn, h]
  rfl

theorem ne_of_isPlain (h : word.isPlain) :
    (word ≠ .opening ∧ word ≠ .closing) ∧ word ≠ .question ∧ word ≠ .colon := by
  refine ⟨⟨?_, ?_⟩, ?_, ?_⟩ <;> rintro rfl <;> cases h

/-- **Words are read in one way**, with whatever ends them behind them. -/
theorem Reads.unique (h : Reads w form words a)
    (h' : Reads w form words' b) (hrest : Stops form rest) (hrest' : Stops form rest') (heq : words ++ rest = words' ++ rest') : words = words' ∧ a = b := by
  have hfirst := fun v : Writing => Stops.cons (goesOn_marks v).1
  have hclosing := Stops.cons (goesOn_marks w).2.2.1
  have hsecond := fun v : Writing => Stops.cons (goesOn_marks v).2.2.2
  induction h generalizing words' rest rest' b with
  | nil =>
    cases h' with
    | nil => exact ⟨rfl, rfl⟩
    | word plain _ => exact absurd heq (hrest.ne (goesOn_of_isPlain plain) _)
    | group _ _ => exact absurd heq (hrest.ne rfl _)
  | word plain _ ih =>
    cases h' with
    | nil => exact absurd heq.symm (hrest'.ne (goesOn_of_isPlain plain) _)
    | word _ h' =>
      obtain ⟨rfl, htail⟩ := cons.inj heq
      obtain ⟨rfl, rfl⟩ := ih h' hrest hrest' htail
      exact ⟨rfl, rfl⟩
    | group _ _ => exact absurd (cons.inj heq).1 (ne_of_isPlain plain).1.1
  | group _ _ ih ihrest =>
    cases h' with
    | nil => exact absurd heq.symm (hrest'.ne rfl _)
    | word plain _ => exact absurd (cons.inj heq).1.symm (ne_of_isPlain plain).1.1
    | group h' hbehind =>
      simp only [cons_append, append_assoc, List.cons.injEq, true_and] at heq
      obtain ⟨rfl, rfl⟩ := ih h' (hclosing _) (hclosing _) heq
      obtain ⟨rfl, rfl⟩ := ihrest hbehind hrest hrest' (cons.inj (append_cancel_left heq)).2
      exact ⟨rfl, rfl⟩
  | @run v words a _ ih =>
    cases h' with
    | run h' => exact ih h' hrest.none hrest'.none heq
    | choice hfront _ _ =>
      rw [append_assoc] at heq
      obtain ⟨rfl, -⟩ := ih hfront hrest.none (hfirst v _) heq
      exact absurd (append_cancel_left heq) (hrest.ne (goesOn_marks v).2.1 _)
  | @choice v front middle last _ _ _ _ _ _ ihf ihm ihl =>
    cases h' with
    | run h' =>
      rw [append_assoc] at heq
      obtain ⟨rfl, -⟩ := ihf h' (hfirst v _) hrest'.none heq
      exact absurd (append_cancel_left heq).symm (hrest'.ne (goesOn_marks v).2.1 _)
    | choice hfront hmiddle hlast =>
      simp only [append_assoc, cons_append] at heq
      obtain ⟨rfl, rfl⟩ := ihf hfront (hfirst v _) (hfirst v _) heq
      have heq := (cons.inj (append_cancel_left heq)).2
      obtain ⟨rfl, rfl⟩ := ihm hmiddle (hsecond v _) (hsecond v _) heq
      obtain ⟨rfl, rfl⟩ := ihl hlast hrest hrest' (cons.inj (append_cancel_left heq)).2
      exact ⟨rfl, rfl⟩

/-! ## 3. Searches -/

/-- What a search finds when words stand in front. -/
def inFront (front : List Word) (found : Option (List Word × List Word)) : Option (List Word × List Word) :=
  found.map fun r => (front ++ r.1, r.2)

theorem inFront_inFront (front next : List Word) (found : Option (List Word × List Word)) :
    inFront front (inFront next found) = inFront (front ++ next) found := by
  cases found <;> simp [inFront]

/-- A search that counts open parentheses from a number on. Outside of all it may stop at a question mark or a
    colon. -/
structure Search (opened : Nat) (f : Nat → List Word → Option (List Word × List Word)) : Prop where
  opening : ∀ depth rest, f depth (.opening :: rest) = inFront [.opening] (f (depth + 1) rest)
  closing : ∀ depth rest, f (depth + 1) (.closing :: rest) = inFront [.closing] (f depth rest)
  word : ∀ {depth word} rest, word ≠ .opening ∧ word ≠ .closing →
    (opened + depth = 0 → word ≠ .question ∧ word ≠ .colon) → f depth (word :: rest) = inFront [word] (f depth rest)

/-- **A search stops neither inside parentheses nor in choices that are written with names.** -/
theorem Search.passes (hf : Search opened f) (h : Reads inner form words a) (hd : opened + d = 0 → form ≠ some .signs)
    (rest : List Word) : f d (words ++ rest) = inFront words (f d rest) := by
  induction h generalizing d rest with
  | nil => cases hfound : f d rest <;> exact hfound
  | word plain _ ih =>
    obtain ⟨hparen, hmark⟩ := ne_of_isPlain plain
    rw [cons_append, hf.word _ hparen fun _ => hmark, ih fun _ => nofun, inFront_inFront]
    rfl
  | group _ _ ih ihrest =>
    rw [cons_append, append_assoc, hf.opening, ih (absurd · (Nat.succ_ne_zero _)), cons_append, hf.closing, ihrest hd]
    simp [inFront_inFront]
  | run _ ih => exact ih (fun _ => nofun) rest
  | @choice w _ _ _ _ _ _ _ _ _ ihf ihm ihl =>
    have hnames : opened + d = 0 → w = .names := fun h0 => by
      cases w with
      | signs => exact absurd rfl (hd h0)
      | names => rfl
    simp only [append_assoc, cons_append]
    rw [ihf fun _ => nofun, hf.word _ (by cases w <;> decide) fun h0 => by rw [hnames h0]; decide,
      ihm fun h0 => by rw [hnames h0]; nofun, hf.word _ (by cases w <;> decide) fun h0 => by
        rw [hnames h0]; decide, ihl hd]
    simp [inFront_inFront]

theorem search_groupSpan : Search 1 fun depth words => some (groupSpan (depth + 1) words) where
  opening := fun _ _ => rfl
  closing := fun _ _ => rfl
  word := fun _ hparen _ => by
    rw [groupSpan, if_neg hparen.1, if_neg hparen.2]
    rfl

theorem search_cutAtQuestion : Search 0 fun depth => cutAtQuestion? depth where
  opening := fun _ _ => rfl
  closing := fun depth _ => by
    rw [cutAtQuestion?]
    simp [inFront]
  word := fun _ hparen hmark => by
    rw [cutAtQuestion?, if_neg fun h => (hmark (by omega)).1 h.1]
    simp [hparen, inFront]

theorem search_cutAtColon (waiting : Nat) : Search 0 fun depth => cutAtColon? waiting depth where
  opening := fun _ _ => rfl
  closing := fun depth _ => by
    rw [cutAtColon?]
    simp [inFront]
  word := fun _ hparen hmark => by
    rw [cutAtColon?, if_neg fun h => (hmark (by omega)).2 h.1, if_neg hparen.1, if_neg hparen.2,
      if_neg fun h => (hmark (by omega)).1 h.1, if_neg fun h => (hmark (by omega)).2 h.1]
    rfl

/-! ## 4. The steps of rewriting -/

/-- Words with every choice rewritten. -/
def arranged (words : List Word) : Except Fault (List Word) := (arrangeChoices words).map (·.val)

/-- Words with every choice inside parentheses rewritten. -/
def grouped (words : List Word) : Except Fault (List Word) := (arrangeGroups words).map (·.val)

/-- What is left to do once parentheses are rewritten. -/
def settled (words : List Word) : Except Fault (List Word) :=
  match cutAtQuestion? 0 words with
  | none => return words
  | some (condition, behind) =>
    match cutAtColon? 1 0 behind with
    | none => throw .invalidToken
    | some (first, second) => do
      let c ← arranged condition
      let a ← arranged first
      let b ← arranged second
      return .opening :: (a ++ .mark "if" :: (c ++ .mark "else" :: (b ++ [.closing])))

theorem arranged_eq (words : List Word) : arranged words = grouped words >>= settled := by
  unfold arranged grouped
  rw [arrangeChoices]
  rcases arrangeGroups words with fault | ⟨processed, hle⟩
  · rfl
  · show _ = settled processed
    dsimp only [Bind.bind, Except.bind]
    split
    · rename_i hq
      simp only [settled, hq]
      rfl
    · rename_i condition behind hq
      split
      · rename_i hc
        simp only [settled, hq, hc]
        rfl
      · rename_i first second hc
        simp only [settled, hq, hc, arranged]
        cases arrangeChoices condition <;> cases arrangeChoices first <;> cases arrangeChoices second <;> rfl

theorem grouped_of_append (h : ∀ rest, grouped (words ++ rest) = (grouped rest).map (out ++ ·)) : grouped words = .ok out := by
  have hnil : grouped [] = .ok [] := by
    unfold grouped
    rw [arrangeGroups]
    rfl
  have h := h []
  rw [append_nil, hnil] at h
  rw [h]
  simp [Except.map]

theorem grouped_word (h : word ≠ .opening) (rest : List Word) :
    grouped (word :: rest) = (grouped rest).map (word :: ·) := by
  unfold grouped
  rw [arrangeGroups, dif_neg h]
  cases arrangeGroups rest <;> rfl

theorem grouped_opening (rest : List Word) : grouped (.opening :: rest) = (do
      let a ← arranged (groupSpan 1 rest).1.dropLast
      let tail ← grouped (groupSpan 1 rest).2
      return .opening :: (a ++ .closing :: tail)) := by
  unfold grouped arranged
  rw [arrangeGroups]
  cases arrangeChoices (groupSpan 1 rest).1.dropLast <;> cases arrangeGroups (groupSpan 1 rest).2 <;> rfl

theorem grouped_group (h : Reads inner form words a) (rest : List Word) :
    grouped (.opening :: (words ++ .closing :: rest)) = (do
      let a ← arranged words
      let tail ← grouped rest
      return .opening :: (a ++ .closing :: tail)) := by
  have hspan : some (groupSpan 1 (words ++ .closing :: rest)) = some (words ++ [.closing], rest) :=
    (search_groupSpan.passes (d := 0) h nofun _).trans (by simp [inFront, groupSpan])
  rw [grouped_opening, Option.some.inj hspan, dropLast_concat]

/-! ## 5. Choices whose parentheses are rewritten -/

section Named

variable (h : Reads .names form words a)
include h

/-- No question mark is left to find where all choices are written with names. -/
theorem settled_eq (hform : form ≠ some .signs) : settled words = .ok words := by
  have hcut : cutAtQuestion? 0 (words ++ []) = none := search_cutAtQuestion.passes h (fun _ => hform) []
  rw [append_nil] at hcut
  rw [settled, hcut]
  rfl

/-- Where no choice in parentheses is left to rewrite, parentheses stay as they are. -/
theorem grouped_append (rest : List Word) : grouped (words ++ rest) = (grouped rest).map (words ++ ·) := by
  induction h generalizing rest with
  | nil => cases hrest : grouped rest <;> exact hrest
  | word plain _ ih =>
    rw [cons_append, grouped_word (ne_of_isPlain plain).1.1, ih]
    cases grouped rest <;> rfl
  | @group words _ _ _ h _ ih ihrest =>
    have harranged : arranged words = .ok words := by
      rw [arranged_eq, grouped_of_append ih]
      exact settled_eq h nofun
    rw [cons_append, append_assoc, cons_append, grouped_group h, harranged, ihrest]
    cases grouped rest <;> simp [bind, Except.bind, Except.map, pure, Except.pure]
  | run _ ih => exact ih rest
  | @choice w _ _ _ _ _ _ _ _ _ ihf ihm ihl =>
    simp only [append_assoc, cons_append]
    rw [ihf, grouped_word (by cases w <;> decide), ihm, grouped_word (by cases w <;> decide), ihl]
    cases grouped rest <;> simp [Except.map]

theorem arranged_eq_settled : arranged words = settled words := by
  rw [arranged_eq, grouped_of_append (grouped_append h)]
  rfl

/-- The colon of a choice is not found inside a whole before it. -/
theorem Reads.cutAtColon? (hform : form = some .signs) (hwaiting : 0 < waiting) (rest : List Word) :
    cutAtColon? waiting 0 (words ++ rest) = inFront words (Condition.cutAtColon? waiting 0 rest) := by
  have hrun : ∀ {words a} (waiting : Nat) (rest : List Word), Reads .names none words a →
      Condition.cutAtColon? waiting 0 (words ++ rest) = inFront words (Condition.cutAtColon? waiting 0 rest) :=
    fun waiting rest h => (search_cutAtColon waiting).passes h (fun _ => nofun) rest
  have hcolon : ∀ {waiting : Nat} (rest : List Word), 0 < waiting →
      Condition.cutAtColon? (waiting + 1) 0 (.colon :: rest) =
        inFront [.colon] (Condition.cutAtColon? waiting 0 rest) := by
    intro waiting rest h
    rw [Condition.cutAtColon?, if_neg (by omega)]
    rfl
  induction h generalizing waiting rest with
  | nil | word | group => cases hform
  | run h => exact hrun waiting rest h
  | @choice _ front middle last _ _ _ hfront _ _ _ ihm ihl =>
    cases hform
    have hquestion : Condition.cutAtColon? waiting 0 (.question :: (middle ++ .colon :: (last ++ rest))) =
      inFront [.question] (Condition.cutAtColon? (waiting + 1) 0 (middle ++ .colon :: (last ++ rest))) := rfl
    simp only [append_assoc, cons_append, Writing.first, Writing.second]
    rw [hrun _ _ hfront, hquestion, ihm rfl (Nat.succ_pos _), hcolon _ hwaiting, ihl rfl hwaiting]
    simp [inFront_inFront]

/-- **Choices are rewritten once those inside parentheses are.** -/
theorem Reads.arranged (hform : form = some .signs) : ∃ out, arranged words = .ok out ∧ Reads .names none out a := by
  have hrun : ∀ {words a}, Reads .names none words a → Condition.arranged words = .ok words := fun h =>
    (arranged_eq_settled h).trans (settled_eq h nofun)
  induction h with
  | nil | word | group => cases hform
  | run h => exact ⟨_, hrun h, h⟩
  | @choice _ front middle last _ _ _ hfront hmiddle hlast _ ihm ihl =>
    cases hform
    obtain ⟨b, hb, hbread⟩ := ihm rfl
    obtain ⟨c, hc, hcread⟩ := ihl rfl
    have hquestion : cutAtQuestion? 0 (front ++ .question :: (middle ++ .colon :: last)) =
        some (front ++ [], middle ++ .colon :: last) :=
      search_cutAtQuestion.passes hfront (fun _ => nofun) _
    have hcolon : Condition.cutAtColon? 1 0 (middle ++ .colon :: last) = some (middle ++ [], last) :=
      hmiddle.cutAtColon? rfl Nat.one_pos _
    rw [append_nil] at hquestion hcolon
    refine ⟨_, ?_, .group (.choice hbread hfront (.run hcread)) .nil⟩
    rw [arranged_eq_settled (.choice hfront hmiddle hlast)]
    simp only [Writing.first, Writing.second]
    rw [settled, hquestion]
    dsimp only
    rw [hcolon]
    dsimp only
    rw [hrun hfront, hb, hc]
    simp [bind, Except.bind, pure, Except.pure]

end Named

/-! ## 6. Choices in parentheses -/

/-- What is rewritten inside parentheses is rewritten outside of them then. -/
theorem Reads.arranged_of_grouped (h : Reads .names (some .signs) out a)
    (hgrouped : ∀ rest, grouped (words ++ rest) = (Condition.grouped rest).map (out ++ ·)) :
    ∃ out', Condition.arranged words = .ok out' ∧ Reads .names none out' a := by
  have hsame : Condition.arranged words = Condition.arranged out := by
    rw [arranged_eq, grouped_of_append hgrouped, arranged_eq_settled h]
    rfl
  rw [hsame]
  exact h.arranged rfl

/-- **Choices in parentheses are rewritten**, and other words stay in their places. -/
theorem Reads.grouped (h : Reads .signs form words a) : ∃ out, Reads .names form out a ∧
      ∀ rest, grouped (words ++ rest) = (Condition.grouped rest).map (out ++ ·) := by
  induction h with
  | nil => exact ⟨[], .nil, fun rest => by cases hrest : Condition.grouped rest <;> exact hrest⟩
  | @word word words _ plain _ ih =>
    obtain ⟨out, hout, hgrouped⟩ := ih
    refine ⟨word :: out, .word plain hout, fun rest => ?_⟩
    rw [cons_append, grouped_word (ne_of_isPlain plain).1.1, hgrouped]
    cases Condition.grouped rest <;> rfl
  | @group words behind _ _ h _ ih ihrest =>
    obtain ⟨inside, hinside, hgrouped⟩ := ih
    obtain ⟨out, harranged, hout⟩ := hinside.arranged_of_grouped hgrouped
    obtain ⟨outer, houter, hbehind⟩ := ihrest
    refine ⟨_, .group (.run hout) houter, fun rest => ?_⟩
    rw [cons_append, append_assoc, cons_append, grouped_group h, harranged, hbehind]
    cases Condition.grouped rest <;> simp [bind, Except.bind, Except.map, pure, Except.pure]
  | run _ ih =>
    obtain ⟨out, hout, hgrouped⟩ := ih
    exact ⟨out, .run hout, hgrouped⟩
  | @choice w _ _ _ _ _ _ _ _ _ ihf ihm ihl =>
    obtain ⟨front, hfront, hf⟩ := ihf
    obtain ⟨middle, hmiddle, hm⟩ := ihm
    obtain ⟨last, hlast, hl⟩ := ihl
    refine ⟨_, .choice hfront hmiddle hlast, fun rest => ?_⟩
    simp only [append_assoc, cons_append]
    rw [hf, grouped_word (by cases w <;> decide), hm, grouped_word (by cases w <;> decide), hl]
    cases Condition.grouped rest <;> simp [Except.map]

theorem ReadsAs.unique (h : ReadsAs w words t) (h' : ReadsAs w words t') : t' = t := by
  obtain ⟨a, ha, rfl⟩ := h
  obtain ⟨b, hb, rfl⟩ := h'
  have hnil : Stops (some w) [] := nofun
  rw [(ha.unique hb hnil hnil rfl).2]

/-- **Rewriting keeps the tree of choices.** Words that are an expression with question marks and colons have
    one tree. They are rewritten, and the words that come of it are an expression with `if` and `else` that has
    this tree and no other. -/
theorem choices_keep_tree {words : List Word} {t : Tree} (h : ReadsAs .signs words t) :
    (∀ t', ReadsAs .signs words t' → t' = t) ∧
    ∃ out, (arrangeChoices words).map (·.val) = .ok out ∧ ReadsAs .names out t ∧
      ∀ t', ReadsAs .names out t' → t' = t := by
  refine ⟨fun t' => h.unique, ?_⟩
  obtain ⟨a, ha, rfl⟩ := h
  obtain ⟨inside, hinside, hgrouped⟩ := ha.grouped
  obtain ⟨out, harranged, hout⟩ := hinside.arranged_of_grouped hgrouped
  have hread : ReadsAs .names out (whole a) := ⟨a, .run hout, rfl⟩
  exact ⟨out, harranged, hread, fun t' => hread.unique⟩

/-- In `1 ? 2 : 3 ? 4 : 5` the second choice is the last part of the first. -/
theorem choices_keep_chain : ∃ out,
    (arrangeChoices [.number 1, .question, .number 2, .colon, .number 3, .question, .number 4, .colon,
      .number 5]).map (·.val) = .ok out ∧
    ReadsAs .names out (.choice (.word (.number 1)) (.word (.number 2))
      (.choice (.word (.number 3)) (.word (.number 4)) (.word (.number 5)))) := by
  have hword : ∀ n, Reads .signs none [.number n] [.word (.number n)] := fun n => .word rfl .nil
  have hlast : Reads .signs (some .signs) [.number 3, .question, .number 4, .colon, .number 5] _ :=
    .choice (w := .signs) (hword 3) (.run (hword 4)) (.run (hword 5))
  obtain ⟨-, out, hout, htree, -⟩ :=
    choices_keep_tree ⟨_, .choice (hword 1) (.run (hword 2)) hlast, rfl⟩
  exact ⟨out, hout, htree⟩

end CCompiler.Condition
