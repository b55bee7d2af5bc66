import CCompiler.Json.Parse
import Mathlib

/-!
# Reading back what was written

A value laid out as a tree reads back as itself. The rule is put together as values are: a text between
quotes, a number of one digit, and an object whose values are readable and whose names are distinct.

* `readText_quote` -- a text in quotes reads back, whatever its characters;
* `readable_string`, `readable_digit`, `readable_object` -- the values that read back;
* `parse_tree` -- a whole text.
-/
namespace CCompiler.Json

open List

variable {fields : List (String × Json)}

/-! ## 1. Texts -/

theorem hexValue?_hexDigit : ∀ d < 16, hexValue? (hexDigit d) = some d := by decide

/-- The four digits of a unit. -/
def unitDigits (n : Nat) : List Char :=
  [hexDigit (n / 4096 % 16), hexDigit (n / 256 % 16), hexDigit (n / 16 % 16), hexDigit (n % 16)]

variable {n depth fuel : Nat}

theorem unit?_unitDigits (hn : n < 0x10000) (rest : List Char) : unit? (unitDigits n ++ rest) = some n := by
  have h16 : ∀ k, k % 16 < 16 := fun k => Nat.mod_lt k (by decide)
  simp [unitDigits, unit?, hexValue?_hexDigit, h16]
  omega

/-- No character is half of a pair. -/
theorem toNat_cases (c : Char) : c.toNat < 0xD800 ∨ 0xDFFF < c.toNat ∧ c.toNat < 0x110000 := c.valid

theorem unitChar?_single (hc : c.toNat < 0x10000) (rest : List Char) :
    unitChar? (unitDigits c.toNat ++ rest) = some (c, 4) := by
  have hsurrogate : ¬ (0xD800 ≤ c.toNat ∧ c.toNat ≤ 0xDBFF) := by
    rcases toNat_cases c with h | h <;> omega
  unfold unitChar?
  rw [unit?_unitDigits hc]
  dsimp only
  split
  · rw [if_neg (fun h => hsurrogate ⟨h.1, h.2.1⟩), Char.ofNat_toNat]
  · rw [Char.ofNat_toNat]

theorem unitChar?_pair (high low : Nat) (hhigh : high < 0x400) (hlow : low < 0x400) (rest : List Char) :
    unitChar? (unitDigits (0xD800 + high) ++ '\\' :: 'u' :: (unitDigits (0xDC00 + low) ++ rest)) =
      some (Char.ofNat (0x10000 + high * 0x400 + low), 10) := by
  have hdrop : ∀ n rest', (unitDigits n ++ rest').drop 4 = rest' := fun n rest' => rfl
  have hpair : 0xD800 ≤ 0xD800 + high ∧ 0xD800 + high ≤ 0xDBFF ∧ 0xDC00 ≤ 0xDC00 + low ∧
      0xDC00 + low ≤ 0xDFFF := by omega
  have hhigh' : 0xD800 + high - 0xD800 = high := Nat.add_sub_cancel_left _ _
  have hlow' : 0xDC00 + low - 0xDC00 = low := Nat.add_sub_cancel_left _ _
  unfold unitChar?
  rw [unit?_unitDigits (by omega)]
  simp only [hdrop]
  rw [unit?_unitDigits (by omega)]
  dsimp only
  rw [if_pos hpair, hhigh', hlow']

section Texts

variable {start begun rest : List Char} {c : Char}

theorem readText_plain (hquote : c ≠ '"') (hslash : c ≠ '\\') (hc : 0x20 ≤ c.toNat) :
    readText start begun 0 (c :: rest) = readText start (c :: begun) 0 rest := by
  rw [readText.eq_def]
  simp [hquote, hslash, Nat.not_lt.mpr hc]

theorem readText_skip (front : List Char) :
    readText start begun front.length (front ++ rest) = readText start begun 0 rest := by
  induction front with
  | nil => rfl
  | cons c front ih => exact ih

/-- An escape by units is passed over with all that it takes. -/
theorem readText_units (front : List Char) (h : unitChar? (front ++ rest) = some (c, front.length)) :
    readText start begun 0 ('\\' :: 'u' :: (front ++ rest)) = readText start (c :: begun) 0 rest := by
  rw [readText.eq_def]
  simp only [beq_iff_eq, Char.reduceEq, if_false, if_true, h]
  exact readText_skip ('u' :: front)

/-- One character that was written reads back. -/
theorem readText_charEscape : readText start begun 0 (charEscape c ++ rest) = readText start (c :: begun) 0 rest := by
  unfold charEscape
  split
  case h_8 hquote hslash _ _ _ _ _ =>
    dsimp only
    split
    · rename_i hrange
      simp only [Bool.and_eq_true, decide_eq_true_eq] at hrange
      exact readText_plain hquote hslash hrange.1
    · split
      · rename_i hunit
        exact readText_units (unitDigits c.toNat) (unitChar?_single hunit rest)
      · have htop : c.toNat < 0x110000 := by
          rcases toNat_cases c with h | h <;> omega
        have hcode : 0x10000 + (c.toNat - 0x10000) / 0x400 * 0x400 + (c.toNat - 0x10000) % 0x400 = c.toNat := by
          omega
        have hread := unitChar?_pair ((c.toNat - 0x10000) / 0x400) ((c.toNat - 0x10000) % 0x400)
          (by omega) (by omega) rest
        rw [hcode, Char.ofNat_toNat] at hread
        exact readText_units (unitDigits _ ++ '\\' :: 'u' :: unitDigits _) (by exact hread)
  all_goals rfl

/-- **A text in quotes reads back.** -/
theorem readText_quote (cs : List Char) :
    readText start begun 0 (cs.flatMap charEscape ++ '"' :: rest) =
      .ok (String.ofList (begun.reverse ++ cs), rest) := by
  induction cs generalizing begun with
  | nil => simp [readText]
  | cons c cs ih =>
    rw [flatMap_cons, append_assoc, readText_charEscape, ih]
    simp

end Texts

theorem toList_quote (s : String) : (quote s).toList = '"' :: (s.toList.flatMap charEscape ++ ['"']) := by
  simp [quote]

/-! ## 2. Values that read back -/

/-- What may stand behind a value: nothing, or the end of an item or of a line. -/
def Stops (rest : List Char) : Prop := ∀ c ∈ rest.head?, c = ',' ∨ c = '\n'

/-- A value that reads back from its text at a depth. The text is not blank at its front, and is made of
    characters of one byte each, none of them a line end but the newline. -/
structure Readable (depth : Nat) (j : Json) : Prop where
  front : ∃ c cs, (renderAt .tree depth j).toList = c :: cs ∧ isBlank c = false ∧ c ≠ '\uFEFF'
  plain : ∀ c ∈ (renderAt .tree depth j).toList, c.toNat < 0x80 ∧ c ≠ '\r'
  reads : ∀ fuel rest, (renderAt .tree depth j).toList.length ≤ fuel → Stops rest →
    readValue fuel ((renderAt .tree depth j).toList ++ rest) = .ok (j, rest)

theorem hexDigit_plain : ∀ d < 16, (hexDigit d).toNat < 0x80 ∧ hexDigit d ≠ '\r' := by decide

theorem unitEscape_plain (h : c ∈ unitEscape n) : c.toNat < 0x80 ∧ c ≠ '\r' := by
  have h16 : ∀ k, k % 16 < 16 := fun k => Nat.mod_lt k (by decide)
  simp only [unitEscape, mem_cons, not_mem_nil, or_false] at h
  rcases h with rfl | rfl | rfl | rfl | rfl | rfl
  · decide
  · decide
  all_goals exact hexDigit_plain _ (h16 _)

theorem charEscape_plain (h : d ∈ charEscape c) : d.toNat < 0x80 ∧ d ≠ '\r' := by
  unfold charEscape at h
  split at h
  case h_8 =>
    dsimp only at h
    split at h
    · rename_i hcr _ _ _ hrange
      simp only [Bool.and_eq_true, decide_eq_true_eq] at hrange
      rw [mem_singleton] at h
      subst h
      exact ⟨by omega, hcr⟩
    · split at h
      · exact unitEscape_plain h
      · rcases mem_append.mp h with h | h <;> exact unitEscape_plain h
  all_goals
    rw [mem_cons, mem_singleton] at h
    rcases h with rfl | rfl <;> decide

theorem quote_plain (h : c ∈ (quote s).toList) : c.toNat < 0x80 ∧ c ≠ '\r' := by
  rw [toList_quote] at h
  simp only [mem_cons, mem_append, mem_flatMap, not_mem_nil, or_false] at h
  rcases h with rfl | ⟨d, -, h⟩ | rfl
  · decide
  · exact charEscape_plain h
  · decide

theorem readable_string (depth : Nat) (s : String) : Readable depth (.string s) where
  front := ⟨'"', _, toList_quote s, by decide, by decide⟩
  plain c h := quote_plain h
  reads fuel rest hfuel _ := by
    rw [renderAt, toList_quote] at hfuel ⊢
    cases fuel with
    | zero => cases hfuel
    | succ fuel =>
      rw [cons_append, append_assoc, singleton_append, readValue, readText_quote]
      simp [bind, Except.bind, pure, Except.pure]

theorem Stops.no_number (h : Stops rest) :
    digitCount rest = 0 ∧ fractionLength rest = 0 ∧ exponentLength rest = 0 := by
  cases rest with
  | nil => exact ⟨rfl, rfl, rfl⟩
  | cons c rest => rcases h c rfl with rfl | rfl <;> exact ⟨rfl, rfl, rfl⟩

theorem toList_one (depth : Nat) : (renderAt .tree depth (.int 1)).toList = ['1'] := by
  rw [renderAt]
  decide

theorem readable_one (depth : Nat) : Readable depth (.int 1) where
  front := ⟨'1', [], toList_one depth, by decide, by decide⟩
  plain := by
    rw [toList_one]
    simp
  reads fuel rest hfuel hrest := by
    rw [toList_one] at hfuel ⊢
    cases fuel with
    | zero => cases hfuel
    | succ fuel =>
      have hwhole : wholeLength ('1' :: rest) = 1 := by
        have hcount := hrest.no_number.1
        simp only [digitCount] at hcount
        simp [wholeLength, digitCount, hcount]
      have hone : Number.ofText 10 ['1'] = .ok 1 := by cbv
      show readAtom ('1' :: rest) = _
      unfold readAtom
      rw [find?_eq_none.mpr]
      · simp [readNumber, hwhole, hrest.no_number, hone]
      · simp [wordValues]

/-! ## 3. Objects -/

/-- The line break before an item at a depth. -/
def breakChars (depth : Nat) : List Char := '\n' :: replicate (2 * depth) ' '

theorem toList_break (depth : Nat) : (Layout.tree.break_ depth).toList = breakChars depth := by
  simp [Layout.break_, Layout.tree, breakChars]

/-- The text of a field at a depth. -/
def fieldChars (depth : Nat) (f : String × Json) : List Char :=
  (quote f.1).toList ++ ':' :: ' ' :: (renderAt .tree depth f.2).toList

/-- The texts of fields with what stands between them. -/
def fieldsChars (depth : Nat) (fields : List (String × Json)) : List Char :=
  (',' :: breakChars depth).intercalate (fields.map (fieldChars depth))

theorem renderFields_toList (depth : Nat) (fields : List (String × Json)) :
    (renderFields .tree depth fields).map String.toList = fields.map (fieldChars depth) := by
  induction fields with
  | nil => rfl
  | cons f rest ih =>
    rw [renderFields, map_cons, ih]
    simp [fieldChars, Layout.tree]

theorem toList_object (depth : Nat) (h : fields ≠ []) : (renderAt .tree depth (.object fields)).toList =
      '\x7b' :: (breakChars (depth + 1) ++ (fieldsChars (depth + 1) fields ++ (breakChars depth ++ ['\x7d']))) := by
  have hne : (renderFields .tree (depth + 1) fields).isEmpty = false := by
    cases fields with
    | nil => exact absurd rfl h
    | cons f rest => rfl
  have hend : Layout.tree.itemEnd.toList = [','] := by decide
  rw [renderAt, Layout.enclose, hne]
  simp only [Bool.false_eq_true, if_false, String.toList_append, String.toList_intercalate,
    renderFields_toList, toList_break, hend]
  simp [fieldsChars, append_assoc]

theorem fieldsChars_singleton (depth : Nat) (f : String × Json) :
    fieldsChars depth [f] = fieldChars depth f := by simp [fieldsChars, intercalate]

theorem fieldsChars_cons (depth : Nat) (f g : String × Json) (rest : List (String × Json)) :
    fieldsChars depth (f :: g :: rest) =
      fieldChars depth f ++ ',' :: (breakChars depth ++ fieldsChars depth (g :: rest)) := by
  simp [fieldsChars, intercalate]

theorem fieldsChars_front (depth : Nat) (f : String × Json) (rest : List (String × Json)) :
    ∃ cs, fieldsChars depth (f :: rest) = '"' :: cs := by
  have hfield : ∃ cs, fieldChars depth f = '"' :: cs := by
    rw [fieldChars, toList_quote]
    exact ⟨_, rfl⟩
  obtain ⟨cs, hcs⟩ := hfield
  cases rest with
  | nil => exact ⟨cs, by rw [fieldsChars_singleton, hcs]⟩
  | cons g rest => exact ⟨_, by rw [fieldsChars_cons, hcs]; rfl⟩

theorem dropWhile_break (depth : Nat) (hc : isBlank c = false) (rest : List Char) :
    (breakChars depth ++ c :: rest).dropWhile isBlank = c :: rest := by
  rw [dropWhile_append_of_pos, dropWhile_cons_of_neg (by simp [hc])]
  intro d hd
  simp only [breakChars, mem_cons, mem_replicate] at hd
  rcases hd with rfl | ⟨-, rfl⟩ <;> decide

theorem stops_break (depth : Nat) (rest : List Char) : Stops (breakChars depth ++ rest) := by
  intro c hc
  cases hc
  exact .inr rfl

theorem stops_comma (rest : List Char) : Stops (',' :: rest) := by
  intro c hc
  cases hc
  exact .inl rfl

/-- One field reads back, up to what stands behind it. -/
theorem readFields_step {f : String × Json} {tail : List Char} (hvalue : Readable depth f.2)
    (hfuel : (fieldChars depth f).length ≤ fuel) (htail : Stops tail) (done : List (String × Json)) :
    readFields (fuel + 1) done (fieldChars depth f ++ tail) = match tail.dropWhile isBlank with
      | '\x7d' :: behind => .ok (putField f.1 f.2 done, behind)
      | ',' :: behind => readFields fuel (putField f.1 f.2 done) (behind.dropWhile isBlank)
      | rest => .error ⟨.comma, rest⟩ := by
  obtain ⟨c, cs, hfront, hblank, -⟩ := hvalue.front
  have hlength : (renderAt .tree depth f.2).toList.length ≤ fuel := by
    simp only [fieldChars, length_append, length_cons] at hfuel
    omega
  have hread := hvalue.reads fuel tail hlength htail
  rw [hfront] at hread
  simp only [fieldChars, toList_quote, hfront, cons_append, append_assoc, nil_append]
  have hcolon : ∀ rest, (':' :: rest).dropWhile isBlank = ':' :: rest := fun _ => rfl
  have hspace : (' ' :: c :: (cs ++ tail)).dropWhile isBlank = c :: (cs ++ tail) := by
    rw [dropWhile_cons_of_pos (by decide), dropWhile_cons_of_neg (by simp [hblank])]
  rw [readFields, readText_quote]
  simp only [bind, Except.bind, hcolon, hspace, cons_append] at hread ⊢
  rw [hread]
  simp only [reverse_nil, nil_append, String.ofList_toList]
  rfl

/-- All fields read back, behind those that have been read. -/
theorem readFields_fields (hne : fields ≠ [])
    (hvalues : ∀ f ∈ fields, Readable depth f.2) (hfuel : (fieldsChars depth fields).length < fuel)
    (close : Nat) (rest : List Char) (done : List (String × Json)) :
    readFields fuel done (fieldsChars depth fields ++ (breakChars close ++ '\x7d' :: rest)) =
      .ok (fields.foldl (fun done f => putField f.1 f.2 done) done, rest) := by
  induction fields generalizing fuel done with
  | nil => exact absurd rfl hne
  | cons f others ih =>
    have hvalue := hvalues f mem_cons_self
    cases fuel with
    | zero => cases hfuel
    | succ fuel =>
      cases others with
      | nil =>
        rw [fieldsChars_singleton] at hfuel ⊢
        rw [readFields_step hvalue (Nat.le_of_lt_succ hfuel) (stops_break _ _), dropWhile_break close (by decide)]
        rfl
      | cons g others =>
        rw [fieldsChars_cons] at hfuel ⊢
        simp only [length_append, length_cons] at hfuel
        rw [append_assoc, cons_append, append_assoc, readFields_step hvalue (by omega) (stops_comma _)]
        have hdrop : (breakChars depth ++ (fieldsChars depth (g :: others) ++
            (breakChars close ++ '\x7d' :: rest))).dropWhile isBlank =
            fieldsChars depth (g :: others) ++ (breakChars close ++ '\x7d' :: rest) := by
          obtain ⟨cs, hcs⟩ := fieldsChars_front depth g others
          rw [hcs]
          exact dropWhile_break depth (by decide) _
        have hcomma : ∀ rest, (',' :: rest).dropWhile isBlank = ',' :: rest := fun _ => rfl
        simp only [hcomma, hdrop]
        exact ih (by simp) (forall_mem_cons.mp hvalues).2 (by omega) _

/-- Fields with new names come behind those that are there. -/
theorem foldl_putField (h : (done.map (·.1) ++ fields.map (·.1)).Nodup) :
    fields.foldl (fun done f => putField f.1 f.2 done) done = done ++ fields := by
  have hput : ∀ {name : String} {value : Json} {done : List (String × Json)}, name ∉ done.map (·.1) →
      putField name value done = done ++ [(name, value)] := by
    intro name value done hnew
    induction done with
    | nil => rfl
    | cons f done ih =>
      rw [map_cons, mem_cons, not_or] at hnew
      rw [putField, if_neg (Ne.symm hnew.1), ih hnew.2]
      rfl
  induction fields generalizing done with
  | nil => simp
  | cons f rest ih =>
    have hnew : f.1 ∉ done.map (·.1) := by
      intro hmem
      exact (nodup_append.mp h).2.2 _ hmem f.1 (by simp) rfl
    rw [foldl_cons, hput hnew, ih (by simpa using h)]
    simp

theorem breakChars_plain (h : c ∈ breakChars depth) : c.toNat < 0x80 ∧ c ≠ '\r' := by
  simp only [breakChars, mem_cons, mem_replicate] at h
  rcases h with rfl | ⟨-, rfl⟩ <;> decide

theorem fieldsChars_plain (h : ∀ f ∈ fields, Readable depth f.2) :
    ∀ c ∈ fieldsChars depth fields, c.toNat < 0x80 ∧ c ≠ '\r' := by
  have hfield : ∀ f ∈ fields, ∀ c ∈ fieldChars depth f, c.toNat < 0x80 ∧ c ≠ '\r' := by
    intro f hf c hc
    simp only [fieldChars, mem_append, mem_cons] at hc
    rcases hc with hc | rfl | rfl | hc
    · exact quote_plain hc
    · decide
    · decide
    · exact (h f hf).plain c hc
  clear h
  induction fields with
  | nil => simp [fieldsChars, intercalate]
  | cons f rest ih =>
    intro c hc
    cases rest with
    | nil =>
      rw [fieldsChars_singleton] at hc
      exact hfield f mem_cons_self c hc
    | cons g rest =>
      rw [fieldsChars_cons] at hc
      simp only [mem_append, mem_cons] at hc
      rcases hc with hc | rfl | hc | hc
      · exact hfield f mem_cons_self c hc
      · decide
      · exact breakChars_plain hc
      · exact ih (forall_mem_cons.mp hfield).2 c hc

/-- **An object reads back** if its names are distinct and its values read back. -/
theorem readable_object (depth : Nat) (hnames : (fields.map (·.1)).Nodup)
    (hvalues : ∀ f ∈ fields, Readable (depth + 1) f.2) : Readable depth (.object fields) := by
  by_cases hne : fields = []
  · subst hne
    have htext : (renderAt .tree depth (.object [])).toList = ['\x7b', '\x7d'] := by
      simp [renderAt, renderFields, Layout.enclose]
    refine ⟨⟨_, _, htext, by decide, by decide⟩, by rw [htext]; simp, fun fuel rest hfuel _ => ?_⟩
    rw [htext] at hfuel ⊢
    cases fuel with
    | zero => cases hfuel
    | succ fuel => rfl
  have htext := toList_object depth hne
  refine ⟨⟨_, _, htext, by decide, by decide⟩, ?_, fun fuel rest hfuel _ => ?_⟩
  · rw [htext]
    intro c hc
    simp only [mem_cons, mem_append, not_mem_nil, or_false] at hc
    rcases hc with rfl | hc | hc | hc | rfl
    · decide
    · exact breakChars_plain hc
    · exact fieldsChars_plain hvalues c hc
    · exact breakChars_plain hc
    · decide
  · rw [htext] at hfuel ⊢
    cases fuel with
    | zero => cases hfuel
    | succ fuel =>
      simp only [length_cons, length_append] at hfuel
      have hread := readFields_fields hne hvalues (show _ < fuel by omega) depth rest []
      rw [foldl_putField (by simpa using hnames)] at hread
      obtain ⟨f, others, rfl⟩ := exists_cons_of_ne_nil hne
      obtain ⟨cs, hcs⟩ := fieldsChars_front (depth + 1) f others
      have hdrop := dropWhile_break (depth + 1) (show isBlank '"' = false by decide) (cs ++ (breakChars depth ++ '\x7d' :: rest))
      rw [hcs, cons_append] at hread
      simp only [hcs, cons_append, append_assoc, nil_append]
      unfold readValue
      simp only [hdrop]
      show (readFields fuel [] ('"' :: (cs ++ (breakChars depth ++ '\x7d' :: rest))) >>=
        fun x => pure (object x.1, x.2)) = _
      rw [hread]
      rfl

/-- **The text of a readable value, laid out as a tree on lines of its own, is read as the value.** -/
theorem parse_tree (h : Readable 0 j) : parse (j.render .tree ++ "\n") = .ok j := by
  obtain ⟨c, cs, hfront, hblank, hmark⟩ := h.front
  have htext : (j.render .tree ++ "\n").toList = c :: (cs ++ ['\n']) := by
    rw [String.toList_append, render, hfront]
    rfl
  have hread := h.reads (2 * (c :: (cs ++ ['\n'])).length + 2) ['\n'] ?_ ?_
  · rw [hfront, cons_append] at hread
    unfold parse
    simp only [htext, head?_cons, Option.some.injEq, hmark, if_false]
    rw [dropWhile_cons_of_neg (by simp [hblank]), hread]
    rfl
  · rw [hfront]
    simp only [length_cons, length_append]
    omega
  · intro d hd
    cases hd
    exact .inr rfl

end CCompiler.Json
