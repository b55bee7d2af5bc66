import CCompiler.Literal.Typed
import CCompiler.Text.Quotation

/-!
# Words of conditions

Why the expression of a condition has no value.

The expression of a condition is cut into integers, character literals, names and operators. A name with
parentheses behind it counts as one operand of value zero.

Before a condition is computed, its literals become values, its names zeros, and every choice
`a ? b : c` is written `( b if a else c )`.
-/
namespace CCompiler.Condition

/-- The two ways to compute a condition: in 64-bit words with and without sign, or in unbounded
    integers. -/
inductive Arithmetic where
  | words
  | unbounded
deriving Repr, DecidableEq

inductive Form where
  | call
  | choice
  | empty
  | comparisons (count : Nat)
  | text
deriving Repr, DecidableEq

inductive Fault where
  | invalidToken
  | literalOverflow
  | invalidExpression
  | nullCharacter
  | overflow
  | divisionByZero
  | remainderByZero
  | negativeShift
  | unsupported (arithmetic : Arithmetic) (form : Form)
  | number (fault : NumberFault)
deriving Repr, DecidableEq

def Form.nodeName : Form → String
  | .call => "Call"
  | .choice => "IfExp"
  | .empty => "Tuple"
  | .comparisons _ => "Compare"
  | .text => "Constant"

def Form.message : Arithmetic → Form → String
  | .words, .call => "Unsupported preprocessor call expression"
  | .words, .comparisons count =>
    s!"Unsupported preprocessor comparison shape: expected 1 operator, got {count}"
  | .words, .text => "Unsupported preprocessor literal type: str"
  | .words, form => s!"Unsupported preprocessor expression node: {form.nodeName}"
  | .unbounded, .comparisons count =>
    s!"Unsupported integer-expression comparison shape: expected 1 operator, got {count}"
  | .unbounded, .text => "Unsupported integer-expression literal type: str"
  | .unbounded, form => s!"Unsupported integer-expression node: {form.nodeName}"

def Fault.message : Fault → String
  | .invalidToken => "Invalid token"
  | .literalOverflow => "Integer literal overflow"
  | .invalidExpression => "Invalid expression"
  | .nullCharacter => "source code string cannot contain null bytes"
  | .overflow => "integer overflow in preprocessor expression"
  | .divisionByZero => "integer division or modulo by zero"
  | .remainderByZero => "integer modulo by zero"
  | .negativeShift => "negative shift count"
  | .unsupported arithmetic form => form.message arithmetic
  | .number fault => fault.message

/-- Whether a fault is one of the expression, not of the room for its values. -/
def Fault.isOfExpression : Fault → Bool
  | .number fault => fault.isOfValue
  | _ => true

open Text

/-! ## 1. Cutting -/

/-- The text behind the end of a block comment that does not cross a line end. -/
def behindComment? : List Char → Option (List Char)
  | '*' :: '/' :: rest => some rest
  | '\n' :: _ => none
  | _ :: rest => behindComment? rest
  | [] => none

/-- The text with a blank for every block comment, where the first characters are skipped. -/
def blankCommentsFrom : Nat → List Char → List Char
  | _, [] => []
  | skip + 1, _ :: rest => blankCommentsFrom skip rest
  | 0, '/' :: '*' :: rest =>
    match behindComment? rest with
    | some behind => ' ' :: blankCommentsFrom (rest.length - behind.length) rest
    | none => '/' :: '*' :: blankCommentsFrom 0 rest
  | 0, c :: rest => c :: blankCommentsFrom 0 rest

/-- A condition without comments: block comments become blanks, and the rest of the line behind `//` is
    dropped. -/
def withoutComments (text : List Char) : List Char :=
  let blanked := blankCommentsFrom 0 text
  match cutAt? ['/', '/'] blanked with
  | some (before, _) => before
  | none => blanked

/-- The length of the suffix of an integer at the front of a text: `u` with `l` or `ll` behind it, or
    these with `u` behind them. -/
def suffixLength (cs : List Char) : Nat :=
  let isU (c : Option Char) : Bool := c == some 'u' || c == some 'U'
  let longs (cs : List Char) : Nat :=
    match cs with
    | 'l' :: 'l' :: _ => 2
    | 'L' :: 'L' :: _ => 2
    | 'l' :: _ => 1
    | 'L' :: _ => 1
    | _ => 0
  if isU cs.head? then 1 + longs cs.tail
  else
    let n := longs cs
    if n > 0 && isU (cs.drop n).head? then n + 1 else n

/-- The length of the integer at the front of a text, zero if there is none. -/
def integerLength (cs : List Char) : Nat :=
  let behind (n : Nat) : Nat := n + suffixLength (cs.drop n)
  let digits := (cs.takeWhile Char.isDigit).length
  let plain := if digits = 0 then 0 else behind digits
  match cs with
  | '0' :: x :: rest =>
    let hex := (rest.takeWhile isHex).length
    if (x == 'x' || x == 'X') && hex > 0 then behind (2 + hex) else plain
  | _ => plain

/-- The length of the body of a character literal and its closing quote, where some characters are
    already read; zero if the literal is not closed or is empty. -/
def quotedLength (read : Nat) : List Char → Nat
  | [] => 0
  | '\\' :: c :: rest => if c == '\n' then 0 else quotedLength (read + 2) rest
  | '\\' :: [] => 0
  | c :: rest =>
    if c == '\'' then (if read = 0 then 0 else read + 1)
    else if c == '\n' then 0
    else quotedLength (read + 1) rest

def encodingLength : List Char → Nat
  | 'u' :: '8' :: '\'' :: _ => 2
  | 'u' :: '\'' :: _ => 1
  | 'U' :: '\'' :: _ => 1
  | 'L' :: '\'' :: _ => 1
  | _ => 0

/-- The length of the character literal at the front of a text, zero if there is none. -/
def characterLength (cs : List Char) : Nat :=
  let encoding := encodingLength cs
  match cs.drop encoding with
  | '\'' :: rest =>
    let n := quotedLength 0 rest
    if n = 0 then 0 else encoding + 1 + n
  | _ => 0

def nameLength (cs : List Char) : Nat :=
  match nameAt? cs with
  | some (name, _) => name.length
  | none => 0

def longOperators : List (List Char) :=
  ["||", "&&", "==", "!=", "<=", ">=", "<<", ">>"].map String.toList

def shortOperators : List Char := "()!~+-*/%<>&^|?:".toList

def operatorLength (cs : List Char) : Nat :=
  if longOperators.contains (cs.take 2) then 2
  else match cs with
    | c :: _ => if shortOperators.contains c then 1 else 0
    | [] => 0

def lexemeLength (cs : List Char) : Nat :=
  let integer := integerLength cs
  let character := characterLength cs
  let name := nameLength cs
  if integer > 0 then integer
  else if character > 0 then character
  else if name > 0 then name
  else operatorLength cs

/-- The lexemes of a text, where the first characters belong to a lexeme already cut. -/
def lexemesFrom : Nat → List Char → Except Fault (List String)
  | _, [] => .ok []
  | skip + 1, _ :: rest => lexemesFrom skip rest
  | 0, c :: rest =>
    if isSpace c then lexemesFrom 0 rest
    else
      match lexemeLength (c :: rest) with
      | 0 => .error .invalidToken
      | n + 1 => (lexemesFrom n rest).map (String.ofList ((c :: rest).take (n + 1)) :: ·)

def lexemes (text : List Char) : Except Fault (List String) := lexemesFrom 0 text

/-- The lexemes behind the parenthesis that closes some open ones. -/
def behindGroup? : Nat → List String → Option (List String)
  | 0, rest => some rest
  | _ + 1, [] => none
  | depth + 1, lexeme :: rest =>
    if lexeme = "(" then behindGroup? (depth + 2) rest
    else if lexeme = ")" then behindGroup? depth rest
    else behindGroup? (depth + 1) rest

/-- The number of lexemes behind a group does not exceed that of all. -/
theorem behindGroup?_length {depth : Nat} {lexemes behind : List String}
    (h : behindGroup? depth lexemes = some behind) : behind.length ≤ lexemes.length := by
  induction lexemes generalizing depth with
  | nil =>
    cases depth with
    | zero => simp only [behindGroup?, Option.some.injEq] at h; simp [← h]
    | succ depth => simp [behindGroup?] at h
  | cons lexeme rest ih =>
    cases depth with
    | zero => simp only [behindGroup?, Option.some.injEq] at h; simp [← h]
    | succ depth =>
      rw [behindGroup?] at h
      have : behind.length ≤ rest.length := by
        split at h
        · exact ih h
        · split at h
          · exact ih h
          · exact ih h
      simp only [List.length_cons]
      omega

/-- The lexemes with a zero for every name that parentheses follow. -/
def collapseCalls : List String → Except Fault (List String)
  | [] => .ok []
  | lexeme :: rest =>
    if isName lexeme.toList && rest.head? == some "(" then
      match h : behindGroup? 1 rest.tail with
      | none => .error .invalidToken
      | some behind =>
        have := behindGroup?_length h
        (collapseCalls behind).map ("0" :: ·)
    else (collapseCalls rest).map (lexeme :: ·)
termination_by lexemes => lexemes.length
decreasing_by
  · simp only [List.length_cons, List.length_tail] at *; omega
  · simp

/-! ## 2. Values of literals -/

/-- The value of an integer literal with the suffixes of conditions, none if the text is no such
    literal. -/
def integerValue? (lexeme : String) : Except NumberFault (Option Nat) :=
  let cs := lexeme.toList
  if cs.isEmpty || integerLength cs ≠ cs.length then .ok none
  else
    match Literal.bodyOf cs with
    | '0' :: 'x' :: digits => .ok (digitsValue? 16 digits)
    | '0' :: 'X' :: digits => .ok (digitsValue? 16 digits)
    | '0' :: d :: digits => .ok (digitsValue? 8 (d :: digits))
    | digits => (Number.ofText 10 digits).map fun n => some n.toNat

def signedMax : Nat := 0x7FFFFFFFFFFFFFFF

def unsignedMax : Nat := 0xFFFFFFFFFFFFFFFF

/-- Whether an integer literal is unsigned: by its suffix or by its value. -/
def isUnsigned (lexeme : String) : Except NumberFault Bool := do
  match ← integerValue? lexeme with
  | none => return false
  | some value => return lexeme.toList.any (fun c => c == 'u' || c == 'U') || value > signedMax

def withoutEncoding (lexeme : List Char) : List Char :=
  match lexeme with
  | 'u' :: '8' :: rest => rest
  | 'u' :: rest => rest
  | 'U' :: rest => rest
  | 'L' :: rest => rest
  | _ => lexeme

/-- The value of a character literal: the low eight bits of its characters side by side; none if the
    text is no such literal or has no characters. -/
def characterValue? (lexeme : String) : Option Nat :=
  match quotation? (withoutEncoding lexeme.toList) with
  | none | some [] => none
  | some codes => some (codes.foldl (fun value code => value * 256 + code % 256) 0)

/-- A word: a value, a value without sign, or a mark. -/
inductive Word where
  | number (value : Nat)
  | unsigned (value : Nat)
  | mark (text : String)
deriving Repr, DecidableEq, Inhabited

namespace Word

def text : Word → String
  | .number value => toString value
  | .unsigned value => s!"u64({value})"
  | .mark text => text

abbrev opening : Word := .mark "("

abbrev closing : Word := .mark ")"

abbrev question : Word := .mark "?"

abbrev colon : Word := .mark ":"

def ofOperator (lexeme : String) : Word :=
  if lexeme = "&&" then .mark "and"
  else if lexeme = "||" then .mark "or"
  else if lexeme = "!" then .mark "not"
  else if lexeme = "/" then .mark "//"
  else .mark lexeme

def ofLexeme (lexeme : String) : Except Fault Word := do
  match ← (integerValue? lexeme).mapError .number with
  | some value =>
    if value > unsignedMax then throw .literalOverflow
    let isUnsigned ← (isUnsigned lexeme).mapError .number
    return if isUnsigned then .unsigned value else .number value
  | none =>
    match characterValue? lexeme with
    | some value =>
      if Number.isWritable value then return .number value else throw (.number .unwritable)
    | none => return if Text.isName lexeme.toList then .number 0 else ofOperator lexeme

def render (words : List Word) : String := " ".intercalate (words.map text)

end Word

/-! ## 3. Choices -/

/-- The words up to the parenthesis that closes some open ones, with it, and the words behind. If there is
    no such parenthesis, all words belong to the group. -/
def groupSpan : Nat → List Word → List Word × List Word
  | 0, words => ([], words)
  | _ + 1, [] => ([], [])
  | depth + 1, word :: rest =>
    let next := if word = .opening then depth + 2 else if word = .closing then depth else depth + 1
    let (span, behind) := groupSpan next rest
    (word :: span, behind)

/-- A group and the words behind it are all the words. -/
theorem groupSpan_append (depth : Nat) (words : List Word) :
    (groupSpan depth words).1 ++ (groupSpan depth words).2 = words := by
  induction words generalizing depth with
  | nil => cases depth <;> rfl
  | cons word rest ih =>
    cases depth with
    | zero => rfl
    | succ depth => simp only [groupSpan, List.cons_append, ih]

/-- The words before and behind the first question mark outside parentheses. -/
def cutAtQuestion? (depth : Int) : List Word → Option (List Word × List Word)
  | [] => none
  | word :: rest =>
    if word = .question ∧ depth = 0 then some ([], rest)
    else
      let next := if word = .opening then depth + 1 else if word = .closing then depth - 1 else depth
      (cutAtQuestion? next rest).map fun (before, behind) => (word :: before, behind)

/-- The words before and behind the colon that belongs to a question mark, where some question marks
    outside parentheses wait for theirs. -/
def cutAtColon? (waiting : Nat) (depth : Int) : List Word → Option (List Word × List Word)
  | [] => none
  | word :: rest =>
    if word = .colon ∧ depth = 0 ∧ waiting = 1 then some ([], rest)
    else
      let next := if word = .opening then depth + 1 else if word = .closing then depth - 1 else depth
      let waiting :=
        if word = .question ∧ depth = 0 then waiting + 1
        else if word = .colon ∧ depth = 0 then waiting - 1
        else waiting
      (cutAtColon? waiting next rest).map fun (before, behind) => (word :: before, behind)

def questions (words : List Word) : Nat := words.count .question

/-- A cut at a question mark takes that mark away and no other. -/
theorem questions_of_cutAtQuestion {depth : Int} {words before behind : List Word}
    (h : cutAtQuestion? depth words = some (before, behind)) :
    questions before + questions behind + 1 = questions words := by
  induction words generalizing depth before with
  | nil => simp [cutAtQuestion?] at h
  | cons word rest ih =>
    rw [cutAtQuestion?] at h
    split at h
    · rename_i hq
      simp only [Option.some.injEq, Prod.mk.injEq] at h
      obtain ⟨rfl, rfl⟩ := h
      simp [questions, hq.1]
    · obtain ⟨⟨b, c⟩, hb, heq⟩ := Option.map_eq_some_iff.mp h
      simp only [Prod.mk.injEq] at heq
      obtain ⟨rfl, rfl⟩ := heq
      have := ih hb
      simp only [questions, List.count_cons] at *
      omega

/-- A cut at a colon leaves no more question marks than there were. -/
theorem questions_of_cutAtColon {waiting : Nat} {depth : Int} {words before behind : List Word}
    (h : cutAtColon? waiting depth words = some (before, behind)) :
    questions before + questions behind ≤ questions words := by
  induction words generalizing waiting depth before with
  | nil => simp [cutAtColon?] at h
  | cons word rest ih =>
    rw [cutAtColon?] at h
    split at h
    · simp only [Option.some.injEq, Prod.mk.injEq] at h
      obtain ⟨rfl, rfl⟩ := h
      simp only [questions, List.count_nil, List.count_cons]
      omega
    · obtain ⟨⟨b, c⟩, hb, heq⟩ := Option.map_eq_some_iff.mp h
      simp only [Prod.mk.injEq] at heq
      obtain ⟨rfl, rfl⟩ := heq
      have := ih hb
      simp only [questions, List.count_cons] at *
      omega

/-- Words that come of others without more question marks. -/
abbrev Arranged (words : List Word) := { out : List Word // questions out ≤ questions words }

mutual

/-- The words with every choice written with `if` and `else`. -/
def arrangeChoices (words : List Word) : Except Fault (Arranged words) := do
  let ⟨processed, hle⟩ ← arrangeGroups words
  match hq : cutAtQuestion? 0 processed with
  | none => return ⟨processed, hle⟩
  | some (condition, behind) =>
    match hc : cutAtColon? 1 0 behind with
    | none => throw .invalidToken
    | some (first, second) =>
      have h1 := questions_of_cutAtQuestion hq
      have h2 := questions_of_cutAtColon hc
      let ⟨c, hcond⟩ ← arrangeChoices condition
      let ⟨a, ha⟩ ← arrangeChoices first
      let ⟨b, hb⟩ ← arrangeChoices second
      return ⟨.opening :: (a ++ .mark "if" :: (c ++ .mark "else" :: (b ++ [.closing]))), by
        simp only [questions, List.count_cons, List.count_append, List.count_nil] at *
        simp only [Word.opening, Word.closing, Word.question, beq_iff_eq, Word.mark.injEq,
          String.reduceEq, if_false] at *
        omega⟩
termination_by (questions words, words.length, 1)
decreasing_by
  · exact .right _ (.right _ (by omega))
  all_goals exact .left _ _ (by omega)

/-- The words with every choice inside parentheses written with `if` and `else`. The last word of a group
    without a closing parenthesis is dropped. -/
def arrangeGroups (words : List Word) : Except Fault (Arranged words) :=
  match words with
  | [] => return ⟨[], Nat.le_refl _⟩
  | word :: rest =>
    if hw : word = .opening then do
      have hsplit := groupSpan_append 1 rest
      have hlen : (groupSpan 1 rest).1.length + (groupSpan 1 rest).2.length = rest.length := by
        rw [← List.length_append, hsplit]
      have hcount : questions (groupSpan 1 rest).1 + questions (groupSpan 1 rest).2 = questions rest := by
        simp only [questions, ← List.count_append, hsplit]
      have hdrop : questions (groupSpan 1 rest).1.dropLast ≤ questions (groupSpan 1 rest).1 :=
        (List.dropLast_sublist _).count_le _
      have hcons : questions (word :: rest) = questions rest := by
        simp [questions, hw]
      let ⟨inner, hinner⟩ ← arrangeChoices (groupSpan 1 rest).1.dropLast
      let ⟨tail, htail⟩ ← arrangeGroups (groupSpan 1 rest).2
      return ⟨.opening :: (inner ++ .closing :: tail), by
        simp only [questions, List.count_cons, List.count_append] at *
        simp only [Word.opening, Word.closing, Word.question, beq_iff_eq, Word.mark.injEq,
          String.reduceEq, if_false] at *
        omega⟩
    else do
      let ⟨tail, htail⟩ ← arrangeGroups rest
      return ⟨word :: tail, by simp only [questions, List.count_cons] at *; omega⟩
termination_by (questions words, words.length, 0)
decreasing_by
  · have : questions (groupSpan 1 rest).1.dropLast ≤ questions (word :: rest) := by omega
    rcases Nat.lt_or_eq_of_le this with h | h
    · exact .left _ _ h
    · rw [h]
      refine .right _ (.left _ _ ?_)
      simp only [List.length_dropLast, List.length_cons]
      omega
  · have : questions (groupSpan 1 rest).2 ≤ questions (word :: rest) := by omega
    rcases Nat.lt_or_eq_of_le this with h | h
    · exact .left _ _ h
    · rw [h]
      refine .right _ (.left _ _ ?_)
      simp only [List.length_cons]
      omega
  · have : questions rest ≤ questions (word :: rest) := by
      simp only [questions, List.count_cons]; omega
    rcases Nat.lt_or_eq_of_le this with h | h
    · exact .left _ _ h
    · rw [h]
      exact .right _ (.left _ _ (by simp))

end

def words (text : List Char) : Except Fault (List Word) := do
  let found ← (← collapseCalls (← lexemes text)).mapM Word.ofLexeme
  return (← arrangeChoices found).val

end CCompiler.Condition
