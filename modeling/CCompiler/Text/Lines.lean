/-!
# Lines and characters

A text is cut into lines behind every line boundary: newline, carriage return, the two together, vertical
tab, form feed, the separators of ASCII and of Unicode, and the next-line character.
-/
namespace CCompiler.Text

def isLineBoundary (c : Char) : Bool :=
  c == '\n' || c == '\r' || c == '\x0b' || c == '\x0c' || c == '\x1c' || c == '\x1d' || c == '\x1e'
    || c == '\u0085' || c == '\u2028' || c == '\u2029'

/-- The lines of a text with their boundaries, where a line has begun with some characters, the last of
    them first. -/
def linesFrom (begun : List Char) : List Char → List (List Char)
  | [] => if begun.isEmpty then [] else [begun.reverse]
  | '\r' :: '\n' :: rest => ('\n' :: '\r' :: begun).reverse :: linesFrom [] rest
  | c :: rest =>
    if isLineBoundary c then (c :: begun).reverse :: linesFrom [] rest
    else linesFrom (c :: begun) rest

def lines (cs : List Char) : List (List Char) := linesFrom [] cs

def withoutBoundary (line : List Char) : List Char := line.takeWhile (!isLineBoundary ·)

/-! ## Small letters

Where only letters of ASCII are looked for, two characters beyond it matter: the sign for kelvin becomes
a `k`, and a capital `i` with a dot becomes an `i` and a dot. All others are left as they are.
-/

/-- The small letters of a character, as far as they are in ASCII. -/
def lowerChar (c : Char) : List Char :=
  if c.toNat < 0x80 then [c.toLower]
  else if c = '\u212A' then ['k']
  else if c = '\u0130' then ['i', '\u0307']
  else [c]

def lower (cs : List Char) : List Char := cs.flatMap lowerChar

/-! ## Positions in a text

Lines and columns count from one, a column per code point. A newline ends its line; every other
character moves one column on.
-/

/-- A place in a text: line and column, both counted from one. -/
structure Position where
  line : Nat
  column : Nat
deriving Repr, DecidableEq, Inhabited

def Position.start : Position := ⟨1, 1⟩

def Position.next (p : Position) (c : Char) : Position :=
  if c = '\n' then ⟨p.line + 1, 1⟩ else ⟨p.line, p.column + 1⟩

def Position.after (p : Position) (cs : List Char) : Position :=
  cs.foldl Position.next p

@[simp] theorem Position.after_nil (p : Position) : p.after [] = p := rfl

@[simp] theorem Position.after_cons (p : Position) (c : Char) (cs : List Char) :
    p.after (c :: cs) = (p.next c).after cs := rfl

theorem Position.after_append (p : Position) (xs ys : List Char) : p.after (xs ++ ys) = (p.after xs).after ys := by
  simp [Position.after, List.foldl_append]

def Position.text (p : Position) : String :=
  s!"{p.line}:{p.column}"

/-! ## Texts as bytes

Bytes are read as UTF-8 one at a time: between characters, or with so many bytes of a character owed,
the next of them within bounds.
-/

inductive Utf8Reason where
  | start
  | continuation
  | endOfData
deriving Repr, DecidableEq, Inhabited

def Utf8Reason.text : Utf8Reason → String
  | .start => "invalid start byte"
  | .continuation => "invalid continuation byte"
  | .endOfData => "unexpected end of data"

/-- Where bytes are no text: the first byte of a character, its position, and how many bytes of the
    character are there. -/
structure Utf8Fault where
  reason : Utf8Reason
  byte : UInt8
  position : Nat
  count : Nat
deriving Repr, DecidableEq, Inhabited

def hexDigit (n : Nat) : Char := if n < 10 then Char.ofNat (48 + n) else Char.ofNat (87 + n)

def hexByte (b : UInt8) : String := String.ofList [hexDigit (b.toNat / 16), hexDigit (b.toNat % 16)]

def Utf8Fault.message (e : Utf8Fault) : String :=
  if e.count ≤ 1 then
    "'utf-8' codec can't decode byte 0x" ++ hexByte e.byte ++ s!" in position {e.position}: "
      ++ e.reason.text
  else
    s!"'utf-8' codec can't decode bytes in position {e.position}-{e.position + e.count - 1}: "
      ++ e.reason.text

/-- A character that has begun: its first byte and its position, how many of its bytes are there and how
    many are owed, the bounds of the next one, and the bits so far. -/
structure Begun where
  byte : UInt8
  position : Nat
  count : Nat
  owed : Nat
  low : Nat
  high : Nat
  bits : Nat

/-- What a byte begins: a character of its own, or one of more bytes. -/
def beginAt (position : Nat) (b : UInt8) : Except Utf8Fault (Char ⊕ Begun) :=
  let n := b.toNat
  if n < 0x80 then .ok (.inl (Char.ofNat n))
  else if 0xC2 ≤ n ∧ n < 0xE0 then .ok (.inr ⟨b, position, 1, 1, 0x80, 0xBF, n - 0xC0⟩)
  else if 0xE0 ≤ n ∧ n < 0xF0 then
    let low := if n = 0xE0 then 0xA0 else 0x80
    let high := if n = 0xED then 0x9F else 0xBF
    .ok (.inr ⟨b, position, 1, 2, low, high, n - 0xE0⟩)
  else if 0xF0 ≤ n ∧ n < 0xF5 then
    let low := if n = 0xF0 then 0x90 else 0x80
    let high := if n = 0xF4 then 0x8F else 0xBF
    .ok (.inr ⟨b, position, 1, 3, low, high, n - 0xF0⟩)
  else .error ⟨.start, b, position, 1⟩

def Begun.add (p : Begun) (b : UInt8) : Except Utf8Fault (Char ⊕ Begun) :=
  let n := b.toNat
  if n < p.low ∨ p.high < n then .error ⟨.continuation, p.byte, p.position, p.count⟩
  else
    let bits := p.bits * 64 + n % 64
    if p.owed ≤ 1 then .ok (.inl (Char.ofNat bits))
    else .ok (.inr { p with count := p.count + 1, owed := p.owed - 1, low := 0x80, high := 0xBF, bits })

/-- Reads bytes behind characters, last first. -/
def decodeFrom (done : List Char) (position : Nat) (begun : Option Begun) : List UInt8 → Except Utf8Fault (List Char)
  | [] =>
    match begun with
    | none => .ok done.reverse
    | some p => .error ⟨.endOfData, p.byte, p.position, p.count⟩
  | b :: rest =>
    match (begun.map (·.add b)).getD (beginAt position b) with
    | .error e => .error e
    | .ok (.inl c) => decodeFrom (c :: done) (position + 1) none rest
    | .ok (.inr p) => decodeFrom done (position + 1) (some p) rest

def decode (bytes : List UInt8) : Except Utf8Fault (List Char) := decodeFrom [] 0 none bytes

def encode (text : String) : List UInt8 := text.toUTF8.data.toList

end CCompiler.Text
