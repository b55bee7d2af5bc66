import CCompiler.Json.Basic

/-!
# Reading JSON

The reader answers a value and the characters behind it, or a fault and the characters from its place on.
-/
namespace CCompiler.Json

inductive Fault where
  | value
  | name
  | colon
  | comma
  | extraData
  | unterminated
  | control
  | escape
  | unitEscape
  | byteOrderMark
  | number (fault : NumberFault)
deriving Repr, DecidableEq

def Fault.text : Fault → String
  | .value => "Expecting value"
  | .name => "Expecting property name enclosed in double quotes"
  | .colon => "Expecting ':' delimiter"
  | .comma => "Expecting ',' delimiter"
  | .extraData => "Extra data"
  | .unterminated => "Unterminated string starting at"
  | .control => "Invalid control character at"
  | .escape => "Invalid \\escape"
  | .unitEscape => "Invalid \\uXXXX escape"
  | .byteOrderMark => "Unexpected UTF-8 BOM (decode using utf-8-sig)"
  | .number fault => fault.message

/-- A fault and the characters from its place on. -/
structure FaultAt where
  fault : Fault
  rest : List Char
deriving Repr, DecidableEq

def isBlank (c : Char) : Bool := c == ' ' || c == '\t' || c == '\n' || c == '\r'

def hexValue? (c : Char) : Option Nat :=
  if c.isDigit then some (c.toNat - '0'.toNat)
  else if 'a' ≤ c ∧ c ≤ 'f' then some (c.toNat - 'a'.toNat + 10)
  else if 'A' ≤ c ∧ c ≤ 'F' then some (c.toNat - 'A'.toNat + 10)
  else none

/-- The value of four hexadecimal digits at the front of a text. -/
def unit? (cs : List Char) : Option Nat :=
  let digits := cs.take 4
  if digits.length < 4 then none
  else digits.foldlM (fun n c => (hexValue? c).map (n * 16 + ·)) 0

def letterEscape? (c : Char) : Option Char :=
  match c with
  | '"' => some '"'
  | '\\' => some '\\'
  | '/' => some '/'
  | 'b' => some '\x08'
  | 'f' => some '\x0c'
  | 'n' => some '\n'
  | 'r' => some '\r'
  | 't' => some '\t'
  | _ => none

/-- The character of one or two units behind `\u`, and how many characters that took. The second unit
    of a pair has its own `\u`. -/
def unitChar? (cs : List Char) : Option (Char × Nat) :=
  match unit? cs with
  | none => none
  | some high =>
    let pair := match cs.drop 4 with
      | '\\' :: 'u' :: rest => unit? rest
      | _ => none
    match pair with
    | some low =>
      if 0xD800 ≤ high ∧ high ≤ 0xDBFF ∧ 0xDC00 ≤ low ∧ low ≤ 0xDFFF then
        some (Char.ofNat (0x10000 + (high - 0xD800) * 0x400 + (low - 0xDC00)), 10)
      else some (Char.ofNat high, 4)
    | none => some (Char.ofNat high, 4)

/-- Reads the rest of a text, of which some characters are read, the last of them first, and some are to
    be skipped. The text began at a place. -/
def readText (start : List Char) (begun : List Char) : Nat → List Char → Except FaultAt (String × List Char)
  | _, [] => .error ⟨.unterminated, start⟩
  | skip + 1, _ :: rest => readText start begun skip rest
  | 0, c :: rest =>
    if c == '"' then .ok (String.ofList begun.reverse, rest)
    else if c == '\\' then
      match rest with
      | [] => .error ⟨.unterminated, start⟩
      | 'u' :: digits =>
        match unitChar? digits with
        | some (d, length) => readText start (d :: begun) (length + 1) rest
        | none => .error ⟨.unitEscape, rest⟩
      | e :: _ =>
        match letterEscape? e with
        | some d => readText start (d :: begun) 1 rest
        | none => .error ⟨.escape, c :: rest⟩
    else if c.toNat < 0x20 then .error ⟨.control, c :: rest⟩
    else readText start (c :: begun) 0 rest

def digitCount (cs : List Char) : Nat := (cs.takeWhile Char.isDigit).length

def fractionLength : List Char → Nat
  | '.' :: rest => if digitCount rest = 0 then 0 else 1 + digitCount rest
  | _ => 0

def exponentLength : List Char → Nat
  | c :: rest =>
    if c == 'e' || c == 'E' then
      match rest with
      | s :: digits =>
        if s == '+' || s == '-' then (if digitCount digits = 0 then 0 else 2 + digitCount digits)
        else if digitCount rest = 0 then 0 else 1 + digitCount rest
      | [] => 0
    else 0
  | [] => 0

/-- The length of the integer at the front of a text: a zero, or digits that do not begin with one. -/
def wholeLength : List Char → Nat
  | '0' :: _ => 1
  | cs => digitCount cs

def readNumber (sign : Nat) (cs : List Char) : Except FaultAt (Json × List Char) :=
  let digits := cs.drop sign
  let whole := wholeLength digits
  if whole = 0 then .error ⟨.value, cs⟩
  else
    let fraction := fractionLength (digits.drop whole)
    let exponent := exponentLength (digits.drop (whole + fraction))
    let length := sign + whole + fraction + exponent
    let (number, rest) := cs.splitAt length
    if fraction + exponent = 0 then
      match Number.ofText 10 number with
      | .ok n => .ok (.int n, rest)
      | .error fault => .error ⟨.number fault, cs⟩
    else .ok (.decimal (String.ofList number), rest)

def wordValues : List (String × Json) :=
  [("null", .null), ("true", .bool true), ("false", .bool false), ("NaN", .decimal "NaN"),
   ("Infinity", .decimal "Infinity"), ("-Infinity", .decimal "-Infinity")]

def readAtom (cs : List Char) : Except FaultAt (Json × List Char) :=
  match wordValues.find? fun (word, _) => word.toList.isPrefixOf cs with
  | some (word, value) => .ok (value, cs.drop word.length)
  | none => readNumber (if cs.head? = some '-' then 1 else 0) cs

mutual

def readValue : Nat → List Char → Except FaultAt (Json × List Char)
  | 0, cs => .error ⟨.value, cs⟩
  | fuel + 1, cs =>
    match cs with
    | '"' :: rest => do
      let (s, rest) ← readText cs [] 0 rest
      return (.string s, rest)
    | '[' :: rest =>
      match rest.dropWhile isBlank with
      | ']' :: behind => .ok (.array [], behind)
      | rest => do
        let (items, rest) ← readItems fuel rest
        return (.array items, rest)
    | '\x7b' :: rest =>
      match rest.dropWhile isBlank with
      | '\x7d' :: behind => .ok (.object [], behind)
      | rest => do
        let (fields, rest) ← readFields fuel [] rest
        return (.object fields, rest)
    | _ => readAtom cs

/-- Reads the items of an array and its closing bracket. -/
def readItems : Nat → List Char → Except FaultAt (List Json × List Char)
  | 0, cs => .error ⟨.value, cs⟩
  | fuel + 1, cs => do
    let (item, rest) ← readValue fuel cs
    match rest.dropWhile isBlank with
    | ']' :: behind => return ([item], behind)
    | ',' :: behind =>
      let (items, rest) ← readItems fuel (behind.dropWhile isBlank)
      return (item :: items, rest)
    | rest => throw ⟨.comma, rest⟩

/-- Reads the fields of an object behind some, and its closing brace. -/
def readFields : Nat → List (String × Json) → List Char → Except FaultAt (List (String × Json) × List Char)
  | 0, _, cs => .error ⟨.name, cs⟩
  | fuel + 1, done, cs =>
    match cs with
    | '"' :: rest => do
      let (name, rest) ← readText cs [] 0 rest
      match rest.dropWhile isBlank with
      | ':' :: rest =>
        let (value, rest) ← readValue fuel (rest.dropWhile isBlank)
        let done := putField name value done
        match rest.dropWhile isBlank with
        | '\x7d' :: behind => return (done, behind)
        | ',' :: behind => readFields fuel done (behind.dropWhile isBlank)
        | rest => throw ⟨.comma, rest⟩
      | rest => throw ⟨.colon, rest⟩
    | _ => .error ⟨.name, cs⟩

end

/-- Why a text is no value, and where: characters count from zero. -/
structure ParseFault where
  fault : Fault
  line : Nat
  column : Nat
  position : Nat
deriving Repr, DecidableEq

/-- The wording of a fault with its place; a fault of an integer has none. -/
def ParseFault.message (f : ParseFault) : String :=
  match f.fault with
  | .number fault => fault.message
  | fault => s!"{fault.text}: line {f.line} column {f.column} (char {f.position})"

def FaultAt.place (text : List Char) (f : FaultAt) : ParseFault :=
  let before := text.take (text.length - f.rest.length)
  ⟨f.fault, before.count '\n' + 1, (before.reverse.takeWhile (· ≠ '\n')).length + 1, before.length⟩

def parse (text : String) : Except ParseFault Json :=
  let cs := text.toList
  if cs.head? = some '\uFEFF' then .error ((⟨.byteOrderMark, cs⟩ : FaultAt).place cs)
  else match readValue (2 * cs.length + 2) (cs.dropWhile isBlank) with
  | .error f => .error (f.place cs)
  | .ok (value, rest) =>
    match rest.dropWhile isBlank with
    | [] => .ok value
    | rest => .error ((⟨.extraData, rest⟩ : FaultAt).place cs)

end CCompiler.Json
