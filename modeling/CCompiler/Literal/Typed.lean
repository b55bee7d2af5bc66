import CCompiler.Number.Fault
import CCompiler.Token.Scan
import CCompiler.Types.Basic

/-!
# Literals

A literal is a body of digits, hexadecimal after `0x` and octal after `0`, and a suffix of the letters
`u` and `l`. The readers here answer the value of a literal, nothing when it is not one, and an error
when its digits have no value.

A body between quotes stands for a list of units: a character for its code, an escape sequence for the
number it writes. A unit is not bounded by the width of any character type.
-/
namespace CCompiler.Literal

open Text (isDigit)

def isSuffixChar (c : Char) : Bool := c == 'u' || c == 'U' || c == 'l' || c == 'L'

/-- The letters `u` and `l` at the end of a literal, in lower case. -/
def suffixOf (lexeme : List Char) : String :=
  String.ofList ((lexeme.reverse.takeWhile isSuffixChar).reverse.map Char.toLower)

def bodyOf (lexeme : List Char) : List Char :=
  (lexeme.reverse.dropWhile isSuffixChar).reverse

def suffixes : List String := ["", "u", "l", "ul", "lu", "ll", "ull", "llu"]

/-- How the body of a literal is to be read. -/
inductive Body where
  | hexadecimal (digits : List Char)
  | octal (digits : List Char)
  | decimal (digits : List Char)
deriving Repr, DecidableEq

/-- The reading of a body: hexadecimal after `0x`, octal after a zero with more behind it. -/
def Body.of : List Char → Body
  | '0' :: 'x' :: digits => .hexadecimal digits
  | '0' :: 'X' :: digits => .hexadecimal digits
  | '0' :: c :: rest => .octal ('0' :: c :: rest)
  | digits => .decimal digits

def isDigits (cs : List Char) : Bool := !cs.isEmpty && cs.all isDigit

/-- The value of a body, nothing if its characters do not fit its base. -/
def Body.value? : Body → Except NumberFault (Option Int)
  | .hexadecimal digits => if digits.isEmpty then .ok none else (Number.ofText 16 digits).map some
  | .octal digits =>
    if digits.all Token.isOctalDigit then (Number.ofText 8 digits).map some else .ok none
  | .decimal digits => if isDigits digits then (Number.ofText 10 digits).map some else .ok none

def value? (lexeme : String) : Except NumberFault (Option Int) :=
  if suffixes.contains (suffixOf lexeme.toList) then (Body.of (bodyOf lexeme.toList)).value?
  else .ok none

/-- The value of a literal that is taken to be well formed. -/
def value (lexeme : String) : Except NumberFault Int :=
  match Body.of (bodyOf lexeme.toList) with
  | .hexadecimal digits => Number.ofText 16 digits
  | .octal digits => Number.ofText 8 digits
  | .decimal digits => Number.ofText 10 digits

inductive SizeFault where
  | suffix
  | noHexDigits
  | nonOctalDigits
  | noDecimalDigits
deriving Repr, DecidableEq

def SizeFault.message : SizeFault → String
  | .suffix => "Array size literal has unsupported integer suffix"
  | .noHexDigits => "Array size hexadecimal literal requires at least one digit"
  | .nonOctalDigits => "Array size octal literal contains non-octal digits"
  | .noDecimalDigits => "Array size literal must contain decimal digits"

def sizeFault? (lexeme : String) : Option SizeFault :=
  if !suffixes.contains (suffixOf lexeme.toList) then some .suffix
  else
    match Body.of (bodyOf lexeme.toList) with
    | .hexadecimal digits => if digits.isEmpty then some .noHexDigits else none
    | .octal digits => if digits.all Token.isOctalDigit then none else some .nonOctalDigits
    | .decimal digits => if isDigits digits then none else some .noDecimalDigits

def suffixType (lexeme : String) : String :=
  let lowered := lexeme.toLower
  if lowered.endsWith "ull" || lowered.endsWith "llu" then "unsigned long long"
  else if lowered.endsWith "ll" then "long long"
  else if lowered.endsWith "ul" || lowered.endsWith "lu" || lowered.endsWith "u" then "unsigned int"
  else if lowered.endsWith "l" then "long"
  else "int"

/-- Why a body has no units: a backslash at its end, or an escape whose digits have no value. -/
inductive EscapeError where
  | pastEnd
  | digits (error : NumberFault)
deriving Repr, DecidableEq

def EscapeError.message : EscapeError → String
  | .pastEnd => "string index out of range"
  | .digits error => error.message

def simpleEscape? (c : Char) : Option Int :=
  match c with
  | '\'' => some 39
  | '"' => some 34
  | '?' => some 63
  | '\\' => some 92
  | 'a' => some 7
  | 'b' => some 8
  | 'f' => some 12
  | 'n' => some 10
  | 'r' => some 13
  | 't' => some 9
  | 'v' => some 11
  | _ => none

/-- The characters of an escape behind its backslash: the base and the digits of the number it writes,
    and how many characters it takes. Every escape that is neither simple, hexadecimal nor octal is
    taken for a universal character name. -/
def escapeDigits : List Char → Nat × List Char × Nat
  | [] => (16, [], 0)
  | 'x' :: rest =>
    let digits := rest.takeWhile Token.isHexDigit
    (16, digits, digits.length + 1)
  | c :: rest =>
    if Token.isOctalDigit c then
      let digits := c :: (rest.take 2).takeWhile Token.isOctalDigit
      (8, digits, digits.length)
    else
      let width := if c = 'u' then 4 else 8
      (16, rest.take width, width + 1)

/-- The units of a body, at most so many of them. -/
def decodeWithin : Nat → List Char → Except EscapeError (List Int)
  | 0, _ => .ok []
  | _ + 1, [] => .ok []
  | n + 1, '\\' :: rest =>
    match rest with
    | [] => .error .pastEnd
    | c :: behind =>
      match simpleEscape? c with
      | some unit => (decodeWithin n behind).map (unit :: ·)
      | none =>
        let (base, digits, width) := escapeDigits rest
        match Number.ofText base digits with
        | .error e => .error (.digits e)
        | .ok unit => (decodeWithin n (rest.drop width)).map (unit :: ·)
  | n + 1, c :: rest => (decodeWithin n rest).map ((c.toNat : Int) :: ·)

def decode (body : List Char) : Except EscapeError (List Int) := decodeWithin body.length body

def between? (quote : Char) (cs : List Char) : Option (List Char) :=
  if cs.head? == some quote && cs.getLast? == some quote then some cs.tail.dropLast else none

def charBody? (lexeme : String) : Option (List Char) :=
  match lexeme.toList with
  | 'u' :: rest | 'U' :: rest | 'L' :: rest => between? '\'' rest
  | cs => between? '\'' cs

def charValue? (lexeme : String) : Except EscapeError (Option Int) :=
  match charBody? lexeme with
  | none => return none
  | some body => do
    match ← decode body with
    | [unit] => return some unit
    | _ => return none

def stringBody? (lexeme : String) : Option (List Char) :=
  match lexeme.toList with
  | 'u' :: '8' :: rest => between? '"' rest
  | cs => between? '"' cs

/-- The length of the array that a string literal of characters needs. -/
def stringLength? (lexeme : String) : Except EscapeError (Option Nat) :=
  match stringBody? lexeme with
  | none => return none
  | some body => do return some ((← decode body).length + 1)

open IntegerKind

/-! ## Types of literals

An integer literal has the first type of a list that holds its value; the list hangs on its suffix and on
whether it is decimal.
-/

def candidates? (isDecimal : Bool) (suffix : String) : Option (List IntegerKind) :=
  match suffix with
  | "" =>
    some (if isDecimal then [int, long, longLong]
      else [int, unsignedInt, long, unsignedLong, longLong, unsignedLongLong])
  | "u" => some [unsignedInt, unsignedLong, unsignedLongLong]
  | "l" => some (if isDecimal then [long, longLong] else [long, unsignedLong, longLong, unsignedLongLong])
  | "ul" | "lu" => some [unsignedLong, unsignedLongLong]
  | "ll" => some (if isDecimal then [longLong] else [longLong, unsignedLongLong])
  | "ull" | "llu" => some [unsignedLongLong]
  | _ => none

def holds (kind : IntegerKind) (value : Int) : Bool :=
  match kind.signedRange? with
  | some (low, high) => low ≤ value && value ≤ high
  | none => kind.unsignedMax?.any fun max => 0 ≤ value && value ≤ max

def Body.isDecimal : Body → Bool
  | .decimal _ => true
  | _ => false

def typed? (lexeme : String) : Except NumberFault (Option (Int × IntegerKind)) := do
  let body := Body.of (bodyOf lexeme.toList)
  match ← body.value? with
  | none => return none
  | some value =>
    match candidates? body.isDecimal (suffixOf lexeme.toList) with
    | none => return none
    | some kinds => return (kinds.find? (holds · value)).map fun kind => (value, kind)

def floatingType (lexeme : String) : CType :=
  match lexeme.toList.getLast? with
  | some 'f' | some 'F' => CType.ofName "float"
  | some 'l' | some 'L' => CType.longDouble
  | _ => CType.ofName "double"

end CCompiler.Literal
