import CCompiler.Text.Names.Table
import CCompiler.Text.Basic

/-!
# Names of characters

The names of neighbouring characters are much alike, so a group writes each name as what changes from the name
before it. A mark at the front of a name says how many words of the name before it begins with, the words that
are new follow, and a second mark may say how many words of the name before stand at its end:

* `!` `$` `%` `&` `(` `)` `*` `+` `.` `:` `;` `<` -- none up to eleven words at the front are kept;
* `=` `>` `?` `^` `_` `|` `~` -- one up to seven words at the end are kept;
* `,` -- the name before, with the number at its end one higher;
* `/` -- a code point without a name.

Most names are listed. The name of a Hangul syllable is put together from the names of its parts, and the
name of an ideograph ends with its code point. Listed names may be written in letters of either case.
-/
namespace CCompiler.Text

/-- Names of neighbouring characters, in the code above, and the code point of the first. -/
structure NameGroup where
  first : Nat
  names : List Char
deriving Repr, DecidableEq

/-- A number one higher, with as many digits; the last digit stands first. -/
def countUp : List Char → List Char
  | [] => []
  | '9' :: digits => '0' :: countUp digits
  | digit :: digits => Char.ofNat (digit.toNat + 1) :: digits

def frontMarks : List Char := "!$%&()*+.:;<".toList

def backMarks : List Char := "=>?^_|~".toList

def markedPieces (cs : List Char) : List (Char × List Char) :=
  (cs.foldr (fun c (begun, pieces) =>
    if c == ',' || c == '/' || frontMarks.contains c then ([], (c, begun) :: pieces)
    else (c :: begun, pieces)) ([], [])).2

/-- The words of a name, from those of the name before and its piece. -/
def nameAfter (before : List (List Char)) (mark : Char) (text : List Char) : List (List Char) :=
  if mark == ',' then before.dropLast ++ (before.getLast?.map fun word => (countUp word.reverse).reverse).toList
  else
    let fresh := text.takeWhile (!backMarks.contains ·)
    let kept := (text.drop fresh.length).head?.elim 0 (backMarks.idxOf · + 1)
    before.take (frontMarks.idxOf mark) ++ words fresh ++ before.drop (before.length - kept)

/-- The code point of a name in the pieces of a group, where a name and its code point come before. -/
def codeAmong? (name : List (List Char)) (before : List (List Char)) (code : Nat) :
    List (Char × List Char) → Option Nat
  | [] => none
  | (mark, text) :: pieces =>
    if mark == '/' then codeAmong? name before (code + 1) pieces
    else
      let next := nameAfter before mark text
      if next == name then some code else codeAmong? name next (code + 1) pieces

def NameGroup.code? (group : NameGroup) (name : List Char) : Option Nat :=
  codeAmong? (splitOn ' ' name) [] group.first (markedPieces group.names)

/-- The group on a line: the code point of its first name in hexadecimal digits, and the names. -/
def NameGroup.ofLine (line : List Char) : NameGroup :=
  let digits := line.takeWhile fun c => c.isDigit || c.isUpper
  ⟨(digitsValue? 16 digits).getD 0, line.drop digits.length⟩

def nameGroups : Thunk (List NameGroup) := Thunk.mk fun _ =>
  (splitOn '\n' (Packed.unpack packedNamesLength packedNames)).map NameGroup.ofLine

def leadingParts : List String :=
  ["G", "GG", "N", "D", "DD", "R", "M", "B", "BB", "S", "SS", "", "J", "JJ", "C", "K", "T", "P", "H"]

def vowelParts : List String :=
  ["A", "AE", "YA", "YAE", "EO", "E", "YEO", "YE", "O", "WA", "WAE", "OE", "YO", "U", "WEO", "WE", "WI",
   "YU", "EU", "YI", "I"]

def trailingParts : List String :=
  ["", "G", "GG", "GS", "N", "NJ", "NH", "D", "L", "LG", "LM", "LB", "LS", "LT", "LP", "LH", "M", "B",
   "BS", "S", "SS", "NG", "J", "C", "K", "T", "P", "H"]

/-- The place of the longest part that a text begins with, and the text behind it. -/
def longestPart? (parts : List String) (text : List Char) : Option (Nat × List Char) :=
  let fits := parts.zipIdx.filter fun (part, _) => part.toList.isPrefixOf text
  let longest := fits.foldl (fun best next =>
    match best with
    | some (part, place) => if part.length < next.1.length then some next else some (part, place)
    | none => some next) none
  longest.map fun (part, place) => (place, text.drop part.length)

/-- The code point of a Hangul syllable from the name behind `HANGUL SYLLABLE`. -/
def syllable? (name : List Char) : Option Nat := do
  let (l, behind) ← longestPart? leadingParts name
  let (v, behind) ← longestPart? vowelParts behind
  let (t, behind) ← longestPart? trailingParts behind
  if behind.isEmpty then return 0xAC00 + (l * vowelParts.length + v) * trailingParts.length + t else none

/-- The value of four or five upper-case hexadecimal digits. -/
def upperHex? (digits : List Char) : Option Nat :=
  if (digits.length = 4 ∨ digits.length = 5) ∧ digits.all fun c => c.isDigit || ('A' ≤ c && c ≤ 'F') then
    digitsValue? 16 digits
  else none

def ideographRanges : Ranges :=
  [(0x3400, 0x4DBF), (0x4E00, 0x9FFF), (0x20000, 0x2A6DF), (0x2A700, 0x2B738), (0x2B740, 0x2B81D),
   (0x2B820, 0x2CEA1), (0x2CEB0, 0x2EBE0), (0x30000, 0x3134A)]

def ideograph? (digits : List Char) : Option Nat := (upperHex? digits).filter ideographRanges.has

/-- The beginnings of other names that end with a code point, and the code points that have them. -/
def codedNames : List (String × Ranges) :=
  [("CJK COMPATIBILITY IDEOGRAPH-", [(0xF900, 0xFA6D), (0xFA70, 0xFAD9), (0x2F800, 0x2FA1D)]),
   ("KHITAN SMALL SCRIPT CHARACTER-", [(0x18B00, 0x18CD5)]),
   ("NUSHU CHARACTER-", [(0x1B170, 0x1B2FB)])]

def codedName? (name : List Char) : Option Nat :=
  codedNames.findSome? fun (head, ranges) =>
    if head.toList.isPrefixOf name then
      let digits := name.drop head.length
      (upperHex? digits).filter fun code => ranges.has code && (digits.length = 4 || code > 0xFFFF)
    else none

def listedName? (name : List Char) : Option Nat := nameGroups.get.findSome? (·.code? name)

def codeOfName? (name : List Char) : Option Nat :=
  let syllable := "HANGUL SYLLABLE ".toList
  let ideograph := "CJK UNIFIED IDEOGRAPH-".toList
  if syllable.isPrefixOf name then syllable? (name.drop syllable.length)
  else if ideograph.isPrefixOf name then ideograph? (name.drop ideograph.length)
  else
    let name := name.map Char.toUpper
    (listedName? name).orElse fun _ => codedName? name

end CCompiler.Text
