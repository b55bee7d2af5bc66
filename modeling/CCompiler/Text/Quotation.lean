import CCompiler.Text.Names.Lookup
import CCompiler.Source.Phases

/-!
# Quotations

A backslash in a quoted text begins an escape: a letter for a control character, up to three octal
digits, exactly two, four or eight hexadecimal digits after `x`, `u` and `U`, or a name in braces after
`N`. A backslash before any other character stands for itself, and before a line end it joins two lines.

A quotation is one quoted text, or several side by side, which stand for the texts joined; it may stand
in parentheses. A text has one or three single or double quotes at each end. Between three it may go
over several lines; a letter `r` before the quotes keeps its backslashes, a letter `u` changes nothing.

Blanks, joined lines and comments behind `#` may stand between texts, line ends only inside
parentheses. Lines without a text may stand before and behind all, and the line on which the quotation
begins is not indented behind such lines.
-/
namespace CCompiler.Text

def controlEscape? (c : Char) : Option Nat :=
  match c with
  | '\\' => some 0x5C
  | '\'' => some 0x27
  | '"' => some 0x22
  | 'a' => some 7
  | 'b' => some 8
  | 'f' => some 12
  | 'n' => some 10
  | 'r' => some 13
  | 't' => some 9
  | 'v' => some 11
  | _ => none

def hexWidth? (c : Char) : Option Nat :=
  match c with
  | 'x' => some 2
  | 'u' => some 4
  | 'U' => some 8
  | _ => none

def isOctal (c : Char) : Bool := '0' ≤ c && c ≤ '7'

def isHex (c : Char) : Bool :=
  c.isDigit || ('a' ≤ c && c ≤ 'f') || ('A' ≤ c && c ≤ 'F')

def lastCodePoint : Nat := 0x10FFFF

/-- The code points of the text of an escape behind its backslash, and the length of that text; none if
    the escape is refused. -/
def escape? : List Char → Option (List Nat × Nat)
  | [] => none
  | '\n' :: _ => some ([], 1)
  | 'N' :: '\x7b' :: rest =>
    let name := rest.takeWhile (· ≠ '\x7d')
    if name.length = rest.length then none
    else (codeOfName? name).map fun code => ([code], name.length + 3)
  | 'N' :: _ => none
  | c :: rest =>
    match controlEscape? c with
    | some code => some ([code], 1)
    | none =>
      if isOctal c then
        let digits := (c :: rest).take 3 |>.takeWhile isOctal
        (digitsValue? 8 digits).map fun code => ([code], digits.length)
      else
        match hexWidth? c with
        | none => some ([0x5C, c.toNat], 1)
        | some width =>
          let digits := rest.take width
          if digits.length = width && digits.all isHex then
            match digitsValue? 16 digits with
            | some code => if code ≤ lastCodePoint then some ([code], 1 + width) else none
            | none => none
          else none

/-- The code points of a quoted text without its quotes, where the first characters are already read. -/
def unescapeFrom? : Nat → List Char → Option (List Nat)
  | 0, [] => some []
  | _, [] => none
  | skip + 1, _ :: rest => unescapeFrom? skip rest
  | 0, '\\' :: rest =>
    match escape? rest with
    | none => none
    | some (codes, length) => (unescapeFrom? length rest).map (codes ++ ·)
  | 0, c :: rest => (unescapeFrom? 0 rest).map (c.toNat :: ·)

def unescape? (cs : List Char) : Option (List Nat) := unescapeFrom? 0 cs

/-- The body of a text up to its closing quotes, and what stands behind them. A backslash takes the next
    character along. -/
def bodyTo? (quotes : List Char) : List Char → Option (List Char × List Char)
  | [] => none
  | '\\' :: c :: rest => (bodyTo? quotes rest).map fun (body, behind) => ('\\' :: c :: body, behind)
  | c :: rest =>
    if quotes.isPrefixOf (c :: rest) then some ([], (c :: rest).drop quotes.length)
    else if c = '\n' ∧ quotes.length = 1 then none
    else (bodyTo? quotes rest).map fun (body, behind) => (c :: body, behind)

def quotesAt? : List Char → Option (List Char)
  | [] => none
  | q :: rest =>
    if q = '\'' ∨ q = '"' then some (if [q, q].isPrefixOf rest then [q, q, q] else [q]) else none

/-- The code points of the text at the front, and what stands behind it. -/
def textAt? (cs : List Char) : Option (List Nat × List Char) := do
  let (isRaw, cs) := match cs with
    | 'r' :: rest => (true, rest)
    | 'R' :: rest => (true, rest)
    | 'u' :: rest => (false, rest)
    | 'U' :: rest => (false, rest)
    | cs => (false, cs)
  let quotes ← quotesAt? cs
  let (body, behind) ← bodyTo? quotes (cs.drop quotes.length)
  let codes ← if isRaw then some (body.map Char.toNat) else unescape? body
  return (codes, behind)

def isGap (c : Char) : Bool := c == ' ' || c == '\t' || c == '\x0c'

/-- What stands behind blanks, joined lines and comments, and perhaps behind line ends; the flag tells
    that a comment has begun. A joined line must have something on it. -/
def skipGap (overLines : Bool) : Bool → List Char → List Char
  | _, [] => []
  | true, c :: rest =>
    if c ≠ '\n' then skipGap overLines true rest
    else if overLines then skipGap overLines false rest
    else c :: rest
  | false, '\\' :: '\n' :: rest =>
    if rest.isEmpty then ['\\', '\n'] else skipGap overLines false rest
  | false, c :: rest =>
    if isGap c || (overLines && c == '\n') then skipGap overLines false rest
    else if c = '#' then skipGap overLines true rest
    else c :: rest

/-- Reads texts side by side, at most so many. -/
def textsAt? (overLines : Bool) : Nat → List Char → Option (List Nat × List Char)
  | 0, _ => none
  | n + 1, cs => do
    let (codes, behind) ← textAt? cs
    let behind := skipGap overLines false behind
    match textsAt? overLines n behind with
    | some (more, behind) => return (codes ++ more, behind)
    | none => return (codes, behind)

/-- Reads texts in fewer pairs of parentheses than a bound. -/
def groupAt? (overLines : Bool) : Nat → List Char → Option (List Nat × List Char)
  | 0, _ => none
  | bound + 1, '(' :: rest => do
    let (codes, behind) ← groupAt? true bound (skipGap true false rest)
    match behind with
    | ')' :: behind => return (codes, skipGap overLines false behind)
    | _ => none
  | _ + 1, cs => textsAt? overLines cs.length cs

def deepestGroup : Nat := 200

def quotation? (cs : List Char) : Option (List Nat) := do
  let cs := (Source.unifyLineEnds cs).dropWhile fun c => c == ' ' || c == '\t'
  if cs.contains '\x00' then none
  let start := skipGap true false cs
  let front := cs.take (cs.length - start.length)
  if front.getLast?.any fun c => c == ' ' || c == '\t' then none
  let (codes, behind) ← groupAt? false (deepestGroup + 1) start
  if (skipGap true false behind).isEmpty then return codes else none

end CCompiler.Text
