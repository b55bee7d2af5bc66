import CCompiler.Text.Basic
import CCompiler.Text.Lines
import CCompiler.Source.Phases

/-!
# Tokens

What the scanner produces: a kind, the spelling and the place where the spelling starts. The end of
the text is a token of its own with an empty spelling.

A number is scanned by a loose rule and classified afterwards: an integer constant, a floating
constant, or neither.

How many characters at the front of a text form white space, a comment, a literal, a number, an
identifier or a punctuator. A measure answers a length, or a fault with the number of characters read
before it was noticed; nothing here knows about lines and columns.
-/
namespace CCompiler

/-- The kinds of token. Keywords, integer and floating constants exist only after preprocessing;
    header names and numbers not yet classified only before it. -/
inductive TokenKind where
  | keyword
  | identifier
  | intConst
  | floatConst
  | charConst
  | stringLiteral
  | punctuator
  | headerName
  | number
  | endOfFile
deriving Repr, DecidableEq, Inhabited

def TokenKind.name : TokenKind → String
  | .keyword => "KEYWORD"
  | .identifier => "IDENT"
  | .intConst => "INT_CONST"
  | .floatConst => "FLOAT_CONST"
  | .charConst => "CHAR_CONST"
  | .stringLiteral => "STRING_LITERAL"
  | .punctuator => "PUNCTUATOR"
  | .headerName => "HEADER_NAME"
  | .number => "PP_NUMBER"
  | .endOfFile => "EOF"

structure Token where
  kind : TokenKind
  lexeme : String
  line : Nat
  column : Nat
deriving Repr, DecidableEq, Inhabited

namespace Token

def isEnd (t : Token) : Bool := t.kind == .endOfFile

def isPunct (t : Token) (text : String) : Bool := t.kind == .punctuator && t.lexeme == text

def isKeyword (t : Token) (text : String) : Bool := t.kind == .keyword && t.lexeme == text

end Token

/-- The keywords of C11 and the GNU spellings that are reserved as well. -/
def keywords : List String := [
  "auto", "break", "case", "char", "const", "continue", "default", "do", "double", "else", "enum",
  "extern", "float", "for", "goto", "if", "inline", "int", "long", "register", "restrict", "return",
  "short", "signed", "sizeof", "static", "struct", "switch", "typedef", "union", "unsigned", "void",
  "volatile", "while", "_Alignas", "_Alignof", "__alignof__", "_Atomic", "_Bool", "_Complex",
  "_Generic", "_Imaginary", "_Noreturn", "_Static_assert", "_Thread_local", "typeof",
  "typeof_unqual", "__typeof__", "__extension__"]

/-- The punctuators, longer ones before shorter ones, so that the first that matches is longest. -/
def punctuators : List String := [
  "%:%:", "...", ">>=", "<<=", "->", "++", "--", "&&", "||", "<=", ">=", "==", "!=", "+=", "-=",
  "*=", "/=", "%=", "&=", "|=", "^=", "<<", ">>", "##", "<:", ":>", "<%", "%>", "%:", "[", "]",
  "(", ")", "\x7b", "\x7d", ".", "&", "*", "+", "-", "~", "!", "/", "%", "<", ">", "^", "|", "?",
  ":", ";", "=", ",", "#"]

end CCompiler

namespace CCompiler.Token

def isDecimalDigit (c : Char) : Bool := '0' ≤ c && c ≤ '9'

def isOctalDigit (c : Char) : Bool := '0' ≤ c && c ≤ '7'

def isHexDigit (c : Char) : Bool :=
  isDecimalDigit c || ('a' ≤ c && c ≤ 'f') || ('A' ≤ c && c ≤ 'F')

/-! ## 1. Constants -/

/-- Whether the text ends after an optional `f` or `l`. -/
def endsAsFloat : List Char → Bool
  | [] => true
  | [c] => c == 'f' || c == 'F' || c == 'l' || c == 'L'
  | _ => false

/-- Whether the text is an optional sign, digits and an optional suffix. -/
def isExponentTail (cs : List Char) : Bool :=
  let unsigned := match cs with
    | '+' :: rest => rest
    | '-' :: rest => rest
    | rest => rest
  let (digits, rest) := unsigned.span isDecimalDigit
  !digits.isEmpty && endsAsFloat rest

def isDecimalExponent : List Char → Bool
  | 'e' :: rest => isExponentTail rest
  | 'E' :: rest => isExponentTail rest
  | _ => false

/-- A decimal floating constant: digits with a point and perhaps an exponent, or digits with an
    exponent. -/
def isDecimalFloat (cs : List Char) : Bool :=
  let (whole, rest) := cs.span isDecimalDigit
  match rest with
  | '.' :: afterPoint =>
    let (fraction, tail) := afterPoint.span isDecimalDigit
    !(whole.isEmpty && fraction.isEmpty) && (isDecimalExponent tail || endsAsFloat tail)
  | _ => !whole.isEmpty && isDecimalExponent rest

def isBinaryExponent : List Char → Bool
  | 'p' :: rest => isExponentTail rest
  | 'P' :: rest => isExponentTail rest
  | _ => false

def isHexFloatBody (cs : List Char) : Bool :=
  let (whole, rest) := cs.span isHexDigit
  match rest with
  | '.' :: afterPoint =>
    let (fraction, tail) := afterPoint.span isHexDigit
    !(whole.isEmpty && fraction.isEmpty) && isBinaryExponent tail
  | _ => !whole.isEmpty && isBinaryExponent rest

def isHexFloat : List Char → Bool
  | '0' :: 'x' :: rest => isHexFloatBody rest
  | '0' :: 'X' :: rest => isHexFloatBody rest
  | _ => false

/-- The suffixes of an integer constant: `u` in either case and `l` or `ll` in one case, in either
    order. -/
def integerSuffixes : List String :=
  ["", "u", "U", "ul", "uL", "ull", "uLL", "Ul", "UL", "Ull", "ULL",
    "l", "L", "ll", "LL", "lu", "lU", "Lu", "LU", "llu", "llU", "LLu", "LLU"]

def isIntegerSuffix (cs : List Char) : Bool :=
  integerSuffixes.contains (String.ofList cs)

def isHexIntegerBody (cs : List Char) : Bool :=
  let (digits, suffix) := cs.span isHexDigit
  !digits.isEmpty && isIntegerSuffix suffix

/-- An integer constant: decimal, octal or hexadecimal digits and a suffix. -/
def isInteger : List Char → Bool
  | '0' :: 'x' :: rest => isHexIntegerBody rest
  | '0' :: 'X' :: rest => isHexIntegerBody rest
  | '0' :: rest => isIntegerSuffix (rest.dropWhile isOctalDigit)
  | c :: rest => isDecimalDigit c && isIntegerSuffix (rest.dropWhile isDecimalDigit)
  | [] => false

def numberKind (cs : List Char) : TokenKind :=
  if isHexFloat cs || isDecimalFloat cs then .floatConst
  else if isInteger cs then .intConst
  else .number

open Text (isLetter isDigit)

/-! ## 2. Faults -/

inductive LexCause where
  | unterminatedComment
  | unterminatedString
  | unterminatedCharacter
  | emptyCharacter
  | invalidEscape
  | invalidHexEscape
  | invalidUniversalName
  | unterminatedHeader
  | invalidHeader
  | unexpectedCharacter
deriving Repr, DecidableEq

def LexCause.message : LexCause → String
  | .unterminatedComment => "Unterminated block comment"
  | .unterminatedString => "Unterminated string literal"
  | .unterminatedCharacter => "Unterminated character constant"
  | .emptyCharacter => "Empty character constant"
  | .invalidEscape => "Invalid escape sequence"
  | .invalidHexEscape => "Invalid hexadecimal escape"
  | .invalidUniversalName => "Invalid universal character name"
  | .unterminatedHeader => "Unterminated header name"
  | .invalidHeader => "Invalid header name"
  | .unexpectedCharacter => "Unexpected character"

/-- A fault: a cause after so many characters, or digits of a universal character name that have no
    value. -/
inductive Fault where
  | after (cause : LexCause) (length : Nat)
  | noValue (digits : List Char)
deriving Repr, DecidableEq

/-- The same fault, seen from so many characters before. -/
def Fault.shift (n : Nat) : Fault → Fault
  | .after cause length => .after cause (n + length)
  | fault => fault

/-- A length or a fault, seen from so many characters before. -/
def shifted (n : Nat) : Except Fault Nat → Except Fault Nat
  | .ok length => .ok (n + length)
  | .error fault => .error (fault.shift n)

/-! ## 3. Lexemes -/

def isBlank (c : Char) : Bool :=
  c == ' ' || c == '\t' || c == '\x0b' || c == '\x0c' || c == '\n'

def commentLength? : List Char → Option Nat
  | [] => none
  | '*' :: '/' :: _ => some 2
  | _ :: rest => (commentLength? rest).map (· + 1)

/-- The length of the white space and comments at the front. -/
def blankLength : List Char → Except Fault Nat
  | [] => .ok 0
  | '/' :: '/' :: rest =>
    let line := (rest.takeWhile (· != '\n')).length
    shifted (2 + line) (blankLength (rest.drop line))
  | '/' :: '*' :: rest =>
    match commentLength? rest with
    | some n => shifted (2 + n) (blankLength (rest.drop n))
    | none => .error (.after .unterminatedComment (2 + rest.length))
  | c :: rest => if isBlank c then shifted 1 (blankLength rest) else .ok 0
termination_by cs => cs.length
decreasing_by all_goals simp_wf; try omega

/-- A digit of an escape: a digit of any script or a hexadecimal letter. -/
def isEscapeDigit (c : Char) : Bool :=
  isDigit c || ('a' ≤ c && c ≤ 'f') || ('A' ≤ c && c ≤ 'F')

def isUniversalCode (code : Nat) : Bool :=
  code ≤ 0x10ffff && (0xa0 ≤ code || code == 0x24 || code == 0x40 || code == 0x60)
    && !(0xd800 ≤ code && code ≤ 0xdfff)

def universalDigitCount (kind : Char) : Nat := if kind = 'u' then 4 else 8

def universalDigits (count : Nat) (cs : List Char) : Except Fault Nat :=
  let digits := (cs.take count).takeWhile isEscapeDigit
  if digits.length < count then .error (.after .invalidUniversalName digits.length)
  else
    match Text.digitsValue? 16 digits with
    | none => .error (.noValue digits)
    | some code =>
      if isUniversalCode code then .ok count else .error (.after .invalidUniversalName count)

def simpleEscapes : List Char := ['\'', '"', '?', '\\', 'a', 'b', 'f', 'n', 'r', 't', 'v']

/-- The length of an escape sequence after its backslash. -/
def escapeLength : List Char → Except Fault Nat
  | [] => .error (.after .invalidEscape 0)
  | c :: rest =>
    if simpleEscapes.contains c then .ok 1
    else if c = 'x' then
      let digits := (rest.takeWhile isEscapeDigit).length
      if digits = 0 then .error (.after .invalidHexEscape 1) else .ok (1 + digits)
    else if c = 'u' || c = 'U' then shifted 1 (universalDigits (universalDigitCount c) rest)
    else if isOctalDigit c then .ok (1 + ((rest.take 2).takeWhile isOctalDigit).length)
    else .error (.after .invalidEscape 0)

/-- The length of a literal's body and its closing quote. -/
def quotedLength (quote : Char) (unterminated : LexCause) : List Char → Except Fault Nat
  | [] => .error (.after unterminated 0)
  | c :: rest =>
    if c = quote then .ok 1
    else if c = '\n' then .error (.after unterminated 1)
    else if c = '\\' then
      match escapeLength rest with
      | .error fault => .error (fault.shift 1)
      | .ok n => shifted (1 + n) (quotedLength quote unterminated (rest.drop n))
    else shifted 1 (quotedLength quote unterminated rest)
termination_by cs => cs.length
decreasing_by all_goals simp_wf; try omega

/-- The kind of the literal at the front and the length of its encoding prefix. -/
def literalPrefix? : List Char → Option (TokenKind × Nat)
  | '"' :: _ => some (.stringLiteral, 0)
  | '\'' :: _ => some (.charConst, 0)
  | 'u' :: '8' :: '"' :: _ => some (.stringLiteral, 2)
  | c :: '"' :: _ => if c = 'u' || c = 'U' || c = 'L' then some (.stringLiteral, 1) else none
  | c :: '\'' :: _ => if c = 'u' || c = 'U' || c = 'L' then some (.charConst, 1) else none
  | _ => none

/-- The length of a literal whose opening quote follows so many characters. -/
def literalLength (kind : TokenKind) (opening : Nat) (cs : List Char) : Except Fault Nat :=
  let body := cs.drop (opening + 1)
  if kind = .charConst then
    if body.head? = some '\'' then .error (.after .emptyCharacter (opening + 1))
    else shifted (opening + 1) (quotedLength '\'' .unterminatedCharacter body)
  else shifted (opening + 1) (quotedLength '"' .unterminatedString body)

/-- The length of a header name after its opening delimiter. -/
def headerTail (close : Char) : List Char → Except Fault Nat
  | [] => .error (.after .unterminatedHeader 0)
  | c :: rest =>
    if c = '\n' then .error (.after .unterminatedHeader 0)
    else if c = close then .ok 1
    else if c = '\'' || c = '\\' then .error (.after .invalidHeader 0)
    else if c = '/' && (rest.head? = some '/' || rest.head? = some '*') then
      .error (.after .invalidHeader 0)
    else shifted 1 (headerTail close rest)

/-- The length of a header name at the front, if one starts there. -/
def headerLength? : List Char → Option (Except Fault Nat)
  | '<' :: rest => some (shifted 1 (headerTail '>' rest))
  | '"' :: rest => some (shifted 1 (headerTail '"' rest))
  | _ => none

/-- Whether a number starts at the front: a digit, or a point and a digit. -/
def startsNumber : List Char → Bool
  | '.' :: c :: _ => isDigit c
  | c :: _ => isDigit c
  | [] => false

/-- The length of the rest of a number. A sign belongs to it after an exponent letter. -/
def numberTail : List Char → Except Fault Nat
  | [] => .ok 0
  | c :: rest =>
    match rest with
    | d :: more =>
      if (c = 'e' || c = 'E' || c = 'p' || c = 'P') && (d = '+' || d = '-') then
        shifted 2 (numberTail more)
      else if isDigit c || c = '.' || c = '_' || isLetter c then shifted 1 (numberTail (d :: more))
      else if c = '\\' && (d = 'u' || d = 'U') then
        match universalDigits (universalDigitCount d) more with
        | .error fault => .error (fault.shift 2)
        | .ok n => shifted (2 + n) (numberTail (more.drop n))
      else .ok 0
    | [] => if isDigit c || c = '.' || c = '_' || isLetter c then .ok 1 else .ok 0
termination_by cs => cs.length
decreasing_by all_goals simp_wf; try omega

def startsIdentifier : List Char → Bool
  | '\\' :: c :: _ => c = 'u' || c = 'U'
  | c :: _ => c = '_' || isLetter c
  | [] => false

def identifierTail : List Char → Except Fault Nat
  | [] => .ok 0
  | '\\' :: c :: rest =>
    if c = 'u' || c = 'U' then
      match universalDigits (universalDigitCount c) rest with
      | .error fault => .error (fault.shift 2)
      | .ok n => shifted (2 + n) (identifierTail (rest.drop n))
    else .ok 0
  | c :: rest =>
    if c = '_' || isLetter c || isDigit c then shifted 1 (identifierTail rest) else .ok 0
termination_by cs => cs.length
decreasing_by all_goals simp_wf; try omega

/-- The length of the punctuator at the front, zero if there is none. -/
def punctuatorLength (cs : List Char) : Nat :=
  match punctuators.find? fun p => p.toList.isPrefixOf cs with
  | some p => p.length
  | none => 0

/-- What tokens are formed for: the parser, or the preprocessor with or without header names. -/
inductive LexMode where
  | parsing
  | preprocessing (headerNames : Bool)
deriving Repr, DecidableEq

/-- Kind and length of the token at the front of a text; length zero if none starts there. -/
def lexemeAt (mode : LexMode) (cs : List Char) : Except Fault (TokenKind × Nat) :=
  match (if mode = .preprocessing true then headerLength? cs else none) with
  | some header => header.map fun n => (.headerName, n)
  | none =>
    match literalPrefix? cs with
    | some (kind, opening) => (literalLength kind opening cs).map fun n => (kind, n)
    | none =>
      if startsNumber cs then
        (shifted 1 (numberTail (cs.drop 1))).map fun n =>
          (if mode = .parsing then numberKind (cs.take n) else .number, n)
      else if startsIdentifier cs then
        (identifierTail cs).map fun n =>
          let isKeyword := mode = .parsing && keywords.contains (String.ofList (cs.take n))
          (if isKeyword then .keyword else .identifier, n)
      else .ok (.punctuator, punctuatorLength cs)

end CCompiler.Token

namespace CCompiler

open Text (Position)

open Token (Fault LexCause LexMode)

/-! ## 4. Scanning a text into tokens

White space and comments are skipped, the lexeme at the front becomes a token with its place, and so
on to the end of the text, which is a token as well.
-/

inductive LexError where
  | at (cause : LexCause) (position : Position)
  | noValue (digits : String)
deriving Repr, DecidableEq

def LexError.message : LexError → String
  | .at cause position => s!"{cause.message} at {position.text}"
  | .noValue digits => "invalid literal for int() with base 16: " ++ Text.quoted digits

namespace Token

/-- The error for a fault met in `cs`, whose first character stands at `p`. -/
def Fault.located (fault : Fault) (p : Position) (cs : List Char) : LexError :=
  match fault with
  | .after cause n => .at cause (p.after (cs.take n))
  | .noValue digits => .noValue (String.ofList digits)

/-- The tokens of a text whose first character stands at `p`. -/
def scanFrom (mode : LexMode) (p : Position) (cs : List Char) : Except LexError (List Token) :=
  match blankLength cs with
  | .error fault => .error (fault.located p cs)
  | .ok blank =>
    let start := p.after (cs.take blank)
    if (cs.drop blank).isEmpty then .ok [⟨.endOfFile, "", start.line, start.column⟩]
    else
      match lexemeAt mode (cs.drop blank) with
      | .error fault => .error (fault.located start (cs.drop blank))
      | .ok (kind, n) =>
        if n = 0 then .error (.at .unexpectedCharacter start)
        else
          let lexeme := (cs.drop blank).take n
          match scanFrom mode (start.after lexeme) ((cs.drop blank).drop n) with
          | .error error => .error error
          | .ok tokens => .ok (⟨kind, String.ofList lexeme, start.line, start.column⟩ :: tokens)
termination_by cs.length
decreasing_by
  simp_all [List.isEmpty_iff, List.drop_eq_nil_iff]
  omega

/-- The tokens of a source text, after line ends, trigraphs and line splices are dealt with. -/
def scan (mode : LexMode) (source : String) : Except LexError (List Token) :=
  scanFrom mode .start (Source.phaseTwo source.toList)

end Token

end CCompiler
