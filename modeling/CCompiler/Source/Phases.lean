/-!
# The first two phases of C source text

Before tokens are formed, line ends become newlines, trigraphs become the characters they stand
for, and a backslash at the end of a line joins the next line to it.
-/
namespace CCompiler.Source

/-- Every line end, `\r\n` or a lone `\r`, becomes a newline. -/
def unifyLineEnds : List Char → List Char
  | [] => []
  | '\r' :: '\n' :: rest => '\n' :: unifyLineEnds rest
  | '\r' :: rest => '\n' :: unifyLineEnds rest
  | c :: rest => c :: unifyLineEnds rest

/-- The character that `??` followed by `c` stands for. -/
def trigraph? (c : Char) : Option Char :=
  match c with
  | '=' => some '#'
  | '/' => some '\\'
  | '\'' => some '^'
  | '(' => some '['
  | ')' => some ']'
  | '!' => some '|'
  | '<' => some '\x7b'
  | '>' => some '\x7d'
  | '-' => some '~'
  | _ => none

/-- Every trigraph becomes its character; reading goes on after the trigraph. -/
def replaceTrigraphs : List Char → List Char
  | '?' :: '?' :: c :: rest =>
    match trigraph? c with
    | some d => d :: replaceTrigraphs rest
    | none => '?' :: replaceTrigraphs ('?' :: c :: rest)
  | c :: rest => c :: replaceTrigraphs rest
  | [] => []

/-- A backslash and the newline after it vanish. -/
def spliceLines : List Char → List Char
  | '\\' :: '\n' :: rest => spliceLines rest
  | c :: rest => c :: spliceLines rest
  | [] => []

def phaseTwo (cs : List Char) : List Char :=
  spliceLines (replaceTrigraphs (unifyLineEnds cs))

def phaseTwoText (source : String) : String :=
  String.ofList (phaseTwo source.toList)

end CCompiler.Source
