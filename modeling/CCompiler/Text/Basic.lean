/-!
# Texts

The C front end asks for letters, digits, white space and printable characters in their Unicode
meaning; the classes of `Char` in core know ASCII only. Each class answers ASCII directly and
looks other characters up in a list of closed ranges of the Unicode standard (version 14).

Operations on lists of characters that read directives and options: finding a text inside another,
cutting at separators, and names made of word characters.
-/
namespace CCompiler.Text

/-! ## 1. Character classes -/

/-- Closed ranges of code points, in increasing order. -/
abbrev Ranges := List (Nat × Nat)

def Ranges.has (ranges : Ranges) (code : Nat) : Bool :=
  ranges.any fun (low, high) => low ≤ code && code ≤ high

/-- Reads ranges behind a bound, where a number and, if it was read, the lower bound of the next range have
    begun. -/
def Ranges.readFrom (last number : Nat) (low : Option Nat) : List Char → Ranges
  | [] => []
  | c :: rest =>
    if c.isLower then readFrom last (26 * number + (c.toNat - 'a'.toNat)) low rest
    else if c.isUpper then
      let bound := last + 26 * number + (c.toNat - 'A'.toNat)
      match low with
      | none => readFrom bound 0 (some bound) rest
      | some low => (low, bound) :: readFrom bound 0 none rest
    else readFrom last number low rest

/-- The ranges in a text, which has for each bound how far it is behind the one before. The digits of a
    number are letters, the last of them a capital. -/
def Ranges.ofText (text : String) : Ranges := readFrom 0 0 none text.toList

/-- The letters (general category L) outside ASCII. -/
def letterRanges : Ranges := .ofText
  "gOALAFAGWCbECrPFLPEIACAfAECBDDCAHACCCACTCdECfIJgJCbLDAHbOcUbAFDbUbQbKBCdUCAQBIBLCDARACbDbEdKMAZbGKBFAGVFAK
  AEAYYIKGXCFSbPcHcBEATAIJQPFHDBDVCGCAEDEARAOBCCPBLAJFFBDVCGCBCBCBbGDCAUCRICCCVCGCBCEEATAQBYAMHDBDVCGCBCEEAb
  FBCCQASACFECCDEBCACBEBECELXAcBHCCCWCPEAbBCDADBbFAFHCCCWCJCEEAbGBCBQBSICCCbODARAGCJCZFGREXCICADGcHbVCBNGcHB
  CACECXCACJCBKADECAWDbHAcMHCbJbCEeMbQVARFFDEAEBICFMNASbLCAGADbQCmUCDDGCACDDbOCDDbGCDDGCACDDOCcECDDcObMPRdHD
  FExVDQCZGcWHHIROSPRPMCCQbZbKAFAcQdKIEDbHCAGcRLbEbYbDDEMbRFZcDWKcAdFAdQbUSHcDbDOBLbRbBbJbQCLbJDIIbQDCbQDCFC
  BEAGhJcNkRDFDbLDFDHCACACACbEDcACGCAECCGEDDFFMGCCGeNAOARMdYAFADJCAEEHACACACDCKDDGEFAcBBdzGiUHDEBNbLCAGADcDI
  ARWKGCGCGCGCGCGCGCGdDAsCBbREGBFdHHCCdLCDGbQCdPSbFbXPtTjtNcNbguEcQbTDkIEPLBVbURbEDcRbYIDdYDcLGBCACEZPCCCDCW
  bEbZPbXcLFEACBMbBLWbAbCIbUbDARECJLECbOYCCHVWEAEbXCAEBDEDACAZCDKICNFDFDFKGCGCbQCNHeKbEqnRNWFbWmnDoBDeBbNGNE
  GACJCMCECACBCBCeDbInYTcLDcBbPLeNECfEbLZHZMdKEFDFDFDCbKLCZCSCBCODNbJeSpAbCEbWbWbFOTCHHbLLbDDbJFHbXgBTbJFbJF
  bNJbZNKCOCGCBCKCOCGCBcQlYKVLHZFCbPCIcSFDACbRCBEADWLWKbEcOSCBLVLZcTcDHBcNAQDCCCbCbRbCEbCbKHCbBbCcBLVLSOReHc
  UcEbYObYObJnLbPHBdBbCLAJVbRRbVUbCWNcAcGBDAObSbHYbBbJbEADAJbIEANbVPDWACAbKRCYdHGCACDCOCJIbUbNHDBDVCGCBCEEAT
  ANEgDcATDVCbFbVVBCAhDbUbQDbLbVVAcIbQOAcUbAbMGhEbReNcLbGHDADHCBCXQACAdRHDbMRACAbDALbNIAWAMbTUATcUkEICbKSAbY
  bDeJGCBCbLWAbAFCBCbFPAmQShIAdCbjLiXhNdxLdSQbpEfzUwKmuCvWIbESdASbDTbVRDbGUGSbaNcLeZcWGAcPMcNBCAbDjbZJbvPbRI
  nfSDCGCBClEbUCSDJpFdkVeCGMEIIJiwLdGCcSCBDADBDDCLCACGCcMCDDHCGCbBCDCECAEGCnBDYCYCbECYCbECYCbECYCbECYCHcsZbE
  sObSLGRAmKbDTbRbwVGCDCBCOChOcIcPIAbuJDCbACBCADACJCDCACAHAFACACACCCBCADACACACACACBCADDCGCDCDCACJCQGCCECQgoB
  clfBbHgdSIiNDinPPlbKepKuVcfZhhY"

/-- The digits (numeric type decimal or digit) outside ASCII. -/
def digitRanges : Ranges := .ofText
  "gWBGAcdRJfFJhRJpXJePJePJePJePJePJePJePJePJePJdTJePJcTJkTJcTJbbSIbrRJbNJlPJeZKgKJHJhBJdJJfFJHJboHAEFHJblVIM
  IMIdMALICAyHICICIbvyCJbaDJbNJhRJXJdJJpRJbfmDJccLJcdBDbcVJlJIsWIMJeZJcJJfPJkTJnFJePJoLJdZJdZJqHJdZJbdFJjNJc
  TJbdbJJdJJfFJbpbXbXdnDJqHJckLJcxJKedIJ"

/-- The characters outside ASCII that have a numeric value and are neither letter nor digit. -/
def numericRanges : Ranges := .ofText
  "hGCdmSFoNFeRCfEGiKGSIqSJbpVKbhYCjWJdnZbYDEbcIKKKKKdCJKAyRAKAKAcbIAbdYAbAIPCnGDfJJbFHCObHJbOObrzRJmJFbhqObS
  NcESBnEbAbLDbEAJAfFEbsLHbAGbOIcYEXFgFBDPDbTcREcBBbFCcYEeBHZHbQGmTFnYVgDJbRDeJGfOKoQTbzYBqPIbhOSbgUUbpCeGba
  wJGbeTWblzMTeFYibVIbjUcGCCCDcZbSCOblMB"

/-- The printable characters outside ASCII. -/
def printableRanges : Ranges := .ofText
  "gFLCbbLDFFGCACTCpGCbLDbXDCCcCJbAFFSVChJCbVDcGDdWPcGDbWDOCbBDACKGbEKcVCgECHDBDVCGCAEDDIDBDDJAFBCEDYDCCFFBDV
  CGCBCBCBDACEFBDCEAIDCAIQLCCICCCVCGCBCEDJCCCCDAQDDLIGCCCHDBDVCGCBCEDIDBDCICFBCEDRLBCFECCDEBCACBEBECELFEECCD
  DAHAPUGMCCCWCPDICCCDIBCCDADDDJIVCCCWCJCEDICCCDIBHBCDDJCBOMCCCbYCCCFFPDZCCCREXCICADGEAFFCACHHJDCNcFFbCbMBCA
  CECXCACWDECACFDJDDbHcTCbJFbMCbJCOCMbMhPCAGADoMCDDGCACDDbOCDDbGCDDGCACDDOCcECDDcODbFEZHdHDFDyPCbBEdKIVKXKTN
  MCCCBNdPDJHJHNCKHdKIbQGcRLbECLFLFAEbPDEMbRFZHKEcJDcMCbCDKHJHNDbEbYcYEbUCeLJcHEOEcHIbQDKJbQGuNDFDbLDFDHCACA
  CACbEDcACOCNDFCSDCCISXJbUSBDbACMEbGQbGQfJFzMbAKWcrRDbFCnKGbSCAGADcDIBPXKGCGCGCGCGCGCGCGCeVbJZCdKNiFbBLGcKC
  dHDdYGbQCdPCdFNbUCbriQEcCKnJVhBJhUGBCACEZcGEJHcDJcRJLHeLMbDEcZCKFbGCcCKNDJDdYZbBLFDFDFKGCGCcHFeVDJHqnRNWFb
  WmnDoBDeBbNGNEGZCECACBCBCeURrCDcBIAbHbPHbYCSCDFECfEFhHEFDFDFDCEGCGOBDLCZCSCBCODNbJeSGCFbSEdJCMEAbWbTfBbCEb
  WQbBFbJKbDGbQGbDCbKFNbRgBDJHbJFbJFbNJbZMLCOCGCBCKCOCGCBcQlYKVLHZFCbPCIcSFDACbRCBEADWCcTJIbXSCBGbGEbAGAcNcD
  FTDbXCBGHCCCbCDCFJIIIcLbHbMFLKcBEbCDbAGZIDNGdDcUcEbYObYIbTJJlJbECbPCCDBdBbNJbPXZbNbBVWKcZFbJKcJCEOYIJHcACR
  JbMKdRCTMRCbRcOGCACDCOCKHcGGJHDCHDBDVCGCBCECJDBDCDAHAGGDGEEfKdNCEbFcTJJgLcBDbLbJcQMJHMUcFHJcDbADOFWhEcHdXd
  ENHDADHCBCbDCBDLKJcTHDbTDKbCcTJdEOcUkEICbSCNLbCEbFDVCNcWGCBCbREACBCIJJHFCBCbKCBCFIJlZYhCAQbXObjMdZeGCEMhNd
  xLdUObpEfzUwKmuCvWIbECJFdCCJHbDDFLcRLJCGCUGSbaNdMdYcWFcEIQcNEMBPjbZJbvPbRInfSDCGCBClEbUCSDJpFdkVeCGMEIIJDD
  gyZbTDWKeLcJjLLbMDcVJeHWcRfZTNdIKYfGdGCcSCBDADBDDCLCACGCcMCDDHCGCbBCDCECAEGCnBDlFDbaZQECObqNbEiSGCQDGCBCEi
  GbSENDJFBmJbEScFGAbwBGCDCBCOChODPbQcXFJFBbeGcPcZcIhNDCbACBCADACJCDCACAHAFACACACCCBCADACACACACACBCADDCGCDCD
  CACJCQGCCECQcBBkLbRFdVNODOCOCbKLgRcFbCObRFIIBPFfZblVGPEMEeLNdKILFAQLFcDJJHbNJbDDBdBnBNNDEEEEGKbCEKGFLJHHJG
  KfQCcCbMJbnRclfBbHgdSIiNDinPPlbKepKuVcfZhhYbotmSjF"

/-- The white-space characters, those of ASCII included. -/
def spaceRanges : Ranges := [
  (0x9, 0xd), (0x1c, 0x20), (0x85, 0x85), (0xa0, 0xa0), (0x1680, 0x1680), (0x2000, 0x200a),
  (0x2028, 0x2029), (0x202f, 0x202f), (0x205f, 0x205f), (0x3000, 0x3000)]

/-- The zeros of all decimal digit sets; the nine characters after each are its digits 1 to 9. -/
def decimalZeros : List Nat := [
  0x30, 0x660, 0x6f0, 0x7c0, 0x966, 0x9e6, 0xa66, 0xae6, 0xb66, 0xbe6, 0xc66, 0xce6, 0xd66,
  0xde6, 0xe50, 0xed0, 0xf20, 0x1040, 0x1090, 0x17e0, 0x1810, 0x1946, 0x19d0, 0x1a80, 0x1a90,
  0x1b50, 0x1bb0, 0x1c40, 0x1c50, 0xa620, 0xa8d0, 0xa900, 0xa9d0, 0xa9f0, 0xaa50, 0xabf0, 0xff10,
  0x104a0, 0x10d30, 0x11066, 0x110f0, 0x11136, 0x111d0, 0x112f0, 0x11450, 0x114d0, 0x11650,
  0x116c0, 0x11730, 0x118e0, 0x11950, 0x11c50, 0x11d50, 0x11da0, 0x16a60, 0x16ac0, 0x16b50,
  0x1d7ce, 0x1d7d8, 0x1d7e2, 0x1d7ec, 0x1d7f6, 0x1e140, 0x1e2f0, 0x1e950, 0x1fbf0]

def isLetter (c : Char) : Bool :=
  if c.toNat < 0x80 then c.isAlpha else letterRanges.has c.toNat

/-- A digit of any script, superscripts and circled digits included. -/
def isDigit (c : Char) : Bool :=
  if c.toNat < 0x80 then c.isDigit else digitRanges.has c.toNat

/-- A letter, a digit or another character with a numeric value. -/
def isAlphanumeric (c : Char) : Bool :=
  isLetter c || isDigit c || (if c.toNat < 0x80 then false else numericRanges.has c.toNat)

def isWordChar (c : Char) : Bool :=
  c == '_' || isAlphanumeric c

def isSpace (c : Char) : Bool :=
  spaceRanges.has c.toNat

def isPrintable (c : Char) : Bool :=
  if c.toNat < 0x80 then 0x20 ≤ c.toNat && c.toNat < 0x7f else printableRanges.has c.toNat

def decimalValue? (c : Char) : Option Nat :=
  (decimalZeros.find? fun start => start ≤ c.toNat && c.toNat < start + 10).map (c.toNat - ·)

/-! ## 2. Reading integers

Digits of any script count, by their decimal value; letters stand for ten and up in bases above ten.
White space around the number, a sign, the prefix that names the base and single underscores between
digits are allowed.
-/

def digitValue? (c : Char) : Option Nat :=
  if 'a' ≤ c ∧ c ≤ 'z' then some (c.toNat - 'a'.toNat + 10)
  else if 'A' ≤ c ∧ c ≤ 'Z' then some (c.toNat - 'A'.toNat + 10)
  else decimalValue? c

/-- The value of a run of digits in a base; `none` for a character that is no digit of it. -/
def digitsValue? (base : Nat) (digits : List Char) : Option Nat :=
  digits.foldlM (fun value c => do
    let d ← digitValue? c
    if d < base then return value * base + d else none) 0

/-- Single underscores between characters vanish; at an end or doubled they are refused. -/
def dropUnderscores? : List Char → Option (List Char)
  | [] => some []
  | ['_'] => none
  | '_' :: _ => none
  | [c] => some [c]
  | c :: '_' :: d :: rest =>
    if d = '_' then none else (dropUnderscores? (d :: rest)).map (c :: ·)
  | c :: rest => (dropUnderscores? rest).map (c :: ·)

/-- The letter that follows a zero to announce a base. -/
def basePrefix? (base : Nat) : Option Char :=
  if base = 16 then some 'x' else if base = 8 then some 'o' else if base = 2 then some 'b' else none

/-- The digits after the announcement of the base, if there is one; one underscore may follow it. -/
def dropBasePrefix (base : Nat) (cs : List Char) : List Char :=
  match cs with
  | '0' :: letter :: rest =>
    if basePrefix? base = some letter.toLower then
      match rest with
      | '_' :: digits => digits
      | digits => digits
    else cs
  | _ => cs

def trimSpace (cs : List Char) : List Char :=
  ((cs.dropWhile isSpace).reverse.dropWhile isSpace).reverse

/-- White space around a number; the separators of files, groups, records and units are none. -/
def isNumberSpace (c : Char) : Bool := isSpace c && !('\x1c' ≤ c && c ≤ '\x1f')

def trimNumber (cs : List Char) : List Char :=
  ((cs.dropWhile isNumberSpace).reverse.dropWhile isNumberSpace).reverse

/-- Whether a number has a minus sign, and the number without its sign. -/
def cutSign (cs : List Char) : Bool × List Char :=
  match cs with
  | '-' :: rest => (true, rest)
  | '+' :: rest => (false, rest)
  | rest => (false, rest)

def maxDecimalDigits : Nat := 4300

/-- The count of digits that a decimal number begins with, if it is too great. Other bases have no bound. -/
def excessDigits? (base : Nat) (cs : List Char) : Option Nat := do
  if base != 10 then none
  let run := (cutSign (trimNumber cs)).2.takeWhile fun c => c == '_' || (digitValue? c).any (· < base)
  let digits ← dropUnderscores? run
  if digits.length ≤ maxDecimalDigits then none else some digits.length

def magnitude? (base : Nat) (cs : List Char) : Option Nat := do
  let digits ← dropUnderscores? (dropBasePrefix base cs)
  if digits.isEmpty then none else digitsValue? base digits

def readInteger? (base : Nat) (cs : List Char) : Option Int :=
  let (isNegative, rest) := cutSign (trimNumber cs)
  if (excessDigits? base cs).isSome then none
  else (magnitude? base rest).map fun n => if isNegative then -(n : Int) else n

/-! ## 3. Quoted texts

A text inside a message stands in quotes: single ones, or double ones when it holds a single quote and
no double one. Backslashes and the enclosing quote are escaped, and characters that do not print are
written by number.
-/

/-- A number in lower-case hexadecimal, padded with zeros to a width. -/
def hexPadded (width n : Nat) : String :=
  let digits := Nat.toDigits 16 n
  String.ofList (List.replicate (width - digits.length) '0' ++ digits)

def quotedChar (quote c : Char) : String :=
  if c = quote || c = '\\' then String.ofList ['\\', c]
  else if c = '\n' then "\\n"
  else if c = '\r' then "\\r"
  else if c = '\t' then "\\t"
  else if isPrintable c then c.toString
  else if c.toNat < 0x100 then "\\x" ++ hexPadded 2 c.toNat
  else if c.toNat < 0x10000 then "\\u" ++ hexPadded 4 c.toNat
  else "\\U" ++ hexPadded 8 c.toNat

def quoteFor (text : String) : Char :=
  if text.contains '\'' && !text.contains '"' then '"' else '\''

def quoted (text : String) : String :=
  let quote := quoteFor text
  quote.toString ++ String.join (text.toList.map (quotedChar quote)) ++ quote.toString

def quotedList (texts : List String) : String :=
  "[" ++ ", ".intercalate (texts.map quoted) ++ "]"

/-! ## 4. Texts and names -/

def trimFront (cs : List Char) : List Char := cs.dropWhile isSpace

def trimEnd (cs : List Char) : List Char := (cs.reverse.dropWhile isSpace).reverse

def wordsFrom (begun : List Char) : List Char → List (List Char)
  | [] => if begun.isEmpty then [] else [begun.reverse]
  | c :: rest =>
    if isSpace c then
      if begun.isEmpty then wordsFrom [] rest else begun.reverse :: wordsFrom [] rest
    else wordsFrom (c :: begun) rest

def words (cs : List Char) : List (List Char) := wordsFrom [] cs

/-- The first word of a text and all that follows the white space behind it. -/
def firstWord (cs : List Char) : List Char × List Char :=
  let rest := trimFront cs
  (rest.takeWhile (!isSpace ·), trimFront (rest.dropWhile (!isSpace ·)))

/-- What stands before the first occurrence of a text and what stands behind it. -/
def cutAt? (needle : List Char) : List Char → Option (List Char × List Char)
  | [] => if needle.isEmpty then some ([], []) else none
  | c :: rest =>
    if needle.isPrefixOf (c :: rest) then some ([], (c :: rest).drop needle.length)
    else (cutAt? needle rest).map fun (before, behind) => (c :: before, behind)

def occursIn (needle cs : List Char) : Bool := (cutAt? needle cs).isSome

/-- The parts of a text between separators, where a part has begun with some characters, the last of
    them first. -/
def splitFrom (separator : Char) (begun : List Char) : List Char → List (List Char)
  | [] => [begun.reverse]
  | c :: rest =>
    if c == separator then begun.reverse :: splitFrom separator [] rest
    else splitFrom separator (c :: begun) rest

def splitOn (separator : Char) (cs : List Char) : List (List Char) := splitFrom separator [] cs

def startsName (c : Char) : Bool := c == '_' || (c.toNat < 0x80 && c.isAlpha)

def nameAt? : List Char → Option (List Char × List Char)
  | [] => none
  | c :: rest =>
    if startsName c then some (c :: rest.takeWhile isWordChar, rest.dropWhile isWordChar) else none

def isName (cs : List Char) : Bool :=
  match nameAt? cs with
  | some (_, []) => true
  | _ => false

def isPlainName (cs : List Char) : Bool := isName cs && cs.all fun c => c.toNat < 0x80

/-- Whether a word ends or begins between two characters, of which one may be missing. -/
def isWordBoundary (before behind : Option Char) : Bool :=
  before.any isWordChar != behind.any isWordChar

/-- What stands behind the first place where a text stands as a word of its own, where a character stands
    before all. -/
def behindWord? (word : List Char) (before : Option Char) : List Char → Option (List Char)
  | [] => none
  | c :: rest =>
    let behind := (c :: rest).drop word.length
    if word.isPrefixOf (c :: rest) && isWordBoundary before (some c)
        && isWordBoundary word.getLast? behind.head? then some behind
    else behindWord? word (some c) rest

/-- The text with every word of a table replaced, where a character stands before all and the first
    characters are skipped. -/
def replaceWordsFrom (table : List (List Char × List Char)) (before : Option Char) : Nat → List Char → List Char
  | _, [] => []
  | skip + 1, c :: rest => replaceWordsFrom table (some c) skip rest
  | 0, c :: rest =>
    let isHere (word : List Char) : Bool :=
      word.isPrefixOf (c :: rest) && isWordBoundary before (some c)
        && isWordBoundary word.getLast? ((c :: rest).drop word.length).head?
    match table.find? (isHere ·.1) with
    | some (word, replacement) => replacement ++ replaceWordsFrom table (some c) (word.length - 1) rest
    | none => c :: replaceWordsFrom table (some c) 0 rest

/-- The text with every word of a table replaced. Longer words come first. -/
def replaceWords (table : List (List Char × List Char)) (cs : List Char) : List Char :=
  replaceWordsFrom (table.mergeSort fun a b => b.1.length ≤ a.1.length) none 0 cs

end CCompiler.Text
