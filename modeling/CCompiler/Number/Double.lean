import CCompiler.Text.Basic

/-!
# Numbers of double precision

A finite number of double precision is a whole number of at most 53 bits times a power of two. It is
read as the one nearest to a decimal, the even one of two, and written with the fewest digits that read
back as the same number.
-/
namespace CCompiler

/-- A number of double precision; infinities and the value that is none stand apart. -/
inductive Double where
  | finite (isNegative : Bool) (bits : Nat) (exponent : Int)
  | infinite (isNegative : Bool)
  | nan
deriving Repr, DecidableEq, Inhabited

namespace Double

/-- The quotient that is nearest, the even one of two. -/
def roundDiv (num den : Nat) : Nat :=
  let q := num / den
  let r := num % den
  if 2 * r < den then q else if den < 2 * r then q + 1 else q + q % 2

def scale (base : Nat) (exponent : Int) (num den : Nat) : Nat × Nat :=
  if 0 ≤ exponent then (num * Nat.pow base exponent.toNat, den) else (num, den * Nat.pow base (-exponent).toNat)

def hiddenBit : Nat := 0x10000000000000

def leastExponent : Int := -1074

def greatestExponent : Int := 971

def ofFraction (isNegative : Bool) (num den : Nat) : Double :=
  let estimate : Int := (num.log2 : Int) - den.log2 - 52
  let whole (e : Int) : Nat := let (n, d) := scale 2 (-e) num den; n / d
  let tight := if whole estimate < hiddenBit then estimate - 1 else estimate
  let e := max tight leastExponent
  let (n, d) := scale 2 (-e) num den
  let m := roundDiv n d
  let (m, e) := if m = 2 * hiddenBit then (hiddenBit, e + 1) else (m, e)
  if e > greatestExponent then .infinite isNegative else .finite isNegative m e

/-- The number nearest to digits times a power of ten. -/
def ofDecimal (isNegative : Bool) (digits : Nat) (exponent : Int) : Double :=
  if digits = 0 then .finite isNegative 0 0
  else if exponent > 400 then .infinite isNegative
  else if exponent + (digits.log2 : Nat) < -1200 then .finite isNegative 0 0
  else
    let (num, den) := scale 10 exponent digits 1
    ofFraction isNegative num den

def digitsValue (cs : List Char) : Nat := cs.foldl (fun n c => n * 10 + (c.toNat - 48)) 0

def readExponent? (cs : List Char) : Option Int :=
  match cs with
  | [] => some 0
  | c :: rest =>
    if c == 'e' || c == 'E' then
      let (isNegative, digits) := match rest with
        | '-' :: ds => (true, ds)
        | '+' :: ds => (false, ds)
        | ds => (false, ds)
      if digits.isEmpty || !digits.all Char.isDigit then none
      else
        let n : Int := digitsValue digits
        some (if isNegative then -n else n)
    else none

/-- Reads a decimal without a sign: digits, perhaps a point, perhaps an exponent. -/
def readDecimal? (isNegative : Bool) (cs : List Char) : Option Double := do
  let whole := cs.takeWhile Char.isDigit
  let rest := cs.drop whole.length
  let (fraction, rest) := match rest with
    | '.' :: behind => (behind.takeWhile Char.isDigit, behind.dropWhile Char.isDigit)
    | rest => ([], rest)
  if whole.isEmpty && fraction.isEmpty then none
  let exponent ← readExponent? rest
  return ofDecimal isNegative (digitsValue (whole ++ fraction)) (exponent - fraction.length)

/-- A character of a number in ASCII: a digit of any script becomes the digit of its value. -/
def plainChar (c : Char) : Char := ((Text.decimalValue? c).map fun d => Char.ofNat (48 + d)).getD c

/-- The characters of a number without the underscores between digits, where a character stands before
    all; other underscores are refused. -/
def dropMarks? (before : Option Char) : List Char → Option (List Char)
  | [] => some []
  | c :: rest =>
    if c = '_' then
      if before.any Char.isDigit && rest.head?.any Char.isDigit then dropMarks? (some c) rest else none
    else (dropMarks? (some c) rest).map (c :: ·)

/-- Reads a number: a decimal, an infinity, or the value that is none. White space around it does not
    count. -/
def ofText? (cs : List Char) : Option Double := do
  let (isNegative, body) := Text.cutSign (Text.trimNumber cs)
  let body ← dropMarks? none (body.map plainChar)
  let word := String.ofList (body.map Char.toLower)
  if word = "inf" || word = "infinity" then some (.infinite isNegative)
  else if word = "nan" then some .nan
  else readDecimal? isNegative body

/-- The place of the first digit of a positive fraction: the greatest power of ten that is not above
    it. -/
def magnitude (num den : Nat) : Int :=
  if den ≤ num then ((toString (num / den)).length : Int) - 1
  else
    let n : Int := ((toString (den / num)).length : Int) - 1
    let (scaled, unit) := scale 10 n num den
    if unit ≤ scaled then -n else -n - 1

/-- Whether digits times a power of ten lie between two fractions with one denominator; the ends count
    if they may. -/
def within (digits : Nat) (exponent : Int) (low high den : Nat) (ends : Bool) : Bool :=
  let (d, u) := scale 10 exponent digits 1
  if ends then low * u ≤ d * den && d * den ≤ high * u else low * u < d * den && d * den < high * u

/-- So many digits that read back as a number between two fractions, the nearer of the two that enclose
    it, with their power of ten. -/
def digits? (count : Nat) (num low high den : Nat) (ends : Bool) : Option (Nat × Int) :=
  let exponent := magnitude num den - count + 1
  let (n, d) := scale 10 (-exponent) num den
  let down := n / d
  let hits := [down, down + 1].filter fun k => within k exponent low high den ends
  match hits with
  | [] => none
  | [k] => some (k, exponent)
  | k :: _ => some (if 2 * (n % d) ≤ d then k else k + 1, exponent)

/-- The fewest digits that read back as a positive number, and their power of ten. -/
def shortest (bits : Nat) (exponent : Int) : Nat × Int :=
  let lowGap := if bits = hiddenBit && exponent > leastExponent then 1 else 2
  let (num, den) := scale 2 (exponent - 2) (4 * bits) 1
  let (low, _) := scale 2 (exponent - 2) (4 * bits - lowGap) 1
  let (high, _) := scale 2 (exponent - 2) (4 * bits + 2) 1
  ((List.range 17).findSome? fun i => digits? (i + 1) num low high den (bits % 2 == 0)).getD (bits, exponent)

/-- Digits without the zeros at their end, and the power of ten that makes up for them. -/
def withoutZeros (digits : Nat) (exponent : Int) : List Char × Int :=
  let cs := (toString digits).toList
  let zeros := (cs.reverse.takeWhile (· == '0')).length
  (cs.take (cs.length - zeros), exponent + zeros)

def positional (digits : List Char) (place : Int) : String :=
  if place < 0 then "0." ++ String.ofList (List.replicate (-place - 1).toNat '0' ++ digits)
  else
    let whole := digits.take (place.toNat + 1)
    let padded := whole ++ List.replicate (place.toNat + 1 - whole.length) '0'
    let fraction := digits.drop (place.toNat + 1)
    String.ofList padded ++ "." ++ (if fraction.isEmpty then "0" else String.ofList fraction)

/-- Digits with one before the point and a power of ten of two digits or more. -/
def scientific (digits : List Char) (place : Int) : String :=
  let fraction := digits.drop 1
  let mantissa := String.ofList (digits.take 1) ++
    (if fraction.isEmpty then "" else "." ++ String.ofList fraction)
  let power := toString place.natAbs
  let sign := if place < 0 then "e-" else "e+"
  mantissa ++ sign ++ (if power.length < 2 then "0" ++ power else power)

/-- The text of a number: positional from a ten-thousandth up to below ten to the sixteenth. -/
def text : Double → String
  | .nan => "nan"
  | .infinite isNegative => if isNegative then "-inf" else "inf"
  | .finite isNegative bits exponent =>
    let sign := if isNegative then "-" else ""
    if bits = 0 then sign ++ "0.0"
    else
      let (n, e) := shortest bits exponent
      let (digits, e) := withoutZeros n e
      let place := e + digits.length - 1
      sign ++ (if -4 ≤ place && place < 16 then positional digits place else scientific digits place)

end Double

end CCompiler
