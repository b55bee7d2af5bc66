import CCompiler.Text.Basic

/-!
# Integers

An integer is an infinite two's complement word: a negative one has infinitely many leading ones.

An integer has no bounds, but there are bounds to what is done with one: a decimal text has at most 4300
digits, whether it is read or written, and a shifted integer has to fit into memory.
-/
namespace CCompiler.Bits

def and : Int → Int → Int
  | .ofNat m, .ofNat n => (m &&& n : Nat)
  | .ofNat m, .negSucc n => (m ^^^ (m &&& n) : Nat)
  | .negSucc m, .ofNat n => (n ^^^ (n &&& m) : Nat)
  | .negSucc m, .negSucc n => .negSucc (m ||| n)

def or : Int → Int → Int
  | .ofNat m, .ofNat n => (m ||| n : Nat)
  | .ofNat m, .negSucc n => .negSucc (n ^^^ (n &&& m))
  | .negSucc m, .ofNat n => .negSucc (m ^^^ (m &&& n))
  | .negSucc m, .negSucc n => .negSucc (m &&& n)

def xor : Int → Int → Int
  | .ofNat m, .ofNat n => (m ^^^ n : Nat)
  | .ofNat m, .negSucc n => .negSucc (m ^^^ n)
  | .negSucc m, .ofNat n => .negSucc (m ^^^ n)
  | .negSucc m, .negSucc n => (m ^^^ n : Nat)

def not (n : Int) : Int := -n - 1

def shiftLeft (n : Int) (count : Nat) : Int := if n = 0 then 0 else n * Nat.pow 2 count

/-- Moved to the right, rounding down. A count beyond the bits leaves only the sign. -/
def shiftRight (n : Int) (count : Nat) : Int := n >>> min count (n.natAbs.log2 + 1)

end CCompiler.Bits

namespace CCompiler

/-- Why there is no integer: the text has none in its base, or too many decimal digits; the integer has
    too many digits to be written, or too many bits to be held, or even to be counted. -/
inductive NumberFault where
  | malformed (base : Nat) (text : String)
  | tooManyDigits (count : Nat)
  | unwritable
  | noRoom
  | uncountable
deriving Repr, DecidableEq

namespace NumberFault

def shownLength : Nat := 200

def limitText (count : String) : String :=
  s!"Exceeds the limit ({Text.maxDecimalDigits} digits) for integer string conversion" ++ count
    ++ "; use sys.set_int_max_str_digits() to increase the limit"

def message : NumberFault → String
  | .malformed base text =>
    s!"invalid literal for int() with base {base}: "
      ++ String.ofList ((Text.quoted text).toList.take shownLength)
  | .tooManyDigits count => limitText s!": value has {count} digits"
  | .unwritable => limitText ""
  | .noRoom => ""
  | .uncountable => "too many digits in integer"

def isOfValue : NumberFault → Bool
  | .malformed .. | .tooManyDigits _ | .unwritable => true
  | .noRoom | .uncountable => false

end NumberFault

namespace Number

def ofText (base : Nat) (text : List Char) : Except NumberFault Int :=
  match Text.readInteger? base text with
  | some n => .ok n
  | none =>
    match Text.excessDigits? base text with
    | some count => .error (.tooManyDigits count)
    | none => .error (.malformed base (String.ofList text))

/-- Whether an integer has few enough digits to be written. An integer of fewer than 14285 bits is below
    the bound, so most need no comparison with it. -/
def isWritable (n : Int) : Bool :=
  n.natAbs.log2 < 14284 || n.natAbs < Nat.pow 10 Text.maxDecimalDigits

def writable (n : Int) : Except NumberFault Int := if isWritable n then .ok n else .error .unwritable

def maxBits : Nat := 0x1000000000

def maxPlaces : Nat := 2305843009213693945

/-- Whether there is room for an integer that is moved to the left. Zero stays zero; any other gains
    bits. -/
def room (n : Int) (count : Nat) : Except NumberFault Unit :=
  if n = 0 then .ok ()
  else if n.natAbs.log2 / 30 + 1 + (count + 29) / 30 > maxPlaces then .error .uncountable
  else if n.natAbs.log2 + count ≥ maxBits then .error .noRoom
  else .ok ()

def shiftLeft (n : Int) (count : Nat) : Except NumberFault Int := do
  room n count
  return Bits.shiftLeft n count

end Number

end CCompiler
