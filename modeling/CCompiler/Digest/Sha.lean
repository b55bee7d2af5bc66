import CCompiler.Text.Lines

/-!
# Digests

A message is padded with a one, zeros and its length in bits, and taken up in blocks of sixteen words of
32 bits each. What a block does to the state is up to the digest.
-/
namespace CCompiler.Digest

def rotateLeft (w : UInt32) (n : UInt32) : UInt32 := (w <<< n) ||| (w >>> (32 - n))

def rotateRight (w : UInt32) (n : UInt32) : UInt32 := (w >>> n) ||| (w <<< (32 - n))

/-- The bytes of a number, the highest first. -/
def bigEndian (count n : Nat) : List UInt8 :=
  ((List.range count).map fun i => UInt8.ofNat (n / Nat.pow 256 i)).reverse

def padding (size : Nat) : List UInt8 :=
  [0x80] ++ List.replicate ((119 - size % 64) % 64) 0 ++ bigEndian 8 (8 * size)

/-- What has been taken up: the state, the words of a block that has begun, last first, how many there
    are, and the word that has begun with how many bytes. -/
structure Intake where
  state : List UInt32
  words : List UInt32 := []
  count : Nat := 0
  word : UInt32 := 0
  bytes : Nat := 0

def Intake.add (compress : List UInt32 → List UInt32 → List UInt32) (t : Intake) (b : UInt8) : Intake :=
  let word := (t.word <<< 8) ||| b.toUInt32
  if t.bytes < 3 then { t with word, bytes := t.bytes + 1 }
  else if t.count < 15 then
    { t with words := word :: t.words, count := t.count + 1, word := 0, bytes := 0 }
  else { state := compress t.state (word :: t.words).reverse }

def run (compress : List UInt32 → List UInt32 → List UInt32) (start : List UInt32)
    (message : List UInt8) : List UInt32 :=
  ((padding message.length).foldl (Intake.add compress)
    (message.foldl (Intake.add compress) { state := start })).state

def hex (words : List UInt32) : String :=
  String.join (words.map fun w => String.join ((bigEndian 4 w.toNat).map Text.hexByte))

end CCompiler.Digest

namespace CCompiler.Digest.Sha1

def start : List UInt32 := [0x67452301, 0xEFCDAB89, 0x98BADCFE, 0x10325476, 0xC3D2E1F0]

def mix (round : Nat) (b c d : UInt32) : UInt32 × UInt32 :=
  if round < 20 then ((b &&& c) ||| ((~~~b) &&& d), 0x5A827999)
  else if round < 40 then (b ^^^ c ^^^ d, 0x6ED9EBA1)
  else if round < 60 then ((b &&& c) ||| (b &&& d) ||| (c &&& d), 0x8F1BBCDC)
  else (b ^^^ c ^^^ d, 0xCA62C1D6)

/-- The sixteen words from the next round on. -/
def advance (window : List UInt32) : List UInt32 :=
  let w (i : Nat) : UInt32 := window.getD i 0
  window.drop 1 ++ [rotateLeft (w 13 ^^^ w 8 ^^^ w 2 ^^^ w 0) 1]

/-- One round on the working state and the words from it on. -/
def round : List UInt32 × List UInt32 → Nat → List UInt32 × List UInt32
  | ([a, b, c, d, e], window), i =>
    let (f, k) := mix i b c d
    ([rotateLeft a 5 + f + e + k + window.headD 0, a, rotateLeft b 30, c, d], advance window)
  | other, _ => other

def compress (state block : List UInt32) : List UInt32 :=
  List.zipWith (· + ·) state ((List.range 80).foldl round (state, block)).1

def hexDigest (message : List UInt8) : String := hex (run compress start message)

end CCompiler.Digest.Sha1

namespace CCompiler.Digest.Sha256

def start : List UInt32 :=
  [0x6A09E667, 0xBB67AE85, 0x3C6EF372, 0xA54FF53A, 0x510E527F, 0x9B05688C, 0x1F83D9AB, 0x5BE0CD19]

def constants : List UInt32 :=
  [0x428A2F98, 0x71374491, 0xB5C0FBCF, 0xE9B5DBA5, 0x3956C25B, 0x59F111F1, 0x923F82A4, 0xAB1C5ED5,
   0xD807AA98, 0x12835B01, 0x243185BE, 0x550C7DC3, 0x72BE5D74, 0x80DEB1FE, 0x9BDC06A7, 0xC19BF174,
   0xE49B69C1, 0xEFBE4786, 0x0FC19DC6, 0x240CA1CC, 0x2DE92C6F, 0x4A7484AA, 0x5CB0A9DC, 0x76F988DA,
   0x983E5152, 0xA831C66D, 0xB00327C8, 0xBF597FC7, 0xC6E00BF3, 0xD5A79147, 0x06CA6351, 0x14292967,
   0x27B70A85, 0x2E1B2138, 0x4D2C6DFC, 0x53380D13, 0x650A7354, 0x766A0ABB, 0x81C2C92E, 0x92722C85,
   0xA2BFE8A1, 0xA81A664B, 0xC24B8B70, 0xC76C51A3, 0xD192E819, 0xD6990624, 0xF40E3585, 0x106AA070,
   0x19A4C116, 0x1E376C08, 0x2748774C, 0x34B0BCB5, 0x391C0CB3, 0x4ED8AA4A, 0x5B9CCA4F, 0x682E6FF3,
   0x748F82EE, 0x78A5636F, 0x84C87814, 0x8CC70208, 0x90BEFFFA, 0xA4506CEB, 0xBEF9A3F7, 0xC67178F2]

/-- The sixteen words from the next round on. -/
def advance (window : List UInt32) : List UInt32 :=
  let w (i : Nat) : UInt32 := window.getD i 0
  let s0 := rotateRight (w 1) 7 ^^^ rotateRight (w 1) 18 ^^^ (w 1 >>> 3)
  let s1 := rotateRight (w 14) 17 ^^^ rotateRight (w 14) 19 ^^^ (w 14 >>> 10)
  window.drop 1 ++ [w 0 + s0 + w 9 + s1]

/-- One round on the working state and the words from it on. -/
def round : List UInt32 × List UInt32 → UInt32 → List UInt32 × List UInt32
  | ([a, b, c, d, e, f, g, h], window), k =>
    let s1 := rotateRight e 6 ^^^ rotateRight e 11 ^^^ rotateRight e 25
    let choice := (e &&& f) ^^^ ((~~~e) &&& g)
    let t1 := h + s1 + choice + k + window.headD 0
    let s0 := rotateRight a 2 ^^^ rotateRight a 13 ^^^ rotateRight a 22
    let majority := (a &&& b) ^^^ (a &&& c) ^^^ (b &&& c)
    ([t1 + s0 + majority, a, b, c, d + t1, e, f, g], advance window)
  | other, _ => other

def compress (state block : List UInt32) : List UInt32 :=
  List.zipWith (· + ·) state (constants.foldl round (state, block)).1

def hexDigest (message : List UInt8) : String := hex (run compress start message)

end CCompiler.Digest.Sha256
