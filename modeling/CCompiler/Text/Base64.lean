/-!
# Base 64

Three bytes are written as four characters of six bits each. A last group of fewer bytes is filled up
with equal signs.
-/
namespace CCompiler.Text.Base64

def alphabet : List Char := "ABCDEFGHIJKLMNOPQRSTUVWXYZabcdefghijklmnopqrstuvwxyz0123456789+/".toList

def digit (n : Nat) : Char := alphabet.getD (n % 64) '='

def encode : List UInt8 → List Char
  | a :: b :: c :: rest =>
    let n := a.toNat * 65536 + b.toNat * 256 + c.toNat
    digit (n / 262144) :: digit (n / 4096) :: digit (n / 64) :: digit n :: encode rest
  | [a, b] =>
    let n := a.toNat * 65536 + b.toNat * 256
    [digit (n / 262144), digit (n / 4096), digit (n / 64), '=']
  | [a] =>
    let n := a.toNat * 65536
    [digit (n / 262144), digit (n / 4096), '=', '=']
  | [] => []

/-- The bytes of numbers of six bits, where some bits of a byte are there already. -/
def bytesFrom (bits count : Nat) : List Nat → List UInt8
  | [] => []
  | n :: rest =>
    let bits := bits * 64 + n
    if count < 2 then bytesFrom bits (count + 6) rest
    else
      let unit := Nat.pow 2 (count - 2)
      UInt8.ofNat (bits / unit) :: bytesFrom (bits % unit) (count - 2) rest

/-- The bytes of a text. Characters outside the alphabet do not count. -/
def decode (cs : List Char) : List UInt8 := bytesFrom 0 0 (cs.filterMap (alphabet.idxOf? ·))

end CCompiler.Text.Base64
