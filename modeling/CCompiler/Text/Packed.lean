/-!
# Packed text

A long text of few different letters is kept as digits. Every letter is six bits. Each bit is guessed from
what stands before it, and the digits tell whether the guess was right: they are the places of a number, and
each bit divides the interval in which this number lies in proportion to the guess. Eleven guesses are made,
from the last letters and words, the last mark and the name before. They are weighed by how good they were so
far.

* `unpack` -- the text that digits stand for.
-/
namespace CCompiler.Text.Packed

/-- Marks, and behind them the letters of words. -/
def letters : Array Char :=
  ("!$%&()*+.:;<,/=>?^_|~ \n-0123456789AEIOUYHWRLMNTDSZCGKQXBPFVJ".toList).toArray

/-- The chances at the odds -2048, -1920 and so on, in parts of 4096. -/
def knots : Array Nat :=
  #[1, 2, 3, 6, 10, 16, 27, 45, 73, 120, 194, 310, 488, 747, 1101, 1546, 2047, 2549, 2994, 3348, 3607, 3785,
    3901, 3975, 4024, 4050, 4068, 4079, 4085, 4089, 4092, 4093, 4094]

def bounded (odds : Int) : Int := max (-2047) (min 2047 odds)

/-- The chance at odds between two knots. -/
def chanceOf (odds : Int) : Nat :=
  let place := (bounded odds + 2048).toNat
  let way := place % 128
  (knots.getD (place / 128) 0 * (128 - way) + knots.getD (place / 128 + 1) 0 * way + 64) / 128

def leastOdds : Array Int :=
  (List.range 4095).foldl (fun table (n : Nat) =>
    let odds : Int := n - 2047
    table ++ Array.replicate (chanceOf odds + 1 - table.size) odds) #[]

/-- A chance, in parts of 65536, moved towards a bit by one part of the way. -/
def toward (bit : Bool) (part chance : Nat) : Nat :=
  if bit then chance + (65535 - chance) / part else chance - chance / part

/-- What a bit was the last times, twelve at most: a one and these bits, as a number. -/
abbrev History := Nat

def History.saw (bit : Bool) (h : History) : History :=
  let next := 2 * h + bit.toNat
  if next < 8192 then next else next % 4096 + 4096

/-- The chances behind all histories, as long as none was seen: the last bits count most. -/
def firstChances : Array Nat :=
  (List.range 8190).foldl (fun chances n =>
    let h := n + 2
    chances.push (toward (h % 2 == 1) (min 6 (h.log2 + 1)) (chances.getD (h / 2) 0))) #[0, 0x8000]

/-- A number for what is known so far and one thing more. -/
def mix (known more : UInt32) : UInt32 :=
  let product := (known + more + 1) * 0x9E3779B1
  product ^^^ (product >>> 15)

def leading : Nat := Nat.pow 89 4

def guessCount : Nat := 11

/-- Where reading stands: the digits that are left, the interval and the number in it, as far as their first
    five digits tell, the history of each bit in its surroundings in two bytes, the chances behind each history
    for each guess, the weights of the guesses, and what chances turned out to be. -/
structure Reader where
  digits : List Nat
  low : Nat := 0
  high : Nat := 89 * leading - 1
  value : Nat := 0
  histories : ByteArray := Nat.repeat (fun bytes => bytes ++ bytes) 25 ⟨#[1, 0]⟩
  chances : Array Nat := (Array.replicate guessCount firstChances).flatten
  weights : Array Int := Array.replicate (guessCount * 1088) 12000
  corrections : Array Nat :=
    (Array.replicate 4096 ((Array.range 33).map fun (n : Nat) => 16 * chanceOf (128 * n - 2048))).flatten

/-- Drops the first digits that the bounds of the interval share, at most some number of them. -/
def Reader.drop (r : Reader) : Nat → Reader
  | 0 => r
  | n + 1 =>
    if r.low / leading = r.high / leading then
      { r with
        digits := r.digits.tail, low := r.low % leading * 89, high := r.high % leading * 89 + 88,
        value := r.value % leading * 89 + r.digits.headD 0 : Reader }.drop n
    else r

/-- Odds mixed by the weights from some place on. -/
def mixed (weights : Array Int) (first : Nat) (odds : Array Int) : Int :=
  bounded (guessCount.fold (fun n _ sum => sum + weights.getD (first + n) 0 * odds.getD n 0) 0 / 0x10000)

/-- The weights after a bit that was guessed with some sum of odds: those grow that spoke for it. -/
def reweighed (bit : Bool) (odds : Array Int) (weights : Array Int) (first : Nat) (sum : Int) : Array Int :=
  let miss : Int := (if bit then 4096 else 0) - chanceOf sum
  guessCount.fold (fun n _ weights =>
    weights.modify (first + n) (· + (odds.getD n 0 * miss + 300) / 600)) weights

/-- Reads a bit of a letter, given its surroundings, the letter before, the place in the name, the place in the
    word and the bits that are read. -/
def Reader.bit (r : Reader) (surroundings : Array UInt32) (last place within read : Nat) : Bool × Reader :=
  let places := surroundings.map fun s => 2 * ((mix s read.toUInt32).toNat % 0x2000000)
  let entries := places.mapIdx fun guess place =>
    8192 * guess + 256 * (r.histories.get! (place + 1)).toNat + (r.histories.get! place).toNat
  let odds := entries.map fun entry => leastOdds.getD (r.chances.getD entry 0 / 16) 2047
  let first := guessCount * place
  let second := guessCount * (64 * within + read)
  let sum := mixed r.weights first odds
  let sum' := mixed r.weights second odds
  let guess := (sum + sum') / 2
  let way := ((guess + 2048) % 128).toNat
  let near := (64 * last + read) * 33 + ((guess + 2048) / 128).toNat
  let corrected := (r.corrections.getD near 0 * (128 - way) + r.corrections.getD (near + 1) 0 * way) / 128
  let chance := max 16 (min 65519 ((16 * chanceOf guess + 3 * corrected) / 4))
  let middle := r.low + (r.high - r.low) * chance / 0x10000
  let bit := decide (r.value ≤ middle)
  (bit, { r with
    low := if bit then r.low else middle + 1
    high := if bit then middle else r.high
    histories := (places.zip entries).foldl (fun bytes (place, entry) =>
      let history := History.saw bit (entry % 8192)
      (bytes.set! place history.toUInt8).set! (place + 1) (history / 256).toUInt8) r.histories
    chances := entries.foldl (fun chances entry => chances.modify entry (toward bit 100)) r.chances
    weights := reweighed bit odds (reweighed bit odds r.weights first sum) second sum'
    corrections := [near, near + 1].foldl (fun table place => table.modify place (toward bit 100)) r.corrections
    : Reader }.drop 5)

/-- What stands before a letter: the last letters and numbers for the last words, what came last first, how many
    letters the word has so far, the last mark of a name, and the words of the name so far and of the name
    before. -/
structure Before where
  letters : List Nat := [0, 0, 0, 0, 0]
  words : List UInt32 := [0, 0, 0]
  written : Nat := 0
  mark : Nat := 0
  name : List UInt32 := []
  former : List UInt32 := []

def Before.surroundings (b : Before) : Array UInt32 :=
  let letters := b.letters.map (·.toUInt32)
  let word := b.words.headD 0
  let place := b.name.length.toUInt32
  let known := #[[], letters.take 1, letters.take 3, letters, [word], b.words,
    [b.written.toUInt32, b.mark.toUInt32, place], [word, b.former.getD b.name.length 0],
    [letters.headD 0, place, (b.former.length - b.name.length).toUInt32], [word, b.name.getLastD 0],
    letters.take 2 ++ [(b.name ++ b.former).headD 0]]
  known.mapIdx fun guess things => mix (things.foldl mix 0) guess.toUInt32

def Before.push (letter : Nat) (b : Before) : Before :=
  let letters := letter :: b.letters.dropLast
  let word := b.words.headD 0
  if 23 ≤ letter then
    { b with letters, words := mix word letter.toUInt32 :: b.words.tail, written := b.written + 1 }
  else
    let name := if word = 0 then b.name else b.name ++ [word]
    let b := { b with letters, words := 0 :: b.words.dropLast, written := 0 }
    if 14 ≤ letter && letter < 22 then
      { b with name := name ++ b.former.drop (b.former.length - (letter - 13) % 8) }
    else
      let former := if b.mark = 22 then [] else if b.mark = 13 then b.former else name
      { b with mark := letter, name := former.take (if letter < 13 then letter else 0), former }

/-- Reads so many bits of a letter behind those that are read. -/
def Reader.bits (surroundings : Array UInt32) (last place within : Nat) : Nat → Reader → Nat → Nat × Reader
  | 0, r, read => (read, r)
  | n + 1, r, read =>
    let (bit, r) := r.bit surroundings last place within read
    Reader.bits surroundings last place within n r (2 * read + bit.toNat)

/-- Reads letters behind those that are read. -/
def Reader.text (before : Before) : Nat → Reader → Array Char → Array Char
  | 0, _, read => read
  | n + 1, r, read =>
    let place := 8 * min before.name.length 7 + min (before.former.length - before.name.length) 7
    let (bits, r) := Reader.bits before.surroundings (before.letters.headD 0) place (min before.written 15 + 1) 6 r 1
    Reader.text (before.push (bits - 64)) n r (read.push (letters.getD (bits - 64) ' '))

def digitChars : List Char :=
  "0123456789ABCDEFGHIJKLMNOPQRSTUVWXYZabcdefghijklmnopqrstuvwxyz!$%&()*+,.:;<=>?[]^_|~@#'/`".toList

/-- The text of so many letters that digits stand for. White space between digits counts for nothing. -/
def unpack (length : Nat) (packed : String) : List Char :=
  let digits := (packed.toList.map digitChars.idxOf).filter (· < 89)
  let value := (digits.take 5).foldl (fun value digit => 89 * value + digit) 0
  let reader : Reader := { digits := digits.drop 5, value }
  (reader.text {} length #[]).toList

end CCompiler.Text.Packed
