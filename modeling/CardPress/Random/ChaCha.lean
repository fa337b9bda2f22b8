import CardPress.Number.Double

/-!
# Seeded random numbers

A stream of doubles in `[0, 1)` from a 64-bit seed: the key is expanded from the seed by a
permuted congruential generator, the words are ChaCha blocks of twelve rounds with a counter from
zero and no nonce, and every double takes the upper 53 bits of two words.
-/

namespace CardPress.Random

/-! ## The key -/

def advance (state : UInt64) : UInt64 :=
  state * 6364136223846793005 + 11634580027462260723

def output (state : UInt64) : UInt32 :=
  let x := (((state >>> 18) ^^^ state) >>> 27).toUInt32
  let rotation := (state >>> 59).toUInt32
  (x >>> rotation) ||| (x <<< ((32 - rotation) &&& 31))

def keyWords : (count : Nat) → UInt64 → List UInt32
  | 0, _ => []
  | count + 1, state =>
    let state := advance state
    output state :: keyWords count state

/-! ## Blocks -/

def rotateLeft (x n : UInt32) : UInt32 :=
  (x <<< n) ||| (x >>> (32 - n))

/-- Mix the four words at the given places. -/
def quarterRound (s : Array UInt32) (i j k l : Nat) : Array UInt32 :=
  let a := s.getD i 0
  let b := s.getD j 0
  let c := s.getD k 0
  let d := s.getD l 0
  let a := a + b
  let d := rotateLeft (d ^^^ a) 16
  let c := c + d
  let b := rotateLeft (b ^^^ c) 12
  let a := a + b
  let d := rotateLeft (d ^^^ a) 8
  let c := c + d
  let b := rotateLeft (b ^^^ c) 7
  (((s.setIfInBounds i a).setIfInBounds j b).setIfInBounds k c).setIfInBounds l d

/-- A round on the columns and a round on the diagonals. -/
def doubleRound (s : Array UInt32) : Array UInt32 :=
  let s := quarterRound s 0 4 8 12
  let s := quarterRound s 1 5 9 13
  let s := quarterRound s 2 6 10 14
  let s := quarterRound s 3 7 11 15
  let s := quarterRound s 0 5 10 15
  let s := quarterRound s 1 6 11 12
  let s := quarterRound s 2 7 8 13
  quarterRound s 3 4 9 14

/-- The block with a number: sixteen words. -/
def block (key : List UInt32) (number : Nat) : Array UInt32 :=
  let counter := [UInt32.ofNat number, UInt32.ofNat (number / Nat.pow 2 32), 0, 0]
  let start := ([0x61707865, 0x3320646e, 0x79622d32, 0x6b206574] ++ key ++ counter).toArray
  let mixed := (List.range 6).foldl (fun s _ => doubleRound s) start
  start.zipWith (· + ·) mixed

/-! ## Draws -/

/-- The draw with an index, from the stream of a seed: a block holds eight draws. -/
def draw (seed : UInt64) (index : Nat) : Float :=
  let words := block (keyWords 8 seed) (index / 8)
  let low := (words.getD (2 * (index % 8)) 0).toUInt64
  let high := (words.getD (2 * (index % 8) + 1) 0).toUInt64
  let bits := (high <<< 32) ||| low
  (bits >>> 11).toFloat * Float.ofBits 0x3ca0000000000000

end CardPress.Random
