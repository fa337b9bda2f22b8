import CardPress.Bytes
import CardPress.Text.Quoted
import CardPress.Value.Json

/-!
# Digests of documents

SHA-256, the digest of FIPS 180-4 over byte strings, and its hexadecimal form. A document is hashed
through its canonical text, so the order in which members were written does not count. The seed of a
value is the head of that digest.
-/

namespace CardPress

namespace Sha256

/-- The eight working words. -/
structure State where
  a : UInt32
  b : UInt32
  c : UInt32
  d : UInt32
  e : UInt32
  f : UInt32
  g : UInt32
  h : UInt32
  deriving DecidableEq, Repr

namespace State

def initial : State where
  a := 0x6a09e667
  b := 0xbb67ae85
  c := 0x3c6ef372
  d := 0xa54ff53a
  e := 0x510e527f
  f := 0x9b05688c
  g := 0x1f83d9ab
  h := 0x5be0cd19

def add (s t : State) : State :=
  ⟨s.a + t.a, s.b + t.b, s.c + t.c, s.d + t.d, s.e + t.e, s.f + t.f, s.g + t.g, s.h + t.h⟩

def words (s : State) : List UInt32 :=
  [s.a, s.b, s.c, s.d, s.e, s.f, s.g, s.h]

end State

/-- Fractional parts of the cube roots of the first 64 primes. -/
def constants : List UInt32 := [
  0x428a2f98, 0x71374491, 0xb5c0fbcf, 0xe9b5dba5, 0x3956c25b, 0x59f111f1, 0x923f82a4, 0xab1c5ed5,
  0xd807aa98, 0x12835b01, 0x243185be, 0x550c7dc3, 0x72be5d74, 0x80deb1fe, 0x9bdc06a7, 0xc19bf174,
  0xe49b69c1, 0xefbe4786, 0x0fc19dc6, 0x240ca1cc, 0x2de92c6f, 0x4a7484aa, 0x5cb0a9dc, 0x76f988da,
  0x983e5152, 0xa831c66d, 0xb00327c8, 0xbf597fc7, 0xc6e00bf3, 0xd5a79147, 0x06ca6351, 0x14292967,
  0x27b70a85, 0x2e1b2138, 0x4d2c6dfc, 0x53380d13, 0x650a7354, 0x766a0abb, 0x81c2c92e, 0x92722c85,
  0xa2bfe8a1, 0xa81a664b, 0xc24b8b70, 0xc76c51a3, 0xd192e819, 0xd6990624, 0xf40e3585, 0x106aa070,
  0x19a4c116, 0x1e376c08, 0x2748774c, 0x34b0bcb5, 0x391c0cb3, 0x4ed8aa4a, 0x5b9cca4f, 0x682e6ff3,
  0x748f82ee, 0x78a5636f, 0x84c87814, 0x8cc70208, 0x90befffa, 0xa4506ceb, 0xbef9a3f7, 0xc67178f2]

def rotateRight (x : UInt32) (n : UInt32) : UInt32 :=
  (x >>> n) ||| (x <<< (32 - n))

/-- The message with a one bit, zeros and its length in bits appended: whole blocks of 64 bytes. -/
def pad (message : ByteArray) : ByteArray :=
  let zeros := (119 - message.size % 64) % 64
  let bits := 8 * message.size
  message ++ ⟨#[0x80]⟩ ++ ⟨Array.replicate zeros 0⟩ ++ Bytes.big32 (bits / Nat.pow 2 32) ++
    Bytes.big32 (bits % Nat.pow 2 32)

/-- The next word of the message schedule, from the ones so far. -/
def nextWord (words : Array UInt32) : UInt32 :=
  let n := words.size
  let x := words.getD (n - 15) 0
  let y := words.getD (n - 2) 0
  let small := rotateRight x 7 ^^^ rotateRight x 18 ^^^ (x >>> 3)
  let large := rotateRight y 17 ^^^ rotateRight y 19 ^^^ (y >>> 10)
  words.getD (n - 16) 0 + small + words.getD (n - 7) 0 + large

/-- The 64 words a block is mixed with. -/
def schedule (block : List UInt32) : Array UInt32 :=
  (List.range 48).foldl (fun words _ => words.push (nextWord words)) block.toArray

def round (s : State) (constant word : UInt32) : State :=
  let s1 := rotateRight s.e 6 ^^^ rotateRight s.e 11 ^^^ rotateRight s.e 25
  let choice := (s.e &&& s.f) ^^^ (~~~s.e &&& s.g)
  let t1 := s.h + s1 + choice + constant + word
  let s0 := rotateRight s.a 2 ^^^ rotateRight s.a 13 ^^^ rotateRight s.a 22
  let majority := (s.a &&& s.b) ^^^ (s.a &&& s.c) ^^^ (s.b &&& s.c)
  ⟨t1 + (s0 + majority), s.a, s.b, s.c, s.d + t1, s.e, s.f, s.g⟩

def compress (s : State) (block : List UInt32) : State :=
  s.add <| (constants.zip (schedule block).toList).foldl (fun s (k, w) => round s k w) s

/-- The sixteen words of the block at a byte offset. -/
def block (padded : ByteArray) (start : Nat) : List UInt32 :=
  (List.range 16).map fun i => UInt32.ofNat ((Bytes.big32? padded (start + 4 * i)).getD 0)

def digest (message : ByteArray) : ByteArray :=
  let padded := pad message
  let final := (List.range (padded.size / 64)).foldl
    (fun s i => compress s (block padded (64 * i))) State.initial
  final.words.foldl (fun out w => out ++ Bytes.big32 w.toNat) ByteArray.empty

/-- Two lower-case hexadecimal digits a byte. -/
def hex (bytes : ByteArray) : String :=
  bytes.toList.foldl
    (fun out b => out ++ (if b < 16 then "0" else "") ++ Text.hex b.toNat) ""

def hexOfText (text : String) : String :=
  hex (digest text.toUTF8)

end Sha256

/-! ## Documents -/

namespace Json

/-- Members in key order and no blanks. -/
def canonicalText (j : Json) : String :=
  j.canonical.text

def hash (j : Json) : String :=
  Sha256.hexOfText j.canonicalText

end Json

/-- The first eight bytes of the digest of the value's document. -/
def Value.seed (v : Value) : UInt64 :=
  let digest := Sha256.digest v.toJson.canonicalText.toUTF8
  (List.range 8).foldl (fun seed i => seed * 256 + ((Bytes.byte? digest i).getD 0).toUInt64) 0

end CardPress
