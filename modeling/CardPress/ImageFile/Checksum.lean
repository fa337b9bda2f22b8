/-!
# Checksums

The two checksums of compressed image data: the cyclic one of 32 bits over a reversed polynomial,
and the pair of sums modulo a prime.
-/

namespace CardPress.Checksum

/-- The cyclic checksum's polynomial, lowest power first. -/
def polynomial : UInt32 := 0xedb88320

/-- One bit of division by the polynomial. -/
def shift (c : UInt32) : UInt32 :=
  if c &&& 1 = 1 then (c >>> 1) ^^^ polynomial else c >>> 1

/-- Eight bits of division, for each value of the lowest byte. -/
def table : Array UInt32 :=
  Array.ofFn fun i : Fin 256 => (List.range 8).foldl (fun c _ => shift c) (UInt32.ofNat i)

def cyclicStep (c : UInt32) (b : UInt8) : UInt32 :=
  table.getD ((c ^^^ b.toUInt32) &&& 0xff).toNat 0 ^^^ (c >>> 8)

/-- The cyclic checksum of a byte string. -/
def cyclic (b : ByteArray) : Nat :=
  (b.foldl cyclicStep 0xffffffff ^^^ 0xffffffff).toNat

/-- The greatest prime below `2 ^ 16`. -/
def prime : Nat := 65521

/-- The sum of the bytes, from one on, and the sum of those sums. -/
def sums (b : ByteArray) : Nat :=
  let (low, high) := b.foldl (fun (low, high) x =>
    let low := (low + x.toNat) % prime
    (low, (high + low) % prime)) (1, 0)
  high * 0x10000 + low

end CardPress.Checksum
