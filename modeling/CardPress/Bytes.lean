/-!
# Numbers in byte strings

Reading and writing whole numbers of two and four bytes in either byte order. A read past the end
gives nothing.
-/

namespace CardPress.Bytes

def byte? (b : ByteArray) (i : Nat) : Option Nat :=
  if h : i < b.size then some b[i].toNat else none

def big16? (b : ByteArray) (i : Nat) : Option Nat := do
  return (← byte? b i) * 0x100 + (← byte? b (i + 1))

def big32? (b : ByteArray) (i : Nat) : Option Nat := do
  return (← big16? b i) * 0x10000 + (← big16? b (i + 2))

def little16? (b : ByteArray) (i : Nat) : Option Nat := do
  return (← byte? b i) + (← byte? b (i + 1)) * 0x100

def little32? (b : ByteArray) (i : Nat) : Option Nat := do
  return (← little16? b i) + (← little16? b (i + 2)) * 0x10000

/-- The signed reading of a number of `bits` bits. -/
def signed (bits n : Nat) : Int :=
  if n < Nat.pow 2 (bits - 1) then n else (n : Int) - Nat.pow 2 bits

/-- The bytes from `start` on, `length` of them, if there are as many. -/
def slice? (b : ByteArray) (start length : Nat) : Option ByteArray :=
  if start + length ≤ b.size then some (b.extract start (start + length)) else none

def big32 (n : Nat) : ByteArray :=
  ⟨#[UInt8.ofNat (n / 0x1000000), UInt8.ofNat (n / 0x10000), UInt8.ofNat (n / 0x100),
    UInt8.ofNat n]⟩

def little16 (n : Nat) : ByteArray :=
  ⟨#[UInt8.ofNat n, UInt8.ofNat (n / 0x100)]⟩

def little32 (n : Nat) : ByteArray :=
  ⟨#[UInt8.ofNat n, UInt8.ofNat (n / 0x100), UInt8.ofNat (n / 0x10000),
    UInt8.ofNat (n / 0x1000000)]⟩

/-- Bytes below 128 as text; for the names in file formats. -/
def ofAscii (s : String) : ByteArray :=
  s.toUTF8

/-- Whether the bytes at `i` are the given ones. -/
def hasAt (b : ByteArray) (i : Nat) (expected : List Nat) : Bool :=
  expected.zipIdx.all fun (e, k) => byte? b (i + k) == some e

end CardPress.Bytes
