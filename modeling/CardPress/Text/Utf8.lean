import CardPress.Bytes

/-!
# UTF-8

Text from bytes. Overlong forms, surrogates and code points past the last one are refused.
-/

namespace CardPress.Utf8

/-- The value of a continuation byte. -/
def tail? (b : ByteArray) (i : Nat) : Option Nat := do
  let n ← Bytes.byte? b i
  if 0x80 ≤ n ∧ n < 0xc0 then some (n - 0x80) else none

/-- The code point at a place and the number of its bytes. -/
def codePoint? (b : ByteArray) (i : Nat) : Option (Nat × Nat) := do
  let first ← Bytes.byte? b i
  if first < 0x80 then return (first, 1)
  else if 0xc2 ≤ first ∧ first < 0xe0 then
    return ((first - 0xc0) * 0x40 + (← tail? b (i + 1)), 2)
  else if 0xe0 ≤ first ∧ first < 0xf0 then
    let n := ((first - 0xe0) * 0x40 + (← tail? b (i + 1))) * 0x40 + (← tail? b (i + 2))
    if n < 0x800 ∨ (0xd800 ≤ n ∧ n < 0xe000) then none else return (n, 3)
  else if 0xf0 ≤ first ∧ first < 0xf5 then
    let n := (((first - 0xf0) * 0x40 + (← tail? b (i + 1))) * 0x40 + (← tail? b (i + 2))) * 0x40 +
      (← tail? b (i + 3))
    if n < 0x10000 ∨ 0x10ffff < n then none else return (n, 4)
  else none

/-- The characters from a place on; `fuel` bounds their number. -/
def decodeFrom (b : ByteArray) : (fuel i : Nat) → Option (List Char)
  | 0, _ => some []
  | fuel + 1, i =>
    if b.size ≤ i then some []
    else do
      let (n, length) ← codePoint? b i
      return Char.ofNat n :: (← decodeFrom b fuel (i + length))

def decode? (b : ByteArray) : Option String :=
  (decodeFrom b b.size 0).map String.ofList

end CardPress.Utf8
