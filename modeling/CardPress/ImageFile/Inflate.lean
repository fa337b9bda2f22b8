import CardPress.Bytes

/-!
# Inflating

Decompression of a stream of blocks, each stored, or coded with prefix codes that are fixed or come
with the block. A code is known by the lengths of its words: words of one length follow each other,
and shorter ones come first. `Inflate.store` writes streams of stored blocks.
-/

namespace CardPress.Inflate

/-- What is left to read, as a place in bits, and what has been written. -/
structure Stream where
  data : ByteArray
  place : Nat
  output : ByteArray

/-- A step of decompression; a damaged stream gives nothing. -/
abbrev Step := StateT Stream Option

/-! ## Bits -/

/-- Bits of a byte are read from the lowest. -/
def bit : Step Nat := fun s => do
  let b ← Bytes.byte? s.data (s.place / 8)
  return (b / Nat.pow 2 (s.place % 8) % 2, { s with place := s.place + 1 })

/-- A number of some bits, the lowest first. -/
def bits : Nat → Step Nat
  | 0 => return 0
  | n + 1 => do
    let low ← bit
    return low + 2 * (← bits n)

/-- Move on to the next whole byte. -/
def align : Step Unit :=
  modify fun s => { s with place := (s.place + 7) / 8 * 8 }

def emit (b : UInt8) : Step Unit :=
  modify fun s => { s with output := s.output.push b }

/-! ## Prefix codes -/

/-- How many words there are of each length, from one on, and the symbols by length. -/
structure Code where
  counts : List Nat
  symbols : Array Nat

/-- The longest word of a code. -/
def longestWord : Nat := 15

/-- The code whose word for each symbol has the given length; zero is for no word. -/
def Code.ofLengths (lengths : List Nat) : Code where
  counts := (List.range longestWord).map fun n => lengths.count (n + 1)
  symbols := ((List.range longestWord).flatMap fun n =>
    lengths.zipIdx.filterMap fun (length, symbol) =>
      if length = n + 1 then some symbol else none).toArray

/-- Lengthen a word bit by bit until it is one of the code. `first` is the first word of the
length before and `index` the number of its symbol. -/
def Code.symbolFrom (c : Code) : (counts : List Nat) → (word first index : Nat) → Step Nat
  | [], _, _, _ => failure
  | count :: counts, word, first, index => do
    let word := 2 * word + (← bit)
    let first := 2 * first
    if word < first + count then
      match c.symbols[index + (word - first)]? with
      | some symbol => return symbol
      | none => failure
    else c.symbolFrom counts word (first + count) (index + count)

def Code.symbol (c : Code) : Step Nat :=
  c.symbolFrom c.counts 0 0 0

/-! ## Blocks -/

/-- The least length for each length symbol and the bits that are added to it. -/
def lengthSymbols : Array (Nat × Nat) := #[
  (3, 0), (4, 0), (5, 0), (6, 0), (7, 0), (8, 0), (9, 0), (10, 0), (11, 1), (13, 1), (15, 1),
  (17, 1), (19, 2), (23, 2), (27, 2), (31, 2), (35, 3), (43, 3), (51, 3), (59, 3), (67, 4),
  (83, 4), (99, 4), (115, 4), (131, 5), (163, 5), (195, 5), (227, 5), (258, 0)]

/-- The least distance for each distance symbol and the bits that are added to it. -/
def distanceSymbols : Array (Nat × Nat) := #[
  (1, 0), (2, 0), (3, 0), (4, 0), (5, 1), (7, 1), (9, 2), (13, 2), (17, 3), (25, 3), (33, 4),
  (49, 4), (65, 5), (97, 5), (129, 6), (193, 6), (257, 7), (385, 7), (513, 8), (769, 8), (1025, 9),
  (1537, 9), (2049, 10), (3073, 10), (4097, 11), (6145, 11), (8193, 12), (12289, 12), (16385, 13),
  (24577, 13)]

def lengthened (table : Array (Nat × Nat)) (symbol : Nat) : Step Nat := do
  match table[symbol]? with
  | some (least, extra) => return least + (← bits extra)
  | none => failure

/-- Write again what was written some bytes ago. -/
def copyBack (distance : Nat) : Nat → Step Unit
  | 0 => return
  | n + 1 => do
    let s ← get
    if distance ≤ s.output.size then
      match Bytes.byte? s.output (s.output.size - distance) with
      | some b => emit (UInt8.ofNat b)
      | none => failure
      copyBack distance n
    else failure

/-- Symbols up to the one that ends the block; `fuel` bounds their number. -/
def symbols (literals distances : Code) : (fuel : Nat) → Step Unit
  | 0 => failure
  | fuel + 1 => do
    let symbol ← literals.symbol
    if symbol < 256 then
      emit (UInt8.ofNat symbol)
      symbols literals distances fuel
    else if symbol = 256 then return
    else
      let length ← lengthened lengthSymbols (symbol - 257)
      let distance ← lengthened distanceSymbols (← distances.symbol)
      copyBack distance length
      symbols literals distances fuel

def storedBlock : Step Unit := do
  align
  let length ← bits 16
  let complement ← bits 16
  if length + complement ≠ 0xffff then failure
  let s ← get
  match Bytes.slice? s.data (s.place / 8) length with
  | some content =>
    set { s with place := s.place + 8 * length, output := s.output ++ content }
  | none => failure

def fixedLiterals : Code :=
  .ofLengths <| List.replicate 144 8 ++ List.replicate 112 9 ++ List.replicate 24 7 ++
    List.replicate 8 8

def fixedDistances : Code :=
  .ofLengths (List.replicate 30 5)

/-- The order in which the lengths of the code of lengths come. -/
def lengthOrder : List Nat :=
  [16, 17, 18, 0, 8, 7, 9, 6, 10, 5, 11, 4, 12, 3, 13, 2, 14, 1, 15]

/-- Lengths of words, latest first, until there are `wanted` of them. -/
def wordLengths (c : Code) (wanted : Nat) : (fuel : Nat) → List Nat → Step (List Nat)
  | 0, _ => failure
  | fuel + 1, done => do
    if wanted = done.length then return done
    else if wanted < done.length then failure
    else
      match ← c.symbol, done with
      | 16, last :: _ => wordLengths c wanted fuel (List.replicate (3 + (← bits 2)) last ++ done)
      | 16, [] => failure
      | 17, _ => wordLengths c wanted fuel (List.replicate (3 + (← bits 3)) 0 ++ done)
      | 18, _ => wordLengths c wanted fuel (List.replicate (11 + (← bits 7)) 0 ++ done)
      | n, _ => wordLengths c wanted fuel (n :: done)

/-- The codes that come with a block. -/
def codes : Step (Code × Code) := do
  let literals := 257 + (← bits 5)
  let distances := 1 + (← bits 5)
  let count := 4 + (← bits 4)
  let given ← (lengthOrder.take count).mapM fun symbol => return (symbol, ← bits 3)
  let c := Code.ofLengths <| (List.range 19).map fun symbol => (given.lookup symbol).getD 0
  let lengths := (← wordLengths c (literals + distances) (literals + distances + 1) []).reverse
  return (.ofLengths (lengths.take literals), .ofLengths (lengths.drop literals))

/-- Blocks up to the last one; `fuel` bounds their number and that of their symbols. -/
def blocks : (fuel : Nat) → Step Unit
  | 0 => failure
  | fuel + 1 => do
    let isLast ← bit
    match ← bits 2 with
    | 0 => storedBlock
    | 1 => symbols fixedLiterals fixedDistances fuel
    | 2 =>
      let (literals, distances) ← codes
      symbols literals distances fuel
    | _ => failure
    if isLast = 1 then return else blocks fuel

/-- The bytes of a stream with its two bytes of header. Every block and every symbol takes at least
one bit, so the bits of the data are fuel enough. -/
def inflate? (data : ByteArray) : Option ByteArray := do
  let method ← Bytes.byte? data 0
  let flags ← Bytes.byte? data 1
  if method % 16 ≠ 8 ∨ 7 < method / 16 ∨ (method * 256 + flags) % 31 ≠ 0 ∨ flags / 32 % 2 = 1 then
    failure
  let (_, s) ← (blocks (8 * data.size)).run ⟨data, 16, ByteArray.empty⟩
  return s.output

/-! ## Stored streams -/

/-- The most bytes of a stored block. -/
def blockSize : Nat := 65535

/-- Stored blocks of what comes from `start` on; `fuel` bounds their number. -/
def storedBlocks (data : ByteArray) : (fuel start : Nat) → ByteArray
  | 0, _ => ByteArray.empty
  | fuel + 1, start =>
    let stop := min (start + blockSize) data.size
    let length := stop - start
    let isLast := stop = data.size
    let block := ⟨#[if isLast then 1 else 0]⟩ ++ Bytes.little16 length ++
      Bytes.little16 (0xffff - length) ++ data.extract start stop
    if isLast then block else block ++ storedBlocks data fuel stop

/-- A stream, without its checksum, that inflates to the given bytes. -/
def store (data : ByteArray) : ByteArray :=
  ⟨#[0x78, 0x01]⟩ ++ storedBlocks data (data.size / blockSize + 1) 0

end CardPress.Inflate
