import CardPress.Value

/-!
# Equality and order of values

Two equalities, which differ in booleans: `Value.identical` keeps them apart from numbers,
`Value.alike` takes them for zero and one. `Value.compare?` orders numbers, strings and sequences
within their kind and leaves everything else incomparable.
-/

namespace CardPress.Value

mutual

/-- Equality of values that read as numbers by their numeric value, of all others by structure. -/
def equalBy (numeric : Value → Option Float) (a b : Value) : Bool :=
  match numeric a, numeric b with
  | some x, some y => Double.equal x y
  | some _, none | none, some _ => false
  | none, none =>
    match a, b with
    | .null, .null => true
    | .bool x, .bool y => x == y
    | .string x, .string y => x == y
    | .sequence xs, .sequence ys => equalItemsBy numeric xs ys
    | .mapping ⟨xs⟩, .mapping ⟨ys⟩ => equalEntriesBy numeric xs ys
    | .image x, .image y => x.stamp == y.stamp
    | .font x, .font y => x.stamp == y.stamp && Single.equal x.size y.size
    | _, _ => false

def equalItemsBy (numeric : Value → Option Float) : List Value → List Value → Bool
  | [], [] => true
  | x :: xs, y :: ys => equalBy numeric x y && equalItemsBy numeric xs ys
  | _, _ => false

def equalEntriesBy (numeric : Value → Option Float) :
    List (String × Value) → List (String × Value) → Bool
  | [], [] => true
  | (j, x) :: xs, (k, y) :: ys => j == k && equalBy numeric x y && equalEntriesBy numeric xs ys
  | _, _ => false

end

/-- The number, for numbers only. -/
def numberOnly? : Value → Option Float
  | .number x => some x
  | _ => none

/-- Equality in which a boolean equals no number. -/
def identical (a b : Value) : Bool :=
  equalBy numberOnly? a b

/-- Equality in which booleans are the numbers zero and one. -/
def alike (a b : Value) : Bool :=
  equalBy number? a b

mutual

/-- Numbers by value, strings by code points, sequences item by item. -/
def compare? (a b : Value) : Option Ordering :=
  match a, b with
  | .string x, .string y => some (compare x y)
  | .sequence xs, .sequence ys => compareItems? xs ys
  | a, b =>
    match a.number?, b.number? with
    | some x, some y => Double.compare? x y
    | _, _ => none

/-- The first difference decides; without one, the shorter sequence is less. -/
def compareItems? : List Value → List Value → Option Ordering
  | [], [] => some .eq
  | [], _ :: _ => some .lt
  | _ :: _, [] => some .gt
  | x :: xs, y :: ys =>
    match compare? x y with
    | some .eq => compareItems? xs ys
    | other => other

end

end CardPress.Value
