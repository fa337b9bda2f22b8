import CardPress.Number.Decimal

/-!
# Number literals

The numbers that people write in text: whole numbers of a limited size, and decimals with an
optional sign, point and exponent, or the names of the values that are not finite.
-/

namespace CardPress.Literal

def digitsValue (cs : List Char) : Nat :=
  cs.foldl (fun n c => 10 * n + (c.toNat - '0'.toNat)) 0

/-- One digit or more and nothing else. -/
def natural? (cs : List Char) : Option Nat :=
  if !cs.isEmpty && cs.all Char.isDigit then some (digitsValue cs) else none

/-- A natural number of 64 bits, with or without a plus. -/
def index? (s : String) : Option Nat := do
  let n ← match s.toList with
    | '+' :: rest => natural? rest
    | cs => natural? cs
  if n < Nat.pow 2 64 then some n else none

/-- A signed whole number of 64 bits. -/
def integer? (s : String) : Option Int := do
  let n : Int ← match s.toList with
    | '+' :: rest => (natural? rest).map Int.ofNat
    | '-' :: rest => (natural? rest).map fun n => -(n : Int)
    | cs => (natural? cs).map Int.ofNat
  if Double.leastInt64 ≤ n ∧ n ≤ Double.greatestInt64 then some n else none

/-- A sign, if there is one, and the rest. -/
def splitSign : List Char → Bool × List Char
  | '-' :: rest => (true, rest)
  | '+' :: rest => (false, rest)
  | cs => (false, cs)

/-- Nothing, or an exponent mark and a signed whole number. -/
def exponent? : List Char → Option Int
  | [] => some 0
  | c :: rest =>
    if c = 'e' ∨ c = 'E' then
      let (negative, ds) := splitSign rest
      (natural? ds).map fun n => if negative then -(n : Int) else n
    else none

/-- Digits with at most one point among them, at least one digit, and an exponent. -/
def decimal? (cs : List Char) : Option Decimal := do
  let whole := cs.takeWhile Char.isDigit
  let rest := cs.dropWhile Char.isDigit
  let (places, rest) := match rest with
    | '.' :: rest => (rest.takeWhile Char.isDigit, rest.dropWhile Char.isDigit)
    | rest => ([], rest)
  let digits ← natural? (whole ++ places)
  let e ← exponent? rest
  return ⟨digits, e - places.length⟩

/-- A double; letter case does not count in names. -/
def double? (s : String) : Option Float :=
  let (negative, cs) := splitSign s.toList
  match decimal? cs with
  | some d => some (d.toDouble negative)
  | none =>
    match String.ofList (cs.map Char.toLower) with
    | "inf" | "infinity" => some (Double.ofMagnitude negative Double.infiniteMagnitude)
    | "nan" => some Double.nan
    | _ => none

end CardPress.Literal
