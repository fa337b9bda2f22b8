/-!
# Machine numbers

Arithmetic with numbers of so many bits. A result that has no place among them ends a computation
that checks, and loses its upper bits in one that does not. So a computation is written once, for
any way to keep a result: `Machine.checked` and `Machine.wrapped` are two such ways.
-/

namespace CardPress.Machine

/-- Whether a whole number has a place among those of so many bits with sign. -/
def Fits (bits : Nat) (z : Int) : Prop :=
  -(Nat.pow 2 (bits - 1) : Int) ≤ z ∧ z < Nat.pow 2 (bits - 1)

instance (bits : Nat) (z : Int) : Decidable (Fits bits z) :=
  inferInstanceAs (Decidable (_ ∧ _))

/-- Keep a number, but nothing if it has no place. -/
def checked (bits : Nat) (z : Int) : Option Int :=
  if Fits bits z then some z else none

/-- Keep only the lower bits of a number, read with their sign. -/
def wrapped (bits : Nat) (z : Int) : Id Int :=
  z.bmod (Nat.pow 2 bits)

/-- A difference of natural numbers, if it is one. -/
def difference? (a b : Nat) : Option Nat :=
  if b ≤ a then some (a - b) else none

/-- A product of natural numbers, if it has no more than so many bits. -/
def product? (bits a b : Nat) : Option Nat :=
  if a * b < Nat.pow 2 bits then some (a * b) else none

end CardPress.Machine
