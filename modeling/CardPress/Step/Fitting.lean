import CardPress.Value.Reading

/-!
# Fitting

New sizes for layers. Each axis is given an amount, keeps what it has, or follows the other axis.
-/

namespace CardPress

inductive Axis where
  | keep
  | follow
  | amount (x : Float)

namespace Axis

def isAmount : Axis → Bool
  | .amount _ => true
  | _ => false

/-- False keeps and true follows; everything else has to be a number. -/
def ofValue (parameter : String) : Value → Except Fault Axis
  | .bool false => .ok .keep
  | .bool true => .ok .follow
  | v => .amount <$> v.readNumber parameter

/-- Two axes; without any amount there is nothing to do. -/
def readPair (parameter : String) (v : Value) : Except Fault (Option (Axis × Axis)) := do
  match ← v.readSequence parameter with
  | [a, b] =>
    let a ← ofValue parameter a
    let b ← ofValue parameter b
    return if a.isAmount || b.isAmount then some (a, b) else none
  | items => Value.invalid parameter "pair of numbers or booleans" (Value.sequenceText items)

end Axis

namespace Fitting

/-- A length in whole pixels: rounded with ties to even, at least one, at most the greatest natural
number of a parameter. -/
def dimension (x : Float) : Nat :=
  max 1 (Double.clampToInt 0 Value.greatestNatural (Double.roundEven x)).toNat

/-- The factor of an axis, given the other one. -/
def factor (own other : Axis) : Float :=
  match own, other with
  | .amount x, _ => x
  | .follow, .amount x => x
  | _, _ => 1

/-- The size after scaling. -/
def scaled (axes : Axis × Axis) (width height : Nat) : Nat × Nat :=
  let (x, y) := axes
  (dimension (Double.ofInt width * factor x y), dimension (Double.ofInt height * factor y x))

/-- At least one. -/
def atLeastOne (x : Float) : Float :=
  if 1 < x then x else 1

/-- The length of an axis, given the other one and both lengths as they are. An axis that follows
keeps the proportion. -/
def length (own other : Axis) (ownLength otherLength : Float) : Float :=
  match own, other with
  | .amount x, _ => x
  | .follow, .amount x => ownLength * (x / atLeastOne otherLength)
  | _, _ => ownLength

/-- The size after resizing. -/
def resized (axes : Axis × Axis) (width height : Nat) : Nat × Nat :=
  let (x, y) := axes
  let w := Double.ofInt width
  let h := Double.ofInt height
  (dimension (length x y w h), dimension (length y x h w))

end Fitting

end CardPress
