import CardPress.Value.Order

/-!
# The order of steps

Steps run by ascending priority, those with equal priorities as declared, and those without one
last. If any two priorities cannot be compared, the declaration order stands as a whole.
-/

namespace CardPress.Priority

/-- Null comes after everything else; other values compare within their kind. -/
def compare? (a b : Value) : Option Ordering :=
  match a, b with
  | .null, .null => some .eq
  | .null, _ => some .gt
  | _, .null => some .lt
  | a, b => Value.compare? a b

/-- Whether any two priorities at different places can be compared. -/
def allComparable (priorities : List Value) : Bool :=
  match priorities with
  | [] => true
  | a :: rest => rest.all (fun b => (compare? a b).isSome) && allComparable rest

/-- Whether one priority with its place goes before another. -/
def precedes (a b : Value × Nat) : Bool :=
  match compare? a.1 b.1 with
  | some .lt => true
  | some .gt => false
  | _ => a.2 ≤ b.2

/-- The places of the priorities in running order. -/
def order (priorities : List Value) : List Nat :=
  if allComparable priorities then (priorities.zipIdx.mergeSort precedes).map (·.2)
  else List.range priorities.length

end CardPress.Priority
