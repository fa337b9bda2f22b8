import CardPress.Dict
import CardPress.Number.Decimal

/-!
# JSON documents

A document as it is written: whole numbers and fractions are told apart, and an object is the list
of its members. `Json.canonical` puts the members of every object in key order, the last of equal
keys winning; two documents that differ only in member order have one canonical form.
-/

namespace CardPress

inductive Json where
  | null
  | bool (b : Bool)
  | int (n : Int)
  | float (x : Float)
  | string (s : String)
  | array (items : List Json)
  | object (members : List (String × Json))

namespace Json

instance : Inhabited Json := ⟨.null⟩

mutual

/-- Members in key order at every level, each key once. -/
def canonical : Json → Json
  | .array items => .array (canonicalItems items)
  | .object members => .object (Dict.ofList (canonicalMembers members)).entries
  | other => other

def canonicalItems : List Json → List Json
  | [] => []
  | j :: rest => j.canonical :: canonicalItems rest

def canonicalMembers : List (String × Json) → List (String × Json)
  | [] => []
  | (k, j) :: rest => (k, j.canonical) :: canonicalMembers rest

end

/-- The member of an object with a given key; of several, the last. -/
def member? (j : Json) (key : String) : Option Json :=
  match j with
  | .object members => members.reverse.lookup key
  | _ => none

/-- The whole numbers that are kept as such: those of 64 bits, signed or not. -/
def holdsInt (n : Int) : Bool :=
  -(Nat.pow 2 63 : Int) ≤ n && n < Nat.pow 2 64

end Json

end CardPress
