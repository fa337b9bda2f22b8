import CardPress.Fault

/-!
# Reading parameters

Typed views of resolved parameters. Each takes the parameter's name, which the fault repeats when
the value is of the wrong kind.
-/

namespace CardPress.Value

def invalid {α : Type} (parameter expected found : String) : Except Fault α :=
  .error (.invalidParameter parameter expected found)

def readString (parameter : String) (v : Value) : Except Fault String :=
  match v.string? with
  | some s => .ok s
  | none => invalid parameter "string" v.kind.name

def readNumber (parameter : String) (v : Value) : Except Fault Float :=
  match v.number? with
  | some x => .ok x
  | none => invalid parameter "number" v.kind.name

def greatestNatural : Nat := Nat.pow 2 32 - 1

/-- The natural number below `2 ^ 32` closest to `x`, a half rounding up. Negative numbers are
refused however small they are; negative zero is none. -/
def naturalOf? (x : Float) : Option Nat :=
  match Double.decode? x with
  | none => none
  | some b =>
    if b.negative ∧ b.mantissa ≠ 0 then none
    else if Double.compare? x (Double.ofInt greatestNatural) = some .gt then none
    else some b.roundAway.toNat

def readNatural (parameter : String) (v : Value) : Except Fault Nat := do
  let x ← v.readNumber parameter
  match naturalOf? x with
  | some n => .ok n
  | none => invalid parameter "non-negative integer" (Double.text x)

def readSequence (parameter : String) : Value → Except Fault (List Value)
  | .sequence items => .ok items
  | v => invalid parameter "sequence" v.kind.name

def readMapping (parameter : String) : Value → Except Fault Mapping
  | .mapping fields => .ok fields
  | v => invalid parameter "mapping" v.kind.name

/-- How a sequence of the wrong length is named. -/
def sequenceText (items : List Value) : String :=
  s!"sequence of {items.length}"

def readPoint (parameter : String) (v : Value) : Except Fault (Float × Float) := do
  match ← v.readSequence parameter with
  | [x, y] => .ok (← x.readNumber parameter, ← y.readNumber parameter)
  | items => invalid parameter "pair of numbers" (sequenceText items)

def readSize (parameter : String) (v : Value) : Except Fault (Nat × Nat) := do
  match ← v.readSequence parameter with
  | [w, h] => .ok (← w.readNatural parameter, ← h.readNatural parameter)
  | items => invalid parameter "pair of sizes" (sequenceText items)

def readImage (parameter : String) : Value → Except Fault Image
  | .image i => .ok i
  | v => invalid parameter "image" v.kind.name

def readFont (parameter : String) : Value → Except Fault Font
  | .font f => .ok f
  | v => invalid parameter "font" v.kind.name

/-- The key that marks a mapping as an expression. -/
def deferredKey : String := "deferred"

/-- The kind of expression a value is, if it is one. -/
def deferredKind (v : Value) : Except Fault (Option String) :=
  match v with
  | .mapping fields =>
    match fields.get? deferredKey with
    | none => .ok none
    | some (.string kind) => .ok (some kind)
    | some other => invalid deferredKey "string" other.kind.name
  | _ => .ok none

end CardPress.Value
