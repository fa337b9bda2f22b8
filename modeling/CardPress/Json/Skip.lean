import CardPress.Json.Reader

/-!
# Passing over JSON

A value that nobody asks for only has to be well formed: it may nest however deep, its numbers may
be out of range, and its escapes may name lone surrogates. `readKnown` reads a list of objects in
which only members with certain keys are asked for.
-/

namespace CardPress.Json

/-- The characters that stand after a backslash on their own. -/
def isShortEscape (c : Char) : Bool :=
  ['"', '\\', '/', 'b', 'f', 'n', 'r', 't'].contains c

/-- Pass over a string, its opening quote consumed already. -/
def skipString : List Char → Except ReadError (Read Unit)
  | [] => .error .unexpectedEnd
  | '"' :: rest => .ok ((), rest)
  | '\\' :: 'u' :: a :: b :: c :: d :: rest =>
    if [a, b, c, d].all fun digit => (hexDigit? digit).isSome then skipString rest
    else .error .badEscape
  | '\\' :: c :: rest => if isShortEscape c then skipString rest else .error .badEscape
  | c :: rest => if c.toNat < 0x20 then .error (.control c) else skipString rest

/-- Pass over a number after its sign. -/
def skipNumber (cs : List Char) : Except ReadError (Read Unit) := do
  let (_, rest) ← wholePart cs
  let (_, rest) ← fractionPart rest
  let (_, rest) ← exponentPart rest
  .ok ((), rest)

/-- Pass over a value in which containers nest less than `fuel` deep. -/
def skipValue (bound : Nat) : (fuel : Nat) → List Char → Except ReadError (Read Unit)
  | 0, _ => .error .tooDeep
  | fuel + 1, cs =>
    match skipSpace cs with
    | 'n' :: rest => word ['u', 'l', 'l'] () rest
    | 't' :: rest => word ['r', 'u', 'e'] () rest
    | 'f' :: rest => word ['a', 'l', 's', 'e'] () rest
    | '"' :: rest => skipString rest
    | '-' :: rest => skipNumber rest
    | '[' :: rest => do
      let (_, rest) ← container (skipValue bound fuel) ']' bound rest
      .ok ((), rest)
    | '\x7b' :: rest => do
      let member := memberOf skipString fun _ => skipValue bound fuel
      let (_, rest) ← container member '\x7d' bound rest
      .ok ((), rest)
    | rest => skipNumber rest

/-- The value of a member: null in place of one whose key is not `known`. -/
def knownValue (known : String → Bool) (bound depth : Nat) (key : String) (cs : List Char) :
    Except ReadError (Read Json) := do
  if known key then value bound depth cs
  else
    let ((), rest) ← skipValue bound bound cs
    .ok (.null, rest)

/-- An object, or whatever stands in its place, with nothing for the values that are not `known`. -/
def knownObject (known : String → Bool) (bound depth : Nat) (cs : List Char) :
    Except ReadError (Read Json) :=
  match depth, skipSpace cs with
  | depth + 1, '\x7b' :: rest => do
    let member := memberOf (stringTail bound) (knownValue known bound depth)
    let (members, rest) ← container member '\x7d' bound rest
    .ok (.object members, rest)
  | depth, rest => value bound depth rest

/-- A list of objects, or whatever stands in its place. -/
def knownObjects (known : String → Bool) (bound depth : Nat) (cs : List Char) :
    Except ReadError (Read Json) :=
  match depth, skipSpace cs with
  | depth + 1, '[' :: rest => do
    let (items, rest) ← container (knownObject known bound depth) ']' bound rest
    .ok (.array items, rest)
  | depth, rest => value bound depth rest

/-- The document a text holds, if it is a list of objects without what is not `known` in these. -/
def readKnown (known : String → Bool) (s : String) : Except ReadError Json :=
  whole (fun bound => knownObjects known bound maxDepth) s

end CardPress.Json
