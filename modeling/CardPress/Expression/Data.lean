import CardPress.Calc
import CardPress.Digest
import CardPress.Generation.Scene
import CardPress.Random.ChaCha

/-!
# Expressions on data

Cached values, calculations, seeded random numbers, and copies of a mapping.
-/

namespace CardPress.Expression

/-- The text of a cache key, which may be given as a string, a number or a boolean. -/
def cacheKey (v : Value) : Except Fault String :=
  match v with
  | .string s => .ok s
  | .number _ | .bool _ => .ok v.text
  | other => Value.invalid "key" "string" other.kind.name

/-- The value in the face's cache as it was stored, else the default as it stands. -/
def cached : Resolver := fun scene params => do
  let key ← cacheKey (← scene.param params "key")
  match (← get).draft.cache.get? key, params.get? "default" with
  | some v, _ => return v
  | none, some default => return default
  | none, none => throw (.keyMissing key false)

def calculation : Resolver := fun scene params => do
  let operation ← (← scene.param params "op").readString "op"
  let operands ← (← scene.param params "args").readSequence "args"
  let result ← Calc.calculate operation operands
  if ← scene.shouldLog params then
    Generation.info "Performing calculation" [
      ("op", operation), ("args", (Value.sequence operands).text), ("result", result.text)]
  return result

/-- A number in `[0, 1)` that the seed and an index determine. -/
def seeded : Resolver := fun scene params => do
  let seed ← scene.param params "seed"
  let index ← (← scene.paramOr params "n" (.ofNat 0)).readNatural "n"
  return .number (Random.draw seed.seed index)

/-- One copy of a mapping for each value, which it has under a key; the copies can be made into
expressions. -/
def mapped : Resolver := fun scene params => do
  let template ← (← scene.param params "map_to").readMapping "map_to"
  let key ← cacheKey (← scene.param params "key")
  let values ← (← scene.param params "values").readSequence "values"
  let tag ← scene.paramOpt params "map_deferred_type"
  return .sequence <| values.map fun v =>
    let copy := template.insert key v
    .mapping <| match tag with
      | some tag => copy.insert Value.deferredKey tag
      | none => copy

end CardPress.Expression
