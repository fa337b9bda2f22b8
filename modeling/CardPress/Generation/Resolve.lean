import CardPress.Generation.Scene

/-!
# Resolving

A value is resolved by unwrapping it for as long as it is an expression and then resolving what it
contains. Two budgets keep this finite: how often one value is unwrapped, and how deep resolving
nests, be it in contents or in the parameters of expressions.
-/

namespace CardPress.Generation

/-- Replace an expression by what it stands for until there is none, at most `chain` times. -/
def unwrap (resolvers : Registry Resolver) (scene : Scene) :
    (chain : Nat) → Value → Generation Value
  | chain, .mapping params => do
    match ← (Value.mapping params).deferredKind with
    | none => return .mapping params
    | some kind =>
      match chain with
      | 0 => throw (.resolutionOverflow scene.config.maxChain)
      | chain + 1 =>
        match resolvers.get? kind with
        | none => throw (.unknownExpression kind)
        | some resolver => unwrap resolvers scene chain (← resolver scene params)
  | _, v => return v

theorem unwrap_mapping (resolvers : Registry Resolver) (scene : Scene) (chain : Nat)
    (params : Mapping) :
    unwrap resolvers scene chain (.mapping params) = (do
      match ← (Value.mapping params).deferredKind with
      | none => return .mapping params
      | some kind =>
        match chain with
        | 0 => throw (.resolutionOverflow scene.config.maxChain)
        | chain + 1 =>
          match resolvers.get? kind with
          | none => throw (.unknownExpression kind)
          | some resolver => unwrap resolvers scene chain (← resolver scene params)) := by
  rw [unwrap]

/-- Resolve a value with `depth` levels to go. -/
def resolve (resolvers : Registry Resolver) (setting : Setting) :
    (depth : Nat) → Value → Generation Value
  | 0, _ => throw (.resolutionOverflow setting.config.maxDepth)
  | depth + 1, v => do
    let inner := resolve resolvers setting depth
    match ← unwrap resolvers ⟨setting, inner⟩ setting.config.maxChain v with
    | .sequence items => return .sequence (← items.mapM inner)
    | .mapping fields => return .mapping (← fields.mapM inner)
    | v => return v

theorem resolve_succ (resolvers : Registry Resolver) (setting : Setting) (depth : Nat) (v : Value) :
    resolve resolvers setting (depth + 1) v = (do
      match ← unwrap resolvers ⟨setting, resolve resolvers setting depth⟩
        setting.config.maxChain v with
      | .sequence items => return .sequence (← items.mapM (resolve resolvers setting depth))
      | .mapping fields => return .mapping (← fields.mapM (resolve resolvers setting depth))
      | v => return v) := by
  rw [resolve]

/-- The scene of a face's steps. -/
def scene (resolvers : Registry Resolver) (setting : Setting) : Scene :=
  ⟨setting, resolve resolvers setting setting.config.maxDepth⟩

end CardPress.Generation
