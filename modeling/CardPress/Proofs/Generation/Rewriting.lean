import CardPress.Proofs.Generation.PlainData

/-!
# Rewriting one value

An expression is rewritten by what its resolver makes of it, again and again, and only then is its
content resolved. So the resolving of a value can be taken up between any two of its rewritings,
with what is left of them (`Generation.resolveFrom`). Expressions in the parameters are values of
their own, with rewritings of their own.

## Main definitions

* `Generation.resolveFrom` — resolving a value that has been rewritten before.

## Main results

* `Generation.resolveFrom_expression` — one rewriting takes one from those left.
* `Generation.resolveFrom_expressionFree` — a value without expressions needs none.
-/

namespace CardPress.Generation

/-- Resolve a value with some levels to go that may be rewritten `chain` times more. -/
def resolveFrom (resolvers : Registry Resolver) (setting : Setting) :
    (depth chain : ℕ) → Value → Generation Value
  | 0, _, _ => throw (.resolutionOverflow setting.config.maxDepth)
  | depth + 1, chain, v => do
    let inner := resolve resolvers setting depth
    match ← unwrap resolvers ⟨setting, inner⟩ chain v with
    | .sequence items => return .sequence (← items.mapM inner)
    | .mapping fields => return .mapping (← fields.mapM inner)
    | v => return v

variable {resolvers : Registry Resolver} {setting : Setting} {depth chain : ℕ} {s : State}

/-- A value that has not been rewritten yet may be rewritten as often as the configuration says. -/
theorem resolveFrom_maxChain (resolvers : Registry Resolver) (setting : Setting) (depth : ℕ) :
    resolveFrom resolvers setting depth setting.config.maxChain =
      resolve resolvers setting depth := by
  cases depth with
  | zero => rfl
  | succ depth =>
    funext v
    exact (resolve_succ resolvers setting depth v).symm

section Expression

variable {params : Mapping} {kind : String}
  (hkind : params.get? Value.deferredKey = some (.string kind))

include hkind

theorem deferredKind_of_get? : (Value.mapping params).deferredKind = .ok (some kind) := by
  rw [Value.deferredKind, hkind]

/-- An expression that cannot be rewritten any more overflows. -/
theorem resolveFrom_exhausted :
    resolveFrom resolvers setting (depth + 1) 0 (.mapping params) =
      throw (.resolutionOverflow setting.config.maxChain) := by
  rw [resolveFrom, unwrap_mapping, deferredKind_of_get? hkind]
  rfl

/-- An expression is replaced by what its resolver gives, which may be rewritten once less. -/
theorem resolveFrom_expression {resolver : Resolver}
    (hresolver : resolvers.get? kind = some resolver) :
    resolveFrom resolvers setting (depth + 1) (chain + 1) (.mapping params) = (do
      let v ← resolver ⟨setting, resolve resolvers setting depth⟩ params
      resolveFrom resolvers setting (depth + 1) chain v) := by
  have hunwrap : unwrap resolvers ⟨setting, resolve resolvers setting depth⟩ (chain + 1)
      (.mapping params) = (do
        let v ← resolver ⟨setting, resolve resolvers setting depth⟩ params
        unwrap resolvers ⟨setting, resolve resolvers setting depth⟩ chain v) := by
    rw [unwrap_mapping, deferredKind_of_get? hkind]
    refine (pure_bind (some kind) _).trans ?_
    dsimp only
    rw [hresolver]
  rw [resolveFrom, hunwrap, bind_assoc]
  rfl

end Expression

/-- What is no expression is resolved in the same way whatever is left of the rewritings. -/
theorem resolveFrom_of_deferredKind {v : Value} (h : v.deferredKind = .ok none) :
    resolveFrom resolvers setting depth chain v s = resolve resolvers setting depth v s := by
  cases depth with
  | zero => rfl
  | succ depth =>
    rw [resolve_succ, bind_of_ok _ (unwrap_of_deferredKind h)]
    exact bind_of_ok _ (unwrap_of_deferredKind h)

/-- A value without expressions is resolved to itself if it is no taller than there are levels to
go. -/
theorem resolveFrom_expressionFree {v : Value} (h : v.ExpressionFree) :
    resolveFrom resolvers setting depth chain v s =
      if v.height ≤ depth then .ok v s
      else .error (.resolutionOverflow setting.config.maxDepth) s := by
  rw [resolveFrom_of_deferredKind h.deferredKind]
  split
  · next hfits => exact (resolved_iff.2 ⟨h, hfits⟩).resolve_eq setting
  · next htall => exact resolve_eq_error_of_height h (Nat.lt_of_not_le htall)

end CardPress.Generation
