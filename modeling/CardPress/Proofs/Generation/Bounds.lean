import CardPress.Proofs.Generation.Drawing
import CardPress.Proofs.Generation.Resolved

/-!
# How far drawing goes

Drawing calls itself in three ways: a face has templates drawn on its behalf, resolving a value
resolves what it contains and the parameters of expressions, and an expression gives another one.
Here all three are written down once more without a reason to end: counters run upwards, and only
the checks that the press makes turn a call away. A watch goes along. It raises an alarm where more
faces would be drawn at once, or values resolved within one another, or one value rewritten, than it
allows, and where a face would be drawn within itself. What an alarm does is left open; since it
makes no difference to what is drawn, none is ever raised.

## Main definitions

* `Alarm`, `Limits` — what a watch does and what it allows.
* `Generation.unwrapWatched`, `Generation.resolveWatched`, `Press.drawWatched` — watched drawing.

## Main result

* `Press.generate_watched` — watched drawing is drawing, whatever the alarm.
-/

namespace CardPress

/-- What is done where a watch would be passed. -/
structure Alarm where
  rewriting : Scene → Mapping → Generation Value
  resolving : Setting → Value → Generation Value
  drawing : Lineage → CardFace → Generation (Option Image)

/-- What a watch allows. -/
structure Limits where
  /-- Faces being drawn at once. -/
  faces : Nat
  /-- Values being resolved within one another for one face. -/
  levels : Nat
  /-- Rewritings of one value. -/
  rewritings : Nat

namespace Generation

/-- Unwrap a value that was rewritten `count` times already, with `left` rewritings allowed. -/
def unwrapWatched (alarm : Alarm) (resolvers : Registry Resolver) (scene : Scene) :
    (left count : Nat) → Value → Generation Value
  | left, count, .mapping params => do
    match ← (Value.mapping params).deferredKind with
    | none => return .mapping params
    | some kind =>
      if count = scene.config.maxChain then throw (.resolutionOverflow scene.config.maxChain)
      else
        match resolvers.get? kind with
        | none => throw (.unknownExpression kind)
        | some resolver =>
          match left with
          | 0 => alarm.rewriting scene params
          | left + 1 =>
            unwrapWatched alarm resolvers scene left (count + 1) (← resolver scene params)
  | _, _, v => return v

/-- Resolve a value within `nesting` others, with `left` levels allowed. -/
def resolveWatched (alarm : Alarm) (rewritings : Nat) (resolvers : Registry Resolver)
    (setting : Setting) : (left nesting : Nat) → Value → Generation Value
  | left, nesting, v => do
    if setting.config.maxDepth ≤ nesting then throw (.resolutionOverflow setting.config.maxDepth)
    else
      match left with
      | 0 => alarm.resolving setting v
      | left + 1 =>
        let inner := resolveWatched alarm rewritings resolvers setting left (nesting + 1)
        match ← unwrapWatched alarm resolvers ⟨setting, inner⟩ rewritings 0 v with
        | .sequence items => return .sequence (← items.mapM inner)
        | .mapping fields => return .mapping (← fields.mapM inner)
        | v => return v

variable (alarm : Alarm) (resolvers : Registry Resolver)

theorem unwrapWatched_mapping (scene : Scene) (left count : Nat) (params : Mapping) :
    unwrapWatched alarm resolvers scene left count (.mapping params) = (do
      match ← (Value.mapping params).deferredKind with
      | none => return .mapping params
      | some kind =>
        if count = scene.config.maxChain then throw (.resolutionOverflow scene.config.maxChain)
        else
          match resolvers.get? kind with
          | none => throw (.unknownExpression kind)
          | some resolver =>
            match left with
            | 0 => alarm.rewriting scene params
            | left + 1 =>
              unwrapWatched alarm resolvers scene left (count + 1) (← resolver scene params)) := by
  rw [unwrapWatched]

theorem unwrapWatched_of_not_mapping (scene : Scene) (left count : Nat) {v : Value}
    (h : ∀ params, v ≠ .mapping params) :
    unwrapWatched alarm resolvers scene left count v = pure v := by
  cases v with
  | mapping params => exact absurd rfl (h params)
  | _ => cases left <;> rfl

/-- No value is rewritten more often than allowed. -/
theorem unwrapWatched_eq (scene : Scene) {chain left count : Nat} (hl : chain ≤ left)
    (hc : count + chain = scene.config.maxChain) (v : Value) :
    unwrapWatched alarm resolvers scene left count v = unwrap resolvers scene chain v := by
  by_cases hv : ∀ params, v ≠ .mapping params
  · rw [unwrapWatched_of_not_mapping alarm resolvers scene left count hv]
    exact funext fun s => (unwrap_of_not_mapping hv).symm
  · obtain ⟨params, rfl⟩ : ∃ params, v = .mapping params := by simpa using hv
    rw [unwrapWatched_mapping, unwrap_mapping]
    refine bind_congr fun kind? => ?_
    cases kind? with
    | none => rfl
    | some kind =>
      cases chain with
      | zero => exact if_pos (by omega)
      | succ chain =>
        obtain ⟨left, rfl⟩ : ∃ l, left = l + 1 := ⟨left - 1, by omega⟩
        refine (if_neg (by omega)).trans ?_
        dsimp only
        cases resolvers.get? kind with
        | none => rfl
        | some resolver =>
          exact bind_congr fun w => unwrapWatched_eq scene (by omega) (by omega) w
termination_by chain

/-- Nothing is resolved within more values than allowed. -/
theorem resolveWatched_eq {rewritings : Nat} (setting : Setting)
    (hr : setting.config.maxChain ≤ rewritings) {depth left nesting : Nat} (hl : depth ≤ left)
    (hn : nesting + depth = setting.config.maxDepth) (v : Value) :
    resolveWatched alarm rewritings resolvers setting left nesting v =
      resolve resolvers setting depth v := by
  induction depth generalizing left nesting v with
  | zero =>
    cases left <;> exact if_pos (by omega)
  | succ depth ih =>
    obtain ⟨left, rfl⟩ : ∃ l, left = l + 1 := ⟨left - 1, by omega⟩
    have inner : resolveWatched alarm rewritings resolvers setting left (nesting + 1) =
        resolve resolvers setting depth := by
      funext w
      exact ih (by omega) (by omega) w
    rw [resolveWatched, if_neg (by omega)]
    simp only [inner]
    rw [unwrapWatched_eq alarm resolvers _ hr (by simp)]
    exact (resolve_succ resolvers setting depth v).symm

end Generation

namespace Press

/-- Draw a face for a lineage, with `left` faces allowed to be drawn. -/
def drawWatched (press : Press) (alarm : Alarm) (limits : Limits) :
    (left : Nat) → Lineage → CardFace → Generation (Option Image)
  | 0, parents, face => alarm.drawing parents face
  | left + 1, parents, face =>
    if ((active parents face).map (·.serial)).Nodup then
      press.drawOnce
        (fun setting => Generation.resolveWatched alarm limits.rewritings
          press.capabilities.resolvers setting limits.levels 0)
        (press.drawWatched alarm limits left) parents face
    else alarm.drawing parents face

/-- Draw a face for its own sake under a watch. -/
def generateWatched (press : Press) (alarm : Alarm) (limits : Limits) (face : CardFace)
    (run : Run) : Except Fault (Option Image) × Run :=
  run.perform (press.drawWatched alarm limits limits.faces [] face)

/-- No values are resolved beyond the limits that the configuration sets. -/
theorem resolveWatched_eq_resolving {press : Press} {limits : Limits} {setting : Setting}
    (alarm : Alarm) (hlevels : press.config.maxDepth ≤ limits.levels)
    (hrewritings : press.config.maxChain ≤ limits.rewritings)
    (hs : setting.config = press.config) :
    Generation.resolveWatched alarm limits.rewritings press.capabilities.resolvers setting
      limits.levels 0 = press.resolving setting := by
  funext v
  rw [← hs] at hlevels hrewritings
  exact Generation.resolveWatched_eq alarm _ setting hrewritings hlevels (by simp) v

theorem any_active (parents : Lineage) (face template : CardFace) (composition : Composition) :
    (active parents face).any (·.serial == template.serial) =
      Lineage.isDrawing (⟨face, composition⟩ :: parents) template := by
  simp [active, Lineage.isDrawing, List.any_map, Function.comp_def]

/-- One more face being drawn is not among those before. -/
theorem nodup_active_cons {parents : Lineage} {face template : CardFace}
    (hd : ((active parents face).map (·.serial)).Nodup)
    (ht : (active parents face).any (·.serial == template.serial) = false) :
    ((template :: active parents face).map (·.serial)).Nodup := by
  refine List.nodup_cons.2 ⟨fun hm => ?_, hd⟩
  obtain ⟨f, hf, hs⟩ := List.mem_map.1 hm
  exact absurd (beq_iff_eq.2 hs) (List.any_eq_false.1 ht f hf)

/-- Watched drawing is drawing if the templates that are still idle fit into the faces that are
allowed. -/
theorem drawWatched_eq {press : Press} (alarm : Alarm) {limits : Limits}
    (hlevels : press.config.maxDepth ≤ limits.levels)
    (hrewritings : press.config.maxChain ≤ limits.rewritings) {left : Nat} {parents : Lineage}
    {face : CardFace} (hd : ((active parents face).map (·.serial)).Nodup)
    (hi : (press.idle (active parents face)).length < left) :
    press.drawWatched alarm limits left parents face = press.drawFace parents face := by
  induction left generalizing parents face with
  | zero => exact absurd hi (by omega)
  | succ left ih =>
    rw [drawWatched, if_pos hd, drawFace_eq]
    refine drawOnce_congr (fun setting hs =>
      resolveWatched_eq_resolving alarm hlevels hrewritings hs) ?_
    intro composition label template hl ht
    rw [← any_active] at ht
    have hlt : (press.idle (template :: active parents face)).length <
        (press.idle (active parents face)).length := length_idle_cons hl ht
    exact ih (nodup_active_cons hd ht) (Nat.lt_of_lt_of_le hlt (Nat.le_of_lt_succ hi))

/-- Drawing ends, and does so within bounds: never is a face drawn within itself, never are more
faces drawn at once than the pool has and one, and for none of them are values resolved deeper or
rewritten more often than configured. Whatever is allowed beyond that, and whatever would be done
where more was needed, drawing gives the same. -/
theorem generate_watched (press : Press) (alarm : Alarm) (faces levels rewritings : Nat)
    (face : CardFace) (run : Run) :
    press.generateWatched alarm
      ⟨press.pool.size + 1 + faces, press.config.maxDepth + levels,
        press.config.maxChain + rewritings⟩ face run = press.generate face run := by
  have hidle : (press.idle (active [] face)).length ≤ press.pool.size :=
    calc (press.idle (active [] face)).length
      _ ≤ (press.pool.faces.entries.map (·.2)).length := List.length_filter_le _ _
      _ = press.pool.size := List.length_map _
  refine congrArg run.perform (drawWatched_eq alarm ?_ ?_ ?_ ?_)
  · exact Nat.le_add_right _ _
  · exact Nat.le_add_right _ _
  · simp [active]
  · dsimp only
    omega

end Press

end CardPress
