import CardPress.Proofs.Generation.Resolved

/-!
# Values without expressions

A value that has no expression in it is resolved to itself, as long as it is no taller than there
are levels to go; if it is taller, this is a fault, whatever lies in its other branches. The
boundary is exact, and it is the same for every part of the value: parts that are resolved one after
the other start from the same level.

## Main definitions

* `Value.ExpressionFree` — no part of a value is an expression.
* `Value.height` — how many levels a value takes up.

## Main results

* `Generation.resolved_iff` — what resolving returns is what has no expressions and fits.
* `Generation.resolve_expressionFree` — what becomes of such a value at any depth.
-/

namespace CardPress

namespace Value

/-- No mapping in the value is an expression. -/
def ExpressionFree (v : Value) : Prop :=
  ∀ fields, (mapping fields).Occurs v → fields.contains deferredKey = false

mutual

/-- How many levels a value takes up: a container one more than the tallest value in it. -/
def height : Value → ℕ
  | .sequence items => itemsHeight items + 1
  | .mapping ⟨entries⟩ => entriesHeight entries + 1
  | _ => 1

def itemsHeight : List Value → ℕ
  | [] => 0
  | v :: rest => max v.height (itemsHeight rest)

def entriesHeight : List (String × Value) → ℕ
  | [] => 0
  | (_, v) :: rest => max v.height (entriesHeight rest)

end

theorem itemsHeight_le_iff {items : List Value} {n : ℕ} :
    itemsHeight items ≤ n ↔ ∀ v ∈ items, v.height ≤ n := by
  induction items with
  | nil => simp [itemsHeight]
  | cons v rest ih => simp [itemsHeight, ih]

theorem entriesHeight_le_iff {entries : List (String × Value)} {n : ℕ} :
    entriesHeight entries ≤ n ↔ ∀ e ∈ entries, e.2.height ≤ n := by
  induction entries with
  | nil => simp [entriesHeight]
  | cons e rest ih => simp [entriesHeight, ih]

@[simp] theorem height_sequence_le_iff {items : List Value} {n : ℕ} :
    (sequence items).height ≤ n + 1 ↔ ∀ v ∈ items, v.height ≤ n := by
  rw [height, Nat.add_le_add_iff_right, itemsHeight_le_iff]

@[simp] theorem height_mapping_le_iff {fields : Mapping} {n : ℕ} :
    (mapping fields).height ≤ n + 1 ↔ ∀ e ∈ fields.entries, e.2.height ≤ n := by
  rw [height, Nat.add_le_add_iff_right, entriesHeight_le_iff]

theorem one_le_height (v : Value) : 1 ≤ v.height := by
  cases v <;> simp [height]

namespace ExpressionFree

variable {v : Value} {items : List Value} {fields : Mapping}

theorem item (h : (sequence items).ExpressionFree) (hv : v ∈ items) : v.ExpressionFree :=
  fun fields ho => h fields (.item hv ho)

theorem field (h : (mapping fields).ExpressionFree) {e : String × Value} (he : e ∈ fields.entries) :
    e.2.ExpressionFree :=
  fun inner ho => h inner (.field he ho)

theorem deferredKind (h : v.ExpressionFree) : v.deferredKind = .ok none := by
  cases v with
  | mapping fields => exact (Generation.deferredKind_mapping fields).2 (h fields .self)
  | null | bool | number | string | sequence | image | font => rfl

end ExpressionFree

end Value

namespace Generation

variable {resolvers : Registry Resolver} {setting : Setting} {s : State}

/-- Plain data for some levels has no expressions and is no taller than these levels. -/
theorem resolved_iff {depth : ℕ} {v : Value} :
    Resolved depth v ↔ v.ExpressionFree ∧ v.height ≤ depth := by
  constructor
  · refine fun h => ⟨fun fields ho => h.not_deferred ho, ?_⟩
    induction h with
    | @leaf depth v hs hm =>
      cases v with
      | sequence items => exact absurd rfl (hs items)
      | mapping fields => exact absurd rfl (hm fields)
      | null | bool | number | string | image | font => exact Nat.le_add_left 1 depth
    | sequence _ ih => exact Value.height_sequence_le_iff.2 ih
    | mapping _ _ ih => exact Value.height_mapping_le_iff.2 ih
  · rintro ⟨hfree, hheight⟩
    induction depth generalizing v with
    | zero => exact absurd (v.one_le_height.trans hheight) (by simp)
    | succ depth ih =>
      cases v with
      | sequence items =>
        rw [Value.height_sequence_le_iff] at hheight
        exact .sequence fun x hx => ih (hfree.item hx) (hheight x hx)
      | mapping fields =>
        rw [Value.height_mapping_le_iff] at hheight
        exact .mapping (hfree fields .self) fun e he => ih (hfree.field he) (hheight e he)
      | null | bool | number | string | image | font => exact .leaf (by simp) (by simp)

/-- A value without expressions that is too tall overflows: the items before the first one that is
too tall are resolved, and nothing comes of the others. -/
theorem resolve_eq_error_of_height {depth : ℕ} {v : Value} (h : v.ExpressionFree)
    (hheight : depth < v.height) :
    resolve resolvers setting depth v s =
      .error (.resolutionOverflow setting.config.maxDepth) s := by
  induction depth generalizing v s with
  | zero => rfl
  | succ depth ih =>
    have hresolve (x : Value) (hx : x.ExpressionFree) :
        (∀ t, resolve resolvers setting depth x t = .ok x t) ∨
          ∀ t, resolve resolvers setting depth x t =
            .error (.resolutionOverflow setting.config.maxDepth) t := by
      by_cases hfits : x.height ≤ depth
      · exact .inl fun t => (resolved_iff.2 ⟨hx, hfits⟩).resolve_eq setting
      · exact .inr fun t => ih hx (Nat.lt_of_not_le hfits)
    rw [resolve_succ, bind_of_ok _ (unwrap_of_deferredKind h.deferredKind)]
    rw [← Nat.not_le] at hheight
    cases v with
    | sequence items =>
      simp only [Value.height_sequence_le_iff, not_forall, Nat.not_le] at hheight
      obtain ⟨x, hx, htall⟩ := hheight
      refine bind_of_error _ (mapM_eq_error (fun y hy => hresolve y (h.item hy)) ⟨x, hx, ?_⟩)
      exact fun t => ih (h.item hx) htall
    | mapping fields =>
      simp only [Value.height_mapping_le_iff, not_forall, Nat.not_le] at hheight
      obtain ⟨e, he, htall⟩ := hheight
      refine bind_of_error _
        (Dict.mapM_eq_error (fun y hy => hresolve y.2 (h.field hy)) ⟨e, he, ?_⟩)
      exact fun t => ih (h.field he) htall
    | null | bool | number | string | image | font => simp [Value.height] at hheight

/-- A value without expressions, met within some others, is resolved to just itself if what is left
of the levels is enough for it, and overflows if not. Either way nothing else happens: it makes no
difference what expressions there are, and the state stays as it is. -/
theorem resolve_expressionFree {v : Value}
    (h : ∀ fields, (Value.mapping fields).Occurs v → fields.contains Value.deferredKey = false)
    (resolvers : Registry Resolver) (setting : Setting) (nesting : ℕ) (s : State) :
    resolve resolvers setting (setting.config.maxDepth - nesting) v s =
      if nesting + v.height ≤ setting.config.maxDepth then .ok v s
      else .error (.resolutionOverflow setting.config.maxDepth) s := by
  have hfree : v.ExpressionFree := h
  have hpositive := v.one_le_height
  split
  · next hfits => exact (resolved_iff.2 ⟨hfree, by omega⟩).resolve_eq setting
  · next htall => exact resolve_eq_error_of_height hfree (by omega)

/-- A mapping with a table whose first row is the tallest. -/
def tableValue : Value :=
  .mapping ⟨[("rows", .sequence [.sequence [.bool true], .null])]⟩

/-- Four levels for each value. -/
def fourLevels : Setting :=
  { lazySetting with config := { Config.standard with maxDepth := 4 } }

/-- The table takes up all four levels, so it is resolved, but not within another value. -/
theorem resolve_expressionFree_table :
    (∀ fields, (Value.mapping fields).Occurs tableValue →
        fields.contains Value.deferredKey = false) ∧
      resolve lazyResolvers fourLevels (4 - 0) tableValue lazyState = .ok tableValue lazyState ∧
      resolve lazyResolvers fourLevels (4 - 1) tableValue lazyState =
        .error (.resolutionOverflow 4) lazyState := by
  have hresolved : resolve lazyResolvers fourLevels 4 tableValue lazyState =
      .ok tableValue lazyState := by
    cbv
  have hfree := (resolved_iff.1 (resolved_of_resolve hresolved)).1
  exact ⟨hfree, resolve_expressionFree hfree lazyResolvers fourLevels 0 lazyState,
    resolve_expressionFree hfree lazyResolvers fourLevels 1 lazyState⟩

end Generation

end CardPress
