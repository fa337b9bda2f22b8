import CardPress.Proofs.Capabilities
import CardPress.Proofs.Generation.FailingStep
import CardPress.Proofs.Generation.Rewriting

/-!
# Copies of a mapping

An expression for copies of a mapping makes them all at once, and then they are resolved one after
the other, with one level less to go and with rewritings of their own. So it is a map over its
values, in the order of these: what it gives for some values and then others is what it gives for
the former and then for the latter, and the first copy that fails ends it.

## Main definitions

* `Expression.mappedOver` — the expression, given by its values.
* `Expression.copyWith` — the copy for one value.

## Main results

* `Generation.resolveFrom_mappedOver` — the copies are made in one rewriting.
* `Generation.resolve_mappedOver` — the expression as a map over its values.
-/

namespace CardPress

/-- The items of a list and then those of another. -/
def Value.append : Value → Value → Value
  | .sequence items, .sequence more => .sequence (items ++ more)
  | v, _ => v

namespace Scene

open Generation

variable {scene : Scene} {params : Mapping} {name : String} {s : State}

/-- A parameter that resolving leaves as it is. -/
theorem param_of_get? {v : Value} (hget : params.get? name = some v)
    (hv : scene.resolve v s = .ok v s) : scene.param params name s = .ok v s := by
  rw [param, rawParam, hget]
  exact hv

theorem paramOpt_of_get? {v? : Option Value} (hget : params.get? name = v?)
    (hv : ∀ v ∈ v?, scene.resolve v s = .ok v s) :
    scene.paramOpt params name s = .ok (v?.filter (!·.isNull)) s := by
  rw [paramOpt, hget]
  cases v? with
  | none => rfl
  | some v =>
    refine (bind_of_ok _ (hv v rfl)).trans ?_
    rw [Option.filter_some]
    cases v.isNull <;> rfl

end Scene

namespace Expression

/-- The parameters of an expression for one copy of a mapping for each of some values. -/
def mappedParams (template : Mapping) (key : String) (tag : Option Value) (values : List Value) :
    Mapping :=
  .ofList <| [(Value.deferredKey, .string "mapped"), ("map_to", .mapping template),
    ("key", .string key), ("values", .sequence values)] ++ (tag.map ("map_deferred_type", ·)).toList

/-- The expression for one copy of a mapping for each of some values. -/
def mappedOver (template : Mapping) (key : String) (tag : Option Value) (values : List Value) :
    Value :=
  .mapping (mappedParams template key tag values)

/-- The mapping with a value under a key, and then with the tag of an expression; if the key is that
of the tag, this replaces the value. A tag that is null is none. -/
def copyWith (template : Mapping) (key : String) (tag : Option Value) (v : Value) : Value :=
  .mapping <| match tag.filter (!·.isNull) with
    | some tag => (template.insert key v).insert Value.deferredKey tag
    | none => template.insert key v

section

variable {template : Mapping} {key : String} {tag : Option Value} {values : List Value}

theorem get?_mappedParams_of_ne {name : String} (hname : name ≠ "map_deferred_type") :
    (mappedParams template key tag values).get? name =
      [("values", .sequence values), ("key", .string key), ("map_to", .mapping template),
        (Value.deferredKey, .string "mapped")].lookup name := by
  rw [mappedParams, Dict.get?_ofList]
  cases tag with
  | none => rfl
  | some tag => simp [List.lookup_cons, beq_eq_false_iff_ne.2 hname]

theorem get?_mappedParams_tag :
    (mappedParams template key tag values).get? "map_deferred_type" = tag := by
  rw [mappedParams, Dict.get?_ofList]
  cases tag <;> rfl

open Generation in
/-- Where resolving leaves the parameters as they are, the copies come at once. -/
theorem mapped_mappedParams {scene : Scene} {s : State}
    (hplain : ∀ v ∈ [.mapping template, .string key, .sequence values] ++ tag.toList,
      scene.resolve v s = .ok v s) :
    mapped scene (mappedParams template key tag values) s =
      .ok (.sequence (values.map (copyWith template key tag))) s := by
  have hparam {name : String} {v : Value} (hname : name ≠ "map_deferred_type")
      (hget : [("values", .sequence values), ("key", .string key), ("map_to", .mapping template),
        (Value.deferredKey, .string "mapped")].lookup name = some v)
      (hv : v ∈ [.mapping template, .string key, .sequence values] ++ tag.toList) :
      scene.param (mappedParams template key tag values) name s = .ok v s :=
    Scene.param_of_get? ((get?_mappedParams_of_ne hname).trans hget) (hplain v hv)
  have htag : ∀ v ∈ tag, scene.resolve v s = .ok v s :=
    fun v hv => hplain v (List.mem_append_right _ (Option.mem_toList.2 hv))
  rw [mapped]
  refine bind_ok_iff.2 ⟨_, s, hparam (by simp) rfl (by simp), ?_⟩
  refine bind_ok_iff.2 ⟨template, s, rfl, ?_⟩
  refine bind_ok_iff.2 ⟨_, s, hparam (by simp) rfl (by simp), ?_⟩
  refine bind_ok_iff.2 ⟨key, s, rfl, ?_⟩
  refine bind_ok_iff.2 ⟨_, s, hparam (by simp) rfl (by simp), ?_⟩
  refine bind_ok_iff.2 ⟨values, s, rfl, ?_⟩
  exact bind_ok_iff.2 ⟨_, s, Scene.paramOpt_of_get? get?_mappedParams_tag htag, rfl⟩

end

end Expression

namespace Generation

/-- A list of what becomes of some values, one after the other. -/
def sequenceOf (f : Value → Generation Value) (values : List Value) : Generation Value := do
  return .sequence (← values.mapM f)

section

variable {f : Value → Generation Value} {values : List Value} {s t : State} {v : Value}
  {fault : Fault}

theorem sequenceOf_append (f : Value → Generation Value) (xs ys : List Value) :
    sequenceOf f (xs ++ ys) = (do
      let first ← sequenceOf f xs
      let rest ← sequenceOf f ys
      return first.append rest) := by
  simp [sequenceOf, List.mapM_append, Value.append]

theorem sequenceOf_ok_iff :
    sequenceOf f values s = .ok v t ↔
      ∃ items, v = .sequence items ∧ values.mapM f s = .ok items t := by
  rw [sequenceOf, bind_ok_iff]
  constructor
  · rintro ⟨items, u, hitems, hv⟩
    obtain ⟨rfl, rfl⟩ := pure_ok_iff.1 hv
    exact ⟨items, rfl, hitems⟩
  · rintro ⟨items, rfl, hitems⟩
    exact ⟨items, t, hitems, rfl⟩

/-- The list fails at the first value that does, with a list of those before it made. -/
theorem sequenceOf_error_iff :
    sequenceOf f values s = .error fault t ↔
      ∃ i v items u, values[i]? = some v ∧
        sequenceOf f (values.take i) s = .ok (.sequence items) u ∧ f v u = .error fault t := by
  have hmapM : sequenceOf f values s = .error fault t ↔ values.mapM f s = .error fault t := by
    rw [sequenceOf, bind_error_iff]
    refine or_iff_left ?_
    rintro ⟨_, _, -, h⟩
    cases h
  simp only [hmapM, mapM_error_iff, sequenceOf_ok_iff, Value.sequence.injEq, exists_eq_left']

end

variable {resolvers : Registry Resolver} {setting : Setting} {depth chain : ℕ}
  {template : Mapping} {key : String} {tag : Option Value} {values : List Value}

open Expression

/-- Where any value fits, so does a text. -/
theorem Resolved.text {v : Value} (h : Resolved depth v) (text : String) :
    Resolved depth (.string text) := by
  cases h with
  | leaf | sequence | mapping => exact .leaf (by simp) (by simp)

theorem Resolved.sequence_of_subset {items : List Value} (h : Resolved depth (.sequence items))
    (hvalues : values ⊆ items) : Resolved depth (.sequence values) := by
  cases h with
  | leaf hs hm => exact absurd rfl (hs items)
  | sequence h => exact .sequence fun v hv => h v (hvalues hv)

/-- The copies are made in one rewriting and resolved with one level less to go. -/
theorem resolveFrom_mappedOver (hmapped : resolvers.get? "mapped" = some mapped)
    (hplain : ∀ v ∈ [.mapping template, .string key, .sequence values] ++ tag.toList,
      Resolved depth v) :
    resolveFrom resolvers setting (depth + 1) (chain + 1) (mappedOver template key tag values) =
      sequenceOf (fun v => resolve resolvers setting depth (copyWith template key tag v))
        values := by
  have hkind : (mappedParams template key tag values).get? Value.deferredKey =
      some (.string "mapped") :=
    get?_mappedParams_of_ne (by decide)
  rw [mappedOver, resolveFrom_expression hkind hmapped]
  funext s
  refine (bind_of_ok _ (mapped_mappedParams fun v hv => (hplain v hv).resolve_eq setting)).trans ?_
  rw [resolveFrom, bind_of_ok _ (unwrap_of_not_mapping (by simp))]
  show sequenceOf _ (values.map (copyWith template key tag)) s = _
  rw [sequenceOf, List.mapM_map]
  rfl

/-- An expression for copies of plain data, met where it and its parameters fit into the levels to
go and may be rewritten, is the list of what the copies become, each with one level less to go. -/
theorem resolve_mappedOver (hmapped : resolvers.get? "mapped" = some mapped)
    (hchain : 0 < setting.config.maxChain) (template : Mapping) (key : String) (tag : Option Value)
    (xs ys : List Value)
    (hplain : ∀ v ∈ [.mapping template, .sequence (xs ++ ys)] ++ tag.toList,
      v.ExpressionFree ∧ v.height ≤ depth) :
    let copies values := resolve resolvers setting (depth + 1) (mappedOver template key tag values)
    let copy v := resolve resolvers setting depth (copyWith template key tag v)
    copies (xs ++ ys) = (do
      let first ← copies xs
      let rest ← copies ys
      return first.append rest) ∧
    copies xs = (do return .sequence (← xs.mapM copy)) ∧
    (∀ s v t, copies xs s = .ok v t → ∃ items, v = .sequence items ∧
      List.Forall₂ (fun x item => ∃ u u', copy x u = .ok item u') xs items) ∧
    (∀ s fault t, copies xs s = .error fault t ↔ ∃ i x items u, xs[i]? = some x ∧
      copies (xs.take i) s = .ok (.sequence items) u ∧ copy x u = .error fault t) ∧
    copies [] = return .sequence [] := by
  intro copies copy
  have hcopies {values : List Value} (hvalues : values ⊆ xs ++ ys) :
      copies values = sequenceOf copy values := by
    obtain ⟨chain, hrest⟩ := Nat.exists_eq_add_of_lt hchain
    rw [zero_add] at hrest
    show resolve resolvers setting (depth + 1) _ = _
    rw [← resolveFrom_maxChain, hrest]
    refine resolveFrom_mappedOver hmapped fun v hv => ?_
    rw [List.cons_append, List.cons_append, List.forall_mem_cons, List.forall_mem_cons] at hplain
    obtain ⟨htemplate, hitems, htag⟩ := hplain
    rcases List.mem_append.1 hv with hv | hv
    · rw [List.mem_cons, List.mem_cons, List.mem_singleton] at hv
      rcases hv with rfl | rfl | rfl
      · exact resolved_iff.2 htemplate
      · exact (resolved_iff.2 htemplate).text key
      · exact (resolved_iff.2 hitems).sequence_of_subset hvalues
    · exact resolved_iff.2 (htag v hv)
  have hxs := hcopies (List.subset_append_left xs ys)
  refine ⟨?_, hxs, ?_, ?_, hcopies (List.nil_subset _)⟩
  · rw [hcopies (List.Subset.refl _), hxs, hcopies (List.subset_append_right xs ys),
      sequenceOf_append]
  · intro s v t h
    rw [hxs, sequenceOf_ok_iff] at h
    obtain ⟨items, rfl, hitems⟩ := h
    exact ⟨items, rfl, forall₂_of_mapM_ok hitems⟩
  · intro s fault t
    rw [hxs, sequenceOf_error_iff]
    have htake (i : ℕ) : copies (xs.take i) = sequenceOf copy (xs.take i) :=
      hcopies (List.Subset.trans (List.take_subset i xs) (List.subset_append_left xs ys))
    simp only [htake]

/-- A mapping that is an expression once it has the tag for one. -/
def entryTemplate : Mapping := ⟨[("key", .string "entry")]⟩

/-- Copies of the mapping that have their value where the tag belongs. -/
def shadowedCopies (values : List Value) : Generation Value :=
  resolve Capabilities.table.resolvers lazySetting 4
    (mappedOver entryTemplate Value.deferredKey (some (.string "cached")) values)

/-- Whatever the values are, the tag takes their place; the copies are what the cache has, which is
resolved in turn. -/
theorem resolve_mappedOver_shadowed :
    let names := Value.mapping ⟨[("names", .sequence [.string "a"])]⟩
    Capabilities.table.resolvers.get? "mapped" = some mapped ∧ 0 < lazySetting.config.maxChain ∧
      (∀ v ∈ [Value.mapping entryTemplate, .sequence [.null, .string "self", .sequence []],
        .string "cached"], v.ExpressionFree ∧ v.height ≤ 3) ∧
      shadowedCopies ([.null] ++ [.string "self", .sequence []]) = (do
        let first ← shadowedCopies [.null]
        let rest ← shadowedCopies [.string "self", .sequence []]
        return first.append rest) ∧
      shadowedCopies [.null, .string "self", .sequence []] lazyState =
        .ok (.sequence [names, names, names]) lazyState := by
  have hmapped : Capabilities.table.resolvers.get? "mapped" = some mapped := rfl
  have hchain : 0 < lazySetting.config.maxChain := by decide
  have hplain : ∀ v ∈ [Value.mapping entryTemplate, .sequence [.null, .string "self", .sequence []],
      .string "cached"], v.ExpressionFree ∧ v.height ≤ 3 := by
    intro v hv
    have hresolved : resolve lazyResolvers lazySetting 3 v lazyState = .ok v lazyState := by
      simp only [List.mem_cons, List.not_mem_nil, or_false] at hv
      rcases hv with rfl | rfl | rfl <;> cbv
    exact resolved_iff.1 (resolved_of_resolve hresolved)
  have hcopies := resolve_mappedOver hmapped hchain entryTemplate Value.deferredKey
    (some (.string "cached")) [.null] [.string "self", .sequence []] hplain
  exact ⟨hmapped, hchain, hplain, hcopies.1, by cbv⟩

end Generation

end CardPress
