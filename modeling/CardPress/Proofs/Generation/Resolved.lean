import CardPress.Expression.Data
import CardPress.Expression.Face
import CardPress.Generation.Resolve
import CardPress.Proofs.Dict
import CardPress.Proofs.Outcome
import CardPress.Proofs.Value.Parts

/-!
# Resolved values

What resolving returns holds no expression any more, however the expressions it met were resolved,
and it is shallow enough to be resolved again within the same number of levels. So resolving it
again changes nothing.

## Main definitions

* `Generation.Resolved` — plain data that fits into a number of levels.

## Main result

* `Generation.resolve_closed` — what resolving returns is closed and stays as it is.
-/

namespace CardPress

/-! ## Dictionaries -/

namespace Dict

variable {α β : Type}

/-- Whether a key is there depends on the keys alone. -/
theorem contains_congr {d : Dict α} {d' : Dict β} (h : d.keys = d'.keys) (key : String) :
    d.contains key = d'.contains key := by
  rw [Bool.eq_iff_iff, contains_iff, contains_iff, h]

theorem keys_of_forall₂ {p : β → Prop} {entries : List (String × α)}
    {entries' : List (String × β)}
    (h : List.Forall₂ (fun e e' => e'.1 = e.1 ∧ p e'.2) entries entries') :
    entries'.map (·.1) = entries.map (·.1) ∧ ∀ e ∈ entries', p e.2 := by
  induction h with
  | nil => simp
  | cons hx _ ih =>
    refine ⟨?_, List.forall_mem_cons.2 ⟨hx.2, ih.2⟩⟩
    rw [List.map_cons, List.map_cons, hx.1, ih.1]

open Generation in
/-- Computing the values keeps the keys, and each new value comes from an old one. -/
theorem keys_mapM {f : α → Generation β} {d : Dict α} {d' : Dict β} {s s' : State}
    (h : d.mapM f s = .ok d' s') :
    d'.keys = d.keys ∧ ∀ e ∈ d'.entries, ∃ x t t', f x t = .ok e.2 t' := by
  obtain ⟨entries, t, he, hd⟩ := bind_ok_iff.1 h
  cases (pure_ok_iff.1 hd).1
  refine keys_of_forall₂ (p := fun y => ∃ x t t', f x t = .ok y t')
    ((forall₂_of_mapM_ok he).imp ?_)
  rintro ⟨k, x⟩ e ⟨t, t', hx⟩
  obtain ⟨y, t'', hy, hp⟩ := bind_ok_iff.1 hx
  cases (pure_ok_iff.1 hp).1
  exact ⟨rfl, x, t, t'', hy⟩

open Generation in
theorem mapM_of_forall {f : α → Generation α} {d : Dict α} {s : State}
    (h : ∀ e ∈ d.entries, ∀ t, f e.2 t = .ok e.2 t) : d.mapM f s = .ok d s := by
  refine bind_of_ok _ (Generation.mapM_of_forall fun e he t => ?_)
  exact bind_of_ok _ (h e he t)

open Generation in
theorem mapM_eq_error {f : α → Generation α} {d : Dict α} {fault : Fault} {s : State}
    (h : ∀ e ∈ d.entries, (∀ t, f e.2 t = .ok e.2 t) ∨ ∀ t, f e.2 t = .error fault t)
    (hfails : ∃ e ∈ d.entries, ∀ t, f e.2 t = .error fault t) : d.mapM f s = .error fault s := by
  obtain ⟨e, he, hfault⟩ := hfails
  refine bind_of_error _ (Generation.mapM_eq_error (fun e' he' => ?_) ⟨e, he, fun t => ?_⟩)
  · exact (h e' he').imp (fun hok t => bind_of_ok _ (hok t)) fun hfault t =>
      bind_of_error _ (hfault t)
  · exact bind_of_error _ (hfault t)

end Dict

namespace Generation

/-- A value without expressions, shallow enough for a number of levels. -/
inductive Resolved : Nat → Value → Prop where
  | leaf {depth : Nat} {v : Value} (hs : ∀ items, v ≠ .sequence items)
      (hm : ∀ fields, v ≠ .mapping fields) : Resolved (depth + 1) v
  | sequence {depth : Nat} {items : List Value} (h : ∀ x ∈ items, Resolved depth x) :
      Resolved (depth + 1) (.sequence items)
  | mapping {depth : Nat} {fields : Mapping} (hd : fields.contains Value.deferredKey = false)
      (h : ∀ e ∈ fields.entries, Resolved depth e.2) : Resolved (depth + 1) (.mapping fields)

variable {resolvers : Registry Resolver} {s s' : State}

/-- No part of a resolved value is an expression. -/
theorem Resolved.not_deferred {depth : Nat} {w : Value} (h : Resolved depth w) {fields : Mapping}
    (ho : (Value.mapping fields).Occurs w) : fields.contains Value.deferredKey = false := by
  induction ho generalizing depth with
  | self =>
    cases h with
    | leaf hs hm => exact absurd rfl (hm fields)
    | mapping hd _ => exact hd
  | item hx _ ih =>
    cases h with
    | leaf hs hm => exact absurd rfl (hs _)
    | sequence h => exact ih (h _ hx)
  | field he _ ih =>
    cases h with
    | leaf hs hm => exact absurd rfl (hm _)
    | mapping _ h => exact ih (h _ he)

/-! ## Unwrapping -/

theorem deferredKind_mapping (fields : Mapping) :
    (Value.mapping fields).deferredKind = .ok none ↔
      fields.contains Value.deferredKey = false := by
  rw [Value.deferredKind, Dict.contains]
  cases fields.get? Value.deferredKey with
  | none => simp
  | some v => cases v <;> simp [Value.invalid]

theorem unwrap_of_not_mapping {scene : Scene} {chain : Nat} {v : Value}
    (h : ∀ fields, v ≠ .mapping fields) : unwrap resolvers scene chain v s = .ok v s := by
  cases v with
  | mapping fields => exact absurd rfl (h fields)
  | _ => cases chain <;> rfl

/-- A mapping that is unwrapped is no expression, or its resolver gives a value that is unwrapped
in turn. -/
theorem unwrap_mapping_ok {scene : Scene} {chain : Nat} {params : Mapping} {w : Value}
    (h : unwrap resolvers scene chain (.mapping params) s = .ok w s') :
    ((Value.mapping params).deferredKind = .ok none ∧ w = .mapping params ∧ s' = s) ∨
    ∃ kind rest resolver v t, (Value.mapping params).deferredKind = .ok (some kind) ∧
      chain = rest + 1 ∧ resolvers.get? kind = some resolver ∧
      resolver scene params s = .ok v t ∧ unwrap resolvers scene rest v t = .ok w s' := by
  rw [unwrap_mapping] at h
  obtain ⟨kind?, t, hlift, h⟩ := bind_ok_iff.1 h
  obtain ⟨hk, rfl⟩ := ofExcept_ok_iff.1 hlift
  cases kind? with
  | none =>
    obtain ⟨rfl, rfl⟩ := pure_ok_iff.1 h
    exact .inl ⟨hk, rfl, rfl⟩
  | some kind =>
    cases chain with
    | zero => cases h
    | succ rest =>
      dsimp only at h
      cases hr : resolvers.get? kind with
      | none => simp only [hr] at h; cases h
      | some resolver =>
        simp only [hr] at h
        obtain ⟨v, t, hv, h⟩ := bind_ok_iff.1 h
        exact .inr ⟨kind, rest, resolver, v, t, hk, rfl, hr, hv, h⟩

/-- What unwrapping ends with is no expression. -/
theorem deferredKind_of_unwrap {scene : Scene} {chain : Nat} {v w : Value} {s s' : State}
    (h : unwrap resolvers scene chain v s = .ok w s') : w.deferredKind = .ok none := by
  by_cases hv : ∀ params, v ≠ .mapping params
  · rw [unwrap_of_not_mapping hv] at h
    cases h
    cases v with
    | mapping params => exact absurd rfl (hv params)
    | _ => rfl
  · obtain ⟨params, rfl⟩ : ∃ params, v = .mapping params := by simpa using hv
    rcases unwrap_mapping_ok h with
      ⟨hk, rfl, -⟩ | ⟨kind, rest, resolver, v, t, -, rfl, -, -, hrest⟩
    · exact hk
    · exact deferredKind_of_unwrap hrest
termination_by chain

/-- A value that is no expression is not unwrapped. -/
theorem unwrap_of_deferredKind {scene : Scene} {chain : Nat} {v : Value}
    (h : v.deferredKind = .ok none) : unwrap resolvers scene chain v s = .ok v s := by
  cases v with
  | mapping params =>
    rw [unwrap_mapping, bind_of_ok _ (ofExcept_ok_iff.2 ⟨h, rfl⟩)]
    rfl
  | _ => exact unwrap_of_not_mapping (by simp)

/-! ## Resolving -/

/-- Within the levels it was given, resolving makes a value plain. -/
theorem resolved_of_resolve {setting : Setting} {depth : Nat} {v w : Value}
    (h : resolve resolvers setting depth v s = .ok w s') : Resolved depth w := by
  induction depth generalizing v w s s' with
  | zero => cases h
  | succ depth ih =>
    rw [resolve_succ] at h
    obtain ⟨u, t, hu, h⟩ := bind_ok_iff.1 h
    have hk := deferredKind_of_unwrap hu
    cases u with
    | sequence items =>
      obtain ⟨items', t', hitems, h⟩ := bind_ok_iff.1 h
      cases (pure_ok_iff.1 h).1
      refine .sequence fun y hy => ?_
      obtain ⟨x, t, t', hx⟩ := exists_of_mapM_ok hitems y hy
      exact ih hx
    | mapping fields =>
      obtain ⟨fields', t', hfields, h⟩ := bind_ok_iff.1 h
      cases (pure_ok_iff.1 h).1
      obtain ⟨hkeys, hvalues⟩ := Dict.keys_mapM hfields
      refine .mapping ?_ fun e he => ?_
      · rw [Dict.contains_congr hkeys]
        exact (deferredKind_mapping fields).1 hk
      · obtain ⟨x, t, t', hx⟩ := hvalues e he
        exact ih hx
    | _ =>
      cases (pure_ok_iff.1 h).1
      exact .leaf (by simp) (by simp)

/-- Resolving plain data within enough levels gives it back. -/
theorem Resolved.resolve_eq {depth : Nat} {w : Value} (h : Resolved depth w) (setting : Setting) :
    resolve resolvers setting depth w s = .ok w s := by
  induction h generalizing s with
  | @leaf depth v hs hm =>
    rw [resolve_succ, bind_of_ok _ (unwrap_of_not_mapping hm)]
    cases v with
    | sequence items => exact absurd rfl (hs items)
    | mapping fields => exact absurd rfl (hm fields)
    | _ => rfl
  | sequence h ih =>
    rw [resolve_succ, bind_of_ok _ (unwrap_of_not_mapping (by simp))]
    exact bind_of_ok _ (mapM_of_forall fun x hx t => ih x hx)
  | @mapping depth fields hd h ih =>
    rw [resolve_succ, bind_of_ok _ (unwrap_of_deferredKind ((deferredKind_mapping fields).2 hd))]
    exact bind_of_ok _ (Dict.mapM_of_forall fun e he t => ih e he)

/-- Whatever the expressions are, what resolving returns has none in any of its parts; resolving it
again with the same levels to go, for whatever face and in whatever state, gives just that and
changes nothing. -/
theorem resolve_closed {setting : Setting} {depth : Nat} {v w : Value}
    (h : resolve resolvers setting depth v s = .ok w s') :
    (∀ fields, (Value.mapping fields).Occurs w →
      fields.contains Value.deferredKey = false) ∧
    ∀ (resolvers' : Registry Resolver) (setting' : Setting) (t : State),
      resolve resolvers' setting' depth w t = .ok w t := by
  have hr := resolved_of_resolve h
  exact ⟨fun fields ho => hr.not_deferred ho, fun _ setting' _ => hr.resolve_eq setting'⟩

/-- Expressions for stored and for configured values. -/
def lazyResolvers : Registry Resolver where
  kind := "resolver"
  entries := ⟨[("cached", Expression.cached), ("config", Expression.config)]⟩

def lazySetting : Setting where
  config := { Config.standard with values := ⟨[("names", .sequence [.string "a"])]⟩ }
  scope := ⟨.empty 0, ⟨[], [], none⟩⟩
  parents := []
  draw _ := return none

/-- The cache has an expression under `entry`. -/
def lazyState : State where
  run := .start .empty ∅
  draft := ⟨⟨[("entry", .mapping ⟨[("deferred", .string "config")]⟩)]⟩, none, 0⟩
  around := []

/-- A list with a stored expression, which stands for a configured mapping with a list in it. -/
def lazyValue : Value :=
  .sequence [.mapping ⟨[("deferred", .string "cached"), ("key", .string "entry")]⟩]

theorem resolve_closed_lazy : ∃ w,
    resolve lazyResolvers lazySetting 4 lazyValue lazyState = .ok w lazyState ∧
    w = .sequence [.mapping ⟨[("names", .sequence [.string "a"])]⟩] ∧
    (∀ fields, (Value.mapping fields).Occurs w →
      fields.contains Value.deferredKey = false) ∧
    ∀ (resolvers' : Registry Resolver) (setting' : Setting) (t : State),
      resolve resolvers' setting' 4 w t = .ok w t := by
  have h : resolve lazyResolvers lazySetting 4 lazyValue lazyState =
      .ok (.sequence [.mapping ⟨[("names", .sequence [.string "a"])]⟩]) lazyState := by
    cbv
  exact ⟨_, h, rfl, resolve_closed h⟩

end Generation

end CardPress
