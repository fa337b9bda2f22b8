import CardPress.Proofs.Generation.BoundKeys
import CardPress.Proofs.Generation.Rewriting

/-!
# Chains of stored expressions

An expression for a stored value may find another such expression, and that one a further one. Each
of them is one rewriting of the value that is resolved, so a chain of them is followed to its end if
it has no more links than a value may be rewritten, and a chain that runs into itself never ends
well. The expressions within their keys are values of their own, and their rewritings do not count.

## Main definitions

* `Press.Seeks` — a value is an expression for what is stored under a key.
* `Press.Leads` — under a key there is an expression for another key.

## Main results

* `Press.resolveFrom_of_seeks` — one link of a chain.
* `Press.resolveFrom_chain`, `Press.resolveFrom_cycle` — chains that end, and keys that lead to each
  other.
* `Press.resolve_cached_chain` — both, for a value that has not been rewritten yet.
-/

namespace CardPress

open Generation

namespace Press

/-- A value is an expression for what is stored under a key. The key is written out in it, or is
what the parameter comes to in whatever run, as long as the cache of the face is the one given. -/
def Seeks (press : Press) (scope : Scope) (parents : Lineage) (cache : Mapping) (v : Value)
    (key : String) : Prop :=
  ∃ params, v = .mapping params ∧ params.get? Value.deferredKey = some (.string "cached") ∧
    ((∃ name, params.get? "key" = some name ∧ Expression.cacheKey name = .ok key) ∨
      ∀ s : State, s.draft.cache = cache →
        outcome (Expression.soughtKey (press.sceneAt scope parents (press.config.maxDepth - 1))
          params) s = .ok key)

/-- What is stored under a key is an expression for what is stored under another key. -/
def Leads (press : Press) (scope : Scope) (parents : Lineage) (cache : Mapping)
    (key key' : String) : Prop :=
  ∃ v, cache.get? key = some v ∧ press.Seeks scope parents cache v key'

variable {press : Press} {scope : Scope} {parents : Lineage} {cache : Mapping} {v x : Value}
  {key : String} {depth chain : ℕ} {s : State}

/-- A key that is written out is not an expression. -/
theorem soughtKey_of_literal {params : Mapping} {name : Value} (hdepth : 0 < depth)
    (hname : params.get? "key" = some name) (hkey : Expression.cacheKey name = .ok key) :
    Expression.soughtKey (press.sceneAt scope parents depth) params s = .ok key s := by
  have hleaf : Resolved depth name := by
    obtain ⟨depth, rfl⟩ := Nat.exists_eq_add_one.2 hdepth
    cases name with
    | string | number | bool => exact .leaf (by simp) (by simp)
    | null | sequence | mapping | image | font => cases hkey
  have hparam : (press.sceneAt scope parents depth).param params "key" s = .ok name s := by
    rw [Scene.param, rawParam, hname]
    exact hleaf.resolve_eq (press.setting scope parents)
  rw [Expression.soughtKey, bind_of_ok _ hparam, hkey]
  rfl

/-- Whichever way the key is given, it is found, and the draft stays as it is. -/
theorem soughtKey_of_seeks (hc : Capabilities.standard = .ok press.capabilities)
    (hdepth : 2 ≤ press.config.maxDepth) (hv : press.Seeks scope parents cache v key)
    (hs : s.draft.cache = cache) :
    ∃ params t, v = .mapping params ∧
      params.get? Value.deferredKey = some (.string "cached") ∧
      Expression.soughtKey (press.sceneAt scope parents (press.config.maxDepth - 1)) params s =
        .ok key t ∧ t.draft = s.draft := by
  obtain ⟨params, rfl, hkind, ⟨name, hname, hkey⟩ | hkey⟩ := hv
  · exact ⟨params, s, rfl, hkind, soughtKey_of_literal (by omega) hname hkey, rfl⟩
  · refine ⟨params, _, rfl, hkind, eq_ok_iff.2 ⟨hkey s hs, rfl⟩, ?_⟩
    have hscene := agree_sceneAt hc (· = s.draft) scope parents (press.config.maxDepth - 1)
    exact agree_same_iff.1 (Expression.agree_soughtKey hscene params) s rfl

/-- An expression for a stored value that can be rewritten once more is replaced by that value. -/
theorem resolveFrom_of_seeks (hc : Capabilities.standard = .ok press.capabilities)
    (hdepth : 2 ≤ press.config.maxDepth) (hv : press.Seeks scope parents cache v key)
    (hx : cache.get? key = some x) (hs : s.draft.cache = cache) (chain : ℕ) :
    ∃ t, t.draft = s.draft ∧
      resolveFrom press.capabilities.resolvers (press.setting scope parents) press.config.maxDepth
          (chain + 1) v s =
        resolveFrom press.capabilities.resolvers (press.setting scope parents)
          press.config.maxDepth chain x t := by
  obtain ⟨params, t, rfl, hkind, hkey, ht⟩ := soughtKey_of_seeks hc hdepth hv hs
  obtain ⟨depth, hd⟩ := Nat.exists_eq_add_one.2 (Nat.zero_lt_of_lt hdepth)
  rw [hd, Nat.add_sub_cancel] at hkey
  have hcached : Expression.cached (press.sceneAt scope parents depth) params s = .ok x t := by
    rw [Expression.cached_eq, bind_of_ok _ hkey, get_bind_apply, ht, hs, hx]
    rfl
  refine ⟨t, ht, ?_⟩
  rw [hd, resolveFrom_expression hkind (Capabilities.get?_cached hc)]
  exact bind_of_ok _ hcached

/-- It overflows if it cannot be rewritten any more. -/
theorem resolveFrom_zero_of_seeks (hdepth : 2 ≤ press.config.maxDepth)
    (hv : press.Seeks scope parents cache v key) :
    resolveFrom press.capabilities.resolvers (press.setting scope parents) press.config.maxDepth 0
      v s = .error (.resolutionOverflow press.config.maxChain) s := by
  obtain ⟨params, rfl, hkind, -⟩ := hv
  obtain ⟨depth, hd⟩ := Nat.exists_eq_add_one.2 (Nat.zero_lt_of_lt hdepth)
  rw [hd, resolveFrom_exhausted hkind]
  rfl

/-- A chain that ends with neither an expression nor a container is followed to its end if it has no
more links than there are rewritings left. -/
theorem resolveFrom_chain (hc : Capabilities.standard = .ok press.capabilities)
    (hdepth : 2 ≤ press.config.maxDepth) {keys : List String} (hne : keys ≠ [])
    (hchain : keys.IsChain (press.Leads scope parents cache))
    (hv : press.Seeks scope parents cache v (keys.head hne))
    (hlast : cache.get? (keys.getLast hne) = some x)
    (hx : (∀ items, x ≠ .sequence items) ∧ ∀ fields, x ≠ .mapping fields)
    (hs : s.draft.cache = cache) (chain : ℕ) :
    outcome (resolveFrom press.capabilities.resolvers (press.setting scope parents)
        press.config.maxDepth chain v) s =
      if keys.length ≤ chain then .ok x
      else .error (.resolutionOverflow press.config.maxChain) := by
  induction keys generalizing v s chain with
  | nil => exact absurd rfl hne
  | cons key rest ih =>
    obtain _ | chain := chain
    · rw [outcome, resolveFrom_zero_of_seeks hdepth hv]
      rfl
    · cases rest with
      | nil =>
        obtain ⟨t, -, hstep⟩ := resolveFrom_of_seeks hc hdepth hv hlast hs chain
        obtain ⟨depth, hd⟩ := Nat.exists_eq_add_one.2 (Nat.zero_lt_of_lt hdepth)
        have hleaf : Resolved press.config.maxDepth x := hd ▸ .leaf hx.1 hx.2
        have hfits := resolved_iff.1 hleaf
        rw [outcome, hstep, resolveFrom_expressionFree hfits.1, if_pos hfits.2]
        rfl
      | cons key' rest =>
        obtain ⟨⟨y, hy, hseeks⟩, hchain⟩ := List.isChain_cons_cons.1 hchain
        obtain ⟨t, ht, hstep⟩ := resolveFrom_of_seeks hc hdepth hv hy hs chain
        have hrest := ih (List.cons_ne_nil _ _) hchain hseeks hlast (ht ▸ hs) chain
        rw [outcome, hstep]
        rw [outcome] at hrest
        simpa using hrest

/-- If each of some keys leads to one of them, an expression for one of them overflows, however
often it may be rewritten. -/
theorem resolveFrom_cycle (hc : Capabilities.standard = .ok press.capabilities)
    (hdepth : 2 ≤ press.config.maxDepth) {keys : List String}
    (hcycle : ∀ key ∈ keys, ∃ key' ∈ keys, press.Leads scope parents cache key key')
    (hkey : key ∈ keys) (hv : press.Seeks scope parents cache v key) (hs : s.draft.cache = cache)
    (chain : ℕ) :
    outcome (resolveFrom press.capabilities.resolvers (press.setting scope parents)
        press.config.maxDepth chain v) s =
      .error (.resolutionOverflow press.config.maxChain) := by
  induction chain generalizing v key s with
  | zero =>
    rw [outcome, resolveFrom_zero_of_seeks hdepth hv]
  | succ chain ih =>
    obtain ⟨key', hkey', y, hy, hseeks⟩ := hcycle key hkey
    obtain ⟨t, ht, hstep⟩ := resolveFrom_of_seeks hc hdepth hv hy hs chain
    rw [outcome, hstep]
    exact ih hkey' hseeks (ht ▸ hs)

/-- In a chain whose last key leads back, each key leads to one of them. -/
theorem leads_of_isChain {keys : List String} (hne : keys ≠ [])
    (hchain : keys.IsChain (press.Leads scope parents cache))
    (hback : ∃ key ∈ keys, press.Leads scope parents cache (keys.getLast hne) key) :
    ∀ key ∈ keys, ∃ key' ∈ keys, press.Leads scope parents cache key key' := by
  intro key hkey
  obtain ⟨i, hi, rfl⟩ := List.getElem_of_mem hkey
  by_cases hlast : i + 1 < keys.length
  · exact ⟨keys[i + 1], List.getElem_mem hlast, List.isChain_iff_getElem.1 hchain i hlast⟩
  · have hi : i = keys.length - 1 := by omega
    subst hi
    rw [← List.getLast_eq_getElem hne]
    exact hback

/-- Under each of some keys but the last one there is an expression for the next one. If what is
stored under the last one is neither an expression nor a container, then an expression for the first
one is resolved to it if there are no more keys than a value may be rewritten, and overflows
otherwise. If it is an expression for one of the keys, this overflows, however often a value may be
rewritten. -/
theorem resolve_cached_chain (press : Press) (hc : Capabilities.standard = .ok press.capabilities)
    (hdepth : 2 ≤ press.config.maxDepth) (scope : Scope) (parents : Lineage) (s : State)
    {keys : List String} (hne : keys ≠ [])
    (hchain : keys.IsChain (press.Leads scope parents s.draft.cache)) {v : Value}
    (hv : press.Seeks scope parents s.draft.cache v (keys.head hne)) :
    let resolved := outcome ((press.sceneIn scope parents).resolve v) s
    (∀ x, s.draft.cache.get? (keys.getLast hne) = some x → (∀ items, x ≠ .sequence items) →
      (∀ fields, x ≠ .mapping fields) →
        resolved = if keys.length ≤ press.config.maxChain then .ok x
          else .error (.resolutionOverflow press.config.maxChain)) ∧
      ((∃ key ∈ keys, press.Leads scope parents s.draft.cache (keys.getLast hne) key) →
        resolved = .error (.resolutionOverflow press.config.maxChain)) := by
  intro resolved
  have hresolve : (press.sceneIn scope parents).resolve =
      resolveFrom press.capabilities.resolvers (press.setting scope parents)
        press.config.maxDepth press.config.maxChain :=
    (resolveFrom_maxChain press.capabilities.resolvers (press.setting scope parents) _).symm
  constructor
  · intro x hlast hsequence hmapping
    simp only [resolved, hresolve]
    exact resolveFrom_chain hc hdepth hne hchain hv hlast ⟨hsequence, hmapping⟩ rfl _
  · intro hback
    simp only [resolved, hresolve]
    have hleads := leads_of_isChain hne hchain hback
    exact resolveFrom_cycle hc hdepth hleads (List.head_mem hne) hv rfl _

/-- An expression for what is stored under a key. -/
def linkTo (key : String) : Value :=
  .mapping (Dict.ofList [(Value.deferredKey, .string "cached"), ("key", .string key)])

/-- A chain of three keys, and one that runs into a key that leads to itself. -/
def linked : State where
  run := .start .empty ∅
  draft := ⟨Dict.ofList [("a", linkTo "b"), ("b", linkTo "c"), ("c", .bool true),
    ("x", linkTo "y"), ("y", linkTo "y")], none, 0⟩
  around := []

/-- A press that rewrites a value twice. -/
def rewritingTwice : Press :=
  { Press.ofPool .empty with config := { Config.standard with maxChain := 2 } }

theorem seeks_linkTo (press : Press) (scope : Scope) (parents : Lineage) (cache : Mapping)
    (key : String) : press.Seeks scope parents cache (linkTo key) key :=
  ⟨_, rfl, by rfl, .inl ⟨.string key, by rfl, rfl⟩⟩

/-- Two keys are as many as there are rewritings, three are too many, and a cycle is, too. -/
theorem resolve_cached_chain_linked :
    let scope : Scope := ⟨.empty 0, ⟨[], [], none⟩⟩
    let resolved key := outcome ((rewritingTwice.sceneIn scope []).resolve (linkTo key)) linked
    Capabilities.standard = .ok rewritingTwice.capabilities ∧ 2 ≤ rewritingTwice.config.maxDepth ∧
      (["a", "b", "c"].IsChain (rewritingTwice.Leads scope [] linked.draft.cache) ∧
        resolved "b" = .ok (.bool true) ∧ resolved "a" = .error (.resolutionOverflow 2)) ∧
      (["x", "y"].IsChain (rewritingTwice.Leads scope [] linked.draft.cache) ∧
        resolved "x" = .error (.resolutionOverflow 2)) := by
  intro scope resolved
  have hdepth : 2 ≤ rewritingTwice.config.maxDepth := by decide
  have hseeks := seeks_linkTo rewritingTwice scope [] linked.draft.cache
  have hleads {key key' : String} (h : linked.draft.cache.get? key = some (linkTo key')) :
      rewritingTwice.Leads scope [] linked.draft.cache key key' :=
    ⟨_, h, hseeks key'⟩
  have hshort : ["b", "c"].IsChain (rewritingTwice.Leads scope [] linked.draft.cache) :=
    .cons_cons (hleads rfl) (.singleton _)
  have hlong : ["a", "b", "c"].IsChain (rewritingTwice.Leads scope [] linked.draft.cache) :=
    .cons_cons (hleads rfl) hshort
  have hcycle : ["x", "y"].IsChain (rewritingTwice.Leads scope [] linked.draft.cache) :=
    .cons_cons (hleads rfl) (.singleton _)
  refine ⟨Capabilities.standard_eq_table, hdepth, ⟨hlong, ?_, ?_⟩, hcycle, ?_⟩
  · exact (resolve_cached_chain rewritingTwice Capabilities.standard_eq_table hdepth scope [] linked
      (List.cons_ne_nil _ _) hshort (hseeks "b")).1 (.bool true) rfl (by simp) (by simp)
  · exact (resolve_cached_chain rewritingTwice Capabilities.standard_eq_table hdepth scope [] linked
      (List.cons_ne_nil _ _) hlong (hseeks "a")).1 (.bool true) rfl (by simp) (by simp)
  · exact (resolve_cached_chain rewritingTwice Capabilities.standard_eq_table hdepth scope [] linked
      (List.cons_ne_nil _ _) hcycle (hseeks "x")).2 ⟨"y", by simp, hleads rfl⟩

end Press

end CardPress
