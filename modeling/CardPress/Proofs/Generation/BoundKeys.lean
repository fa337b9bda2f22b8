import CardPress.Proofs.Generation.Frame
import CardPress.Proofs.Generation.GlobalCache

/-!
# Keys that are bound afterwards

A step that writes to caches and does not fail leaves the keys that it names bound for its face, and
there they stay: an expression that looks for such a key finds a value. One kind of key is left out.
A step that writes globally and leaves existing keys alone skips a key that only the global cache
has, which a template drawn for the face has put there.

## Main results

* `Press.writeToCache_binds` — which keys are bound, for the face or globally.
* `Press.generate_skipping` — a key that is skipped is missed by the next step.
-/

namespace CardPress

open Generation Step

/-- The key that an expression for stored values looks for. -/
def Expression.soughtKey (scene : Scene) (params : Mapping) : Generation String := do
  cacheKey (← scene.param params "key")

theorem Expression.cached_eq (scene : Scene) (params : Mapping) :
    cached scene params = (do
      let key ← soughtKey scene params
      match (← get).draft.cache.get? key, params.get? "default" with
      | some v, _ => return v
      | none, some default => return default
      | none, none => throw (.keyMissing key false)) :=
  (bind_assoc _ _ _).symm

theorem Expression.agree_soughtKey {R : State → State → Prop} {scene scene' : Scene}
    (h : Scene.Agree R scene scene') (params : Mapping) :
    Agree R (soughtKey scene params) (soughtKey scene' params) :=
  (h.param params "key").bind fun _ => Agree.ofExcept _

/-! ## Single steps -/

namespace Generation

/-- One state, in which a key is bound for the face. -/
abbrev Binds (key : String) : State → State → Prop :=
  Same fun s => s.draft.cache.contains key = true

theorem binds_staging (key : String) : Staging (Binds key) :=
  Same.draft_staging (·.cache.contains key = true) fun _ _ => id

theorem binds_storing (key : String) : Storing (Binds key) :=
  Same.draft_storing (·.cache.contains key = true) fun _ k v hk =>
    Dict.contains_insert_of_contains hk k v

end Generation

namespace Step.CacheWriting

variable {w : CacheWriting} {scene : Scene} {s t : State}

/-- What a step leaves alone because it is bound for all faces, though not for the one at hand. -/
structure SkipsGlobally (w : CacheWriting) (key : String) (s : State) : Prop where
  isGlobal : w.isGlobal = true
  mode : w.mode = .addOrSkip
  own : s.draft.cache.contains key = false
  shared : s.run.globalCache.contains key = true

/-- An entry that did not fail is bound, or was found bound globally. -/
theorem contains_of_writeEntry {e : String × Value} (h : w.writeEntry scene e.1 e.2 s = .ok () t) :
    t.draft.cache.contains e.1 = true ∨
      w.SkipsGlobally e.1 s ∧ t.run.globalCache.contains e.1 = true := by
  rw [← State.caches_own t, ← State.caches_shared t]
  rcases of_writeEntry_ok h with ⟨hverdict, hcaches⟩ | ⟨-, v, -, hcaches⟩
  · rw [hcaches]
    obtain ⟨hmode, hown | ⟨hglobal, hown, hshared⟩⟩ := of_verdict_eq_false hverdict
    · exact .inl hown
    · exact .inr ⟨⟨hglobal, hmode, hown, hshared⟩, hshared⟩
  · rw [hcaches]
    exact .inl (by simp [bound])

variable (hown : ∀ key entries, Agree (Binds key) (w.writeEntries scene entries)
    (w.writeEntries scene entries))
  (hshared : ∀ key entries, Agree (Cached fun c => c.contains key = true)
    (w.writeEntries scene entries) (w.writeEntries scene entries))

include hown hshared

/-- Once they are all written, every key is bound, or was found bound globally. -/
theorem contains_of_writeEntries {entries : List (String × Value)}
    (h : w.writeEntries scene entries s = .ok () t) :
    ∀ e ∈ entries, t.draft.cache.contains e.1 = true ∨
      t.run.globalCache.contains e.1 = true ∧
        ∃ before u, w.Reaches scene entries s before e u ∧ w.SkipsGlobally e.1 u := by
  induction entries generalizing s with
  | nil => exact fun e he => absurd he List.not_mem_nil
  | cons first rest ih =>
    obtain ⟨⟨⟩, u, hfirst, hrest⟩ := bind_ok_iff.1 h
    rw [List.forall_mem_cons]
    constructor
    · -- What the first entry leaves bound, the others leave bound, too.
      have ht := (eq_ok_iff.1 hrest).2
      rcases contains_of_writeEntry hfirst with hbound | ⟨hskip, hbound⟩
      · exact .inl (ht ▸ agree_same_iff.1 (hown first.1 rest) u hbound)
      · refine .inr ⟨ht ▸ agree_same_iff.1 (hshared first.1 rest) u hbound, [], s, ?_, hskip⟩
        exact .head first rest s
    · intro e he
      rcases ih hrest e he with hbound | ⟨hbound, before, u', hreach, hskip⟩
      · exact .inl hbound
      · exact .inr ⟨hbound, first :: before, u', hreach.cons hfirst, hskip⟩

end Step.CacheWriting

/-! ## Faces -/

namespace Press

variable {press : Press}

/-- No key is removed from the global cache by whatever is drawn. -/
theorem agree_sceneIn_shared (hc : Capabilities.standard = .ok press.capabilities) (key : String)
    (scope : Scope) (parents : Lineage) :
    Scene.Agree (Cached fun c => c.contains key = true) (press.sceneIn scope parents)
      (press.sceneIn scope parents) := by
  have hR := cached_steady fun c => c.contains key = true
  have hpress := agree_of_storing hc (cached_storing _) (keepsGlobal_contains key)
  exact agree_scene hpress.resolvers ⟨rfl, rfl, rfl, agree_request rfl rfl fun _ template _ _ =>
    agree_drawFace hR hpress rfl rfl template⟩

/-- An expression that looks for a key that is bound gives what is stored there. -/
theorem cached_of_contains (hc : Capabilities.standard = .ok press.capabilities) (scope : Scope)
    (parents : Lineage) (depth : Nat) (params : Mapping) {key : String} {s : State}
    (hbound : s.draft.cache.contains key = true)
    (hkey : outcome (Expression.soughtKey (press.sceneAt scope parents depth) params) s =
      .ok key) :
    ∃ v, s.draft.cache.get? key = some v ∧
      outcome (Expression.cached (press.sceneAt scope parents depth) params) s = .ok v := by
  obtain ⟨v, hv⟩ := Option.isSome_iff_exists.1 hbound
  have hscene := agree_sceneAt hc (· = s.draft) scope parents depth
  have hdraft := agree_same_iff.1 (Expression.agree_soughtKey hscene params) s rfl
  have hlooked : Expression.cached (press.sceneAt scope parents depth) params s =
      .ok v (stateAfter (Expression.soughtKey (press.sceneAt scope parents depth) params) s) := by
    rw [Expression.cached_eq, bind_of_ok _ (eq_ok_iff.2 ⟨hkey, rfl⟩), get_bind_apply, hdraft, hv]
    rfl
  exact ⟨v, hv, (eq_ok_iff.1 hlooked).1⟩

/-- After a step that wrote to caches without failing, every key that it named is bound for the
face, and stays so while further steps run: an expression that looks for it, in whatever state the
cache is still that, finds what is stored. The one exception is a key that a global step which
leaves existing keys alone found bound globally but not for the face; that key is bound globally. -/
theorem writeToCache_binds (press : Press) (hc : Capabilities.standard = .ok press.capabilities)
    (scope : Scope) (parents : Lineage) (params : Mapping) (canvas : Image) {flow : StepFlow}
    {s t : State}
    (h : writeToCache (press.sceneIn scope parents) params canvas s = .ok flow t) :
    let scene := press.sceneIn scope parents
    ∃ w entries s₁, readWriting scene params s = .ok (w, entries) s₁ ∧ ∀ e ∈ entries,
      (t.draft.cache.contains e.1 = true ∧ ∀ steps image u,
        u.draft.cache =
          (stateAfter (runSteps press.capabilities.steps scene steps image) t).draft.cache →
        ∀ depth sought,
          outcome (Expression.soughtKey (press.sceneAt scope parents depth) sought) u = .ok e.1 →
          ∃ v, u.draft.cache.get? e.1 = some v ∧
            outcome (Expression.cached (press.sceneAt scope parents depth) sought) u = .ok v) ∨
      t.run.globalCache.contains e.1 = true ∧ ∃ before u,
        w.Reaches scene entries s₁ before e u ∧ w.SkipsGlobally e.1 u := by
  intro scene
  rw [writeToCache_eq_readWriting] at h
  obtain ⟨⟨w, entries⟩, s₁, hread, h⟩ := bind_ok_iff.1 h
  obtain ⟨⟨⟩, t', hentries, h⟩ := bind_ok_iff.1 h
  cases (pure_ok_iff.1 h).2
  have hscene (key : String) : Scene.Agree (Binds key) scene scene :=
    agree_sceneAt hc (·.cache.contains key = true) scope parents press.config.maxDepth
  have hown (key entries) : Generation.Agree (Binds key) (w.writeEntries scene entries)
      (w.writeEntries scene entries) :=
    agree_writeEntries (binds_storing key) (Same.draft_keepsGlobal (·.cache.contains key = true)) w
      (hscene key) entries
  have hshared (key entries) : Generation.Agree (Cached fun c => c.contains key = true)
      (w.writeEntries scene entries) (w.writeEntries scene entries) :=
    agree_writeEntries (cached_storing _) (keepsGlobal_contains key) w
      (agree_sceneIn_shared hc key scope parents) entries
  refine ⟨w, entries, s₁, hread, fun e he => ?_⟩
  rcases CacheWriting.contains_of_writeEntries hown hshared hentries e he with hbound | hskipped
  · refine .inl ⟨hbound, fun steps image u hu depth sought hsought => ?_⟩
    have hkept : u.draft.cache.contains e.1 = true := by
      rw [hu]
      have hsteps : Registry.Agree (StepHandler.Agree (Binds e.1)) press.capabilities.steps
          press.capabilities.steps :=
        Capabilities.agree_steps_of_draft hc (·.cache.contains e.1 = true) fun _ k v hk =>
          Dict.contains_insert_of_contains hk k v
      have hruns := agree_runSteps (binds_staging e.1) hsteps (hscene e.1) steps image
      exact agree_same_iff.1 hruns t hbound
    exact cached_of_contains hc scope parents depth sought hkept hsought
  · exact .inr hskipped

/-- A step that leaves existing keys alone. -/
def mixedEntries : Mapping :=
  Dict.ofList [
    (typeKey, .string "write_to_cache"), ("mode", .string "add_or_skip"),
    ("is_global", .bool true),
    ("entries", .mapping <| Dict.ofList [("a", .string "new"), ("k", .string "second")])]

theorem writeToCache_binds_mixed :
    let scene := overtaken.sceneIn ⟨late, ⟨[], [], some ⟨1, 1⟩⟩⟩ []
    let s : State := ⟨.start .empty (Dict.ofList [("k", .string "first")]), ⟨∅, none, 0⟩, []⟩
    let t := stateAfter (writeToCache scene mixedEntries ⟨0, .blank 1 1⟩) s
    Capabilities.standard = .ok overtaken.capabilities ∧
      writeToCache scene mixedEntries ⟨0, .blank 1 1⟩ s = .ok (.go ⟨0, .blank 1 1⟩) t ∧
      t.draft.cache.contains "a" = true ∧
      t.draft.cache.contains "k" = false ∧
      t.run.globalCache.contains "k" = true := by
  intro scene s t
  have hok : writeToCache scene mixedEntries ⟨0, .blank 1 1⟩ s = .ok (.go ⟨0, .blank 1 1⟩) t :=
    eq_ok_iff.2 ⟨by simp only [scene, s]; cbv, rfl⟩
  have hfirst : t.draft.cache.contains "a" = true := by
    simp only [t, scene, s]
    cbv
  have hsecond : t.draft.cache.contains "k" = false := by
    simp only [t, scene, s]
    cbv
  have hread : readWriting scene mixedEntries s = .ok (⟨.addOrSkip, true, true, false⟩,
      [("a", .string "new"), ("k", .string "second")]) s := rfl
  obtain ⟨w, entries, s₁, hread', hbinds⟩ := writeToCache_binds overtaken
    Capabilities.standard_eq_table ⟨late, ⟨[], [], some ⟨1, 1⟩⟩⟩ [] mixedEntries ⟨0, .blank 1 1⟩ hok
  cases hread'.symm.trans hread
  have hshared : t.run.globalCache.contains "k" = true := by
    rcases hbinds ("k", .string "second") (by simp) with ⟨hbound, -⟩ | ⟨hbound, -⟩
    · rw [hsecond] at hbound
      cases hbound
    · exact hbound
  exact ⟨Capabilities.standard_eq_table, hok, hfirst, hsecond, hshared⟩

/-- A face that has the template drawn, leaves the key alone that this has bound, and looks for
it. -/
def skipping : CardFace :=
  { CardFace.empty 1 with
    size := some ⟨1, 1⟩
    steps := [
      .mapping <| Dict.ofList [
        (typeKey, .string "write_to_cache"), ("key", .string "drawn"), ("is_lazy", .bool false),
        ("value", .mapping <| Dict.ofList [
          (Value.deferredKey, .string "image_from_template"), ("label", .string "early")])],
      bindingStep [("mode", .string "add_or_skip"), ("value", .string "first")],
      .mapping <| Dict.ofList [
        (typeKey, .string "write_to_cache"), ("key", .string "copy"), ("is_global", .bool true),
        ("is_lazy", .bool false), ("value", .mapping <| Dict.ofList [
          (Value.deferredKey, .string "cached"), ("key", .string "k")])]] }

/-- The second step does not fail, and the third one misses the key that it named. -/
theorem generate_skipping :
    let run := Run.start .empty ∅
    let writing : CardFace := { skipping with steps := skipping.steps.take 2 }
    Capabilities.standard = .ok overtaken.capabilities ∧
      (overtaken.generate writing run).1.map Option.isSome = .ok true ∧
      (overtaken.generate skipping run).1.map Option.isSome =
        .error (.step none 2 "write_to_cache" (.keyMissing "k" false)) :=
  ⟨Capabilities.standard_eq_table, by cbv, by cbv⟩

end Press

end CardPress
