import CardPress.Proofs.Generation.Agreement
import CardPress.Proofs.Step.CacheWriting

/-!
# What becomes of the global cache

The global cache only grows, and only steps that write to it change it. What such a step is about to
bind can be watched (`Press.watching`), and other things done in its place. A step that has to leave
existing keys alone does so with those that exist when it looks; a value that is resolved afterwards
can draw templates that bind the key before the step does.

## Main definitions

* `GlobalWrite` — a key about to be bound globally, and what the cache was before and is now.
* `Press.watching` — a press whose global writes are watched.
* `Press.generateEach` — drawing faces one after the other in one run.

## Main results

* `Press.generateEach_globalCache` — nothing is removed, nothing but global writes changes the
  cache, and those that must leave existing keys alone only replace one that they could not foresee.
* `Press.generateEach_ne_watching_replacing` — they do replace such a one.
-/

namespace CardPress

open Generation

/-- A key about to be bound in the global cache. -/
structure GlobalWrite where
  writing : Step.CacheWriting
  key : String
  value : Value
  /-- The global cache when the step looked whether the key exists. -/
  before : Mapping
  /-- The global cache now. -/
  now : Mapping

namespace GlobalWrite

/-- Whether the write replaces what it has to leave alone. -/
def isReplacing (g : GlobalWrite) : Bool :=
  g.now.contains g.key && (g.writing.mode = .add || g.writing.mode = .addOrSkip)

/-- Whether the step could know what exists: it found the key, or had nothing to resolve since. -/
def isForeseen (g : GlobalWrite) : Bool :=
  g.before.contains g.key || g.writing.isLazy

/-- What the write does. -/
def perform (g : GlobalWrite) : Generation Unit :=
  g.writing.bind g.key g.value

/-- What is known of every write: the key was admitted, and where nothing is resolved the cache is
still the same. -/
structure Admitted (g : GlobalWrite) : Prop where
  admits : g.writing.mode.admits g.key (g.before.contains g.key) true = .ok true
  now_eq : g.writing.isLazy = true → g.now = g.before

end GlobalWrite

/-- What is done in place of some global writes. -/
structure Watch where
  applies : GlobalWrite → Bool
  action : GlobalWrite → Generation Unit

namespace Step.CacheWriting

/-- Bind a key, under the watch if in the global cache, which was another one before. -/
def bindUnder (watch : Watch) (before : Mapping) (w : CacheWriting) (key : String) (v : Value) :
    Generation Unit := do
  if w.isGlobal then
    let write : GlobalWrite := ⟨w, key, v, before, (← get).run.globalCache⟩
    if watch.applies write then watch.action write else w.bind key v
  else w.bind key v

/-- Write an entry if its key is admitted, with a watch on binding it. -/
def writeEntryUnder (watch : Watch) (w : CacheWriting) (scene : Scene) (key : String)
    (v : Value) : Generation Unit := do
  let before := (← get).run.globalCache
  if ← w.admits key then
    w.bindUnder watch before key (← if w.isLazy then pure v else scene.resolve v)

end Step.CacheWriting

namespace Press

/-- A press whose global writes are watched. -/
def watching (press : Press) (watch : Watch) : Press :=
  { press with
    capabilities.steps.entries := press.capabilities.steps.entries.insert "write_to_cache"
      (Step.writeToCacheBy (Step.CacheWriting.writeEntryUnder watch)) }

/-- Draw faces for their own sakes, one after the other. -/
def generateEach (press : Press) : List CardFace → Run → List (Except Fault (Option Image)) × Run
  | [], run => ([], run)
  | face :: rest, run =>
    let (outcome, run) := press.generate face run
    let (outcomes, run) := press.generateEach rest run
    (outcome :: outcomes, run)

end Press

/-! ## Relations on the global cache -/

namespace Generation

/-- One state, of whose global cache something holds. -/
abbrev Cached (P : Mapping → Prop) : State → State → Prop :=
  Same fun s => P s.run.globalCache

variable {P : Mapping → Prop}

theorem cached_steady (P : Mapping → Prop) : Steady (Cached P) where
  toCalm := Same.calm fun _ _ hc hp => hc ▸ hp
  withWorking := fun _ ⟨h, hp⟩ => ⟨by rw [h], hp⟩
  newDraft := fun ⟨h, hp⟩ => ⟨by rw [h], hp⟩
  oldDraft := fun ⟨h, _⟩ ⟨h', hp'⟩ => ⟨by rw [h, h'], hp'⟩

theorem cached_storing (P : Mapping → Prop) : Storing (Cached P) where
  toCalm := (cached_steady P).toCalm
  globalCache := fun h => by rw [h.1]
  withCached := fun _ _ ⟨h, hp⟩ => ⟨by rw [h], hp⟩

/-- Binding keys removes none. -/
theorem keepsGlobal_contains (key : String) : KeepsGlobal (Cached fun c => c.contains key) := by
  rintro s t k v ⟨rfl, hk⟩
  exact ⟨rfl, Dict.contains_insert_of_contains hk k v⟩

end Generation

/-! ## Watched writes -/

namespace Step.CacheWriting

open Generation

/-- A key that is skipped is not admitted. -/
theorem skip_ne_true (w : CacheWriting) (key reason : String) (s t : State) :
    (do w.skip key reason; return false : Generation Bool) s ≠ .ok true t := by
  intro h
  obtain ⟨_, _, _, h⟩ := bind_ok_iff.1 h
  cases (pure_ok_iff.1 h).1

/-- A key that is admitted globally was looked for in the global cache, which stays as it is. -/
theorem admits_global {w : CacheWriting} {key : String} {s t : State}
    (h : w.admits key s = .ok true t) (hg : w.isGlobal = true) :
    t.run.globalCache = s.run.globalCache ∧
      w.mode.admits key (s.run.globalCache.contains key) true = .ok true := by
  rw [admits, get_bind_apply] at h
  obtain ⟨here, s₁, hhere, h⟩ := bind_ok_iff.1 h
  obtain ⟨-, rfl⟩ := ofExcept_ok_iff.1 hhere
  cases here with
  | false => exact absurd h (skip_ne_true w key _ _ _)
  | true =>
    rw [if_pos rfl, if_pos hg, get_bind_apply] at h
    obtain ⟨everywhere, s₁, heverywhere, h⟩ := bind_ok_iff.1 h
    obtain ⟨hadmits, rfl⟩ := ofExcept_ok_iff.1 heverywhere
    cases everywhere with
    | false => exact absurd h (skip_ne_true w key _ _ _)
    | true => exact ⟨by rw [(pure_ok_iff.1 h).2], hadmits⟩

/-- A write that was admitted does not replace what could be foreseen. -/
theorem not_replacing_foreseen {g : GlobalWrite} (h : g.Admitted) :
    (g.isReplacing && g.isForeseen) = false := by
  by_contra hboth
  simp only [GlobalWrite.isReplacing, GlobalWrite.isForeseen, Bool.not_eq_false,
    Bool.and_eq_true, Bool.or_eq_true, decide_eq_true_eq] at hboth
  obtain ⟨⟨hnow, hmode⟩, hseen⟩ := hboth
  have hbefore := contains_eq_false_of_admits hmode h.admits
  rcases hseen with hseen | hseen
  · rw [hbefore] at hseen
    cases hseen
  · rw [h.now_eq hseen, hbefore] at hnow
    cases hnow

section Same

variable {watch : Watch} (h : ∀ g, g.Admitted → watch.applies g → watch.action g = g.perform)

include h

theorem bindUnder_eq {w : CacheWriting} {key : String} {v : Value} {before : Mapping} {s : State}
    (hw : w.isGlobal = true → (GlobalWrite.mk w key v before s.run.globalCache).Admitted) :
    w.bindUnder watch before key v s = w.bind key v s := by
  rw [bindUnder]
  split
  · next hg =>
    rw [get_bind_apply]
    split
    · next happlies => rw [h _ (hw hg) happlies, GlobalWrite.perform]
    · rfl
  · rfl

/-- If the watch does what admitted writes do, it makes no difference. -/
theorem writeEntryUnder_eq : writeEntryUnder watch = writeEntry := by
  funext w scene key v s
  rw [writeEntryUnder, writeEntry, get_bind_apply]
  cases hs : w.admits key s with
  | error fault t => rw [bind_of_error _ hs, bind_of_error _ hs]
  | ok admitted t =>
    rw [bind_of_ok _ hs, bind_of_ok _ hs]
    cases admitted with
    | false => rfl
    | true =>
      rw [if_pos rfl, if_pos rfl]
      cases hl : w.isLazy with
      | true =>
        exact bindUnder_eq h fun hg => ⟨(admits_global hs hg).2, fun _ => (admits_global hs hg).1⟩
      | false =>
        -- Resolving may end in any state, so nothing is left of what was known of the cache.
        simp only [Bool.false_eq_true, if_false]
        cases hv : scene.resolve v t with
        | error fault u => rw [bind_of_error _ hv, bind_of_error _ hv]
        | ok v u =>
          rw [bind_of_ok _ hv, bind_of_ok _ hv]
          exact bindUnder_eq h fun hg => ⟨(admits_global hs hg).2, by simp [hl]⟩

end Same

section Action

variable {P : Mapping → Prop} {action : GlobalWrite → Generation Unit}
  (ha : ∀ g s, s.run.globalCache = g.now → P g.now → P (stateAfter (action g) s).run.globalCache)

include ha

/-- If what is done in place of global writes keeps something of the global cache, so does binding
keys. -/
theorem agree_bindUnder (before : Mapping) (w : CacheWriting) (key : String) (v : Value) :
    Agree (Cached P) (w.bindUnder ⟨fun _ => true, action⟩ before key v)
      (w.bindUnder ⟨fun _ => true, action⟩ before key v) := by
  rw [bindUnder]
  split
  · refine Agree.get_bind fun s t hst => ?_
    obtain ⟨rfl, hp⟩ := hst
    exact alike_same_iff.2 (ha _ s rfl hp)
  · next hg => exact agree_bind (cached_storing P) w (fun h => absurd h hg) key v

theorem agree_writeEntryUnder (w : CacheWriting) (scene scene' : Scene)
    (h : Scene.Agree (Cached P) scene scene') (key : String) (v : Value) :
    Agree (Cached P) (writeEntryUnder ⟨fun _ => true, action⟩ w scene key v)
      (writeEntryUnder ⟨fun _ => true, action⟩ w scene' key v) := by
  refine Agree.get_bind fun s t hst => ?_
  obtain rfl := hst.1
  have hR := cached_storing P
  refine Related.bind (agree_admits hR.toCalm hR.globalCache w key) (fun admitted => ?_) s s hst
  cases admitted with
  | false => exact Agree.pure _
  | true =>
    rw [if_pos rfl, if_pos rfl]
    cases w.isLazy with
    | true => exact (Agree.pure v).bind (agree_bindUnder ha _ w key)
    | false => exact (h.resolve v).bind (agree_bindUnder ha _ w key)

end Action

end Step.CacheWriting

/-! ## Runs -/

namespace Press

open Generation

theorem watching_get? (press : Press) (watch : Watch) (tag : String) :
    (press.watching watch).capabilities.steps.get? tag =
      if tag = "write_to_cache" then
        some (Step.writeToCacheBy (Step.CacheWriting.writeEntryUnder watch))
      else press.capabilities.steps.get? tag :=
  Dict.get?_insert _ _ _ _

theorem generate_snd (press : Press) (face : CardFace) (run : Run) :
    (press.generate face run).2 = (stateAfter (press.drawFace [] face)
      ⟨{ run with nextStamp := (Value.mapping run.globalCache).greatestStamp + 1 },
        ⟨∅, none, 0⟩, []⟩).run := by
  simp only [generate, Run.perform, stateAfter]
  generalize press.drawFace [] face _ = r
  cases r with
  | ok => rfl
  | error => rfl

/-- What drawing one face keeps of the global cache, drawing faces in turn keeps. -/
theorem generateEach_keeps {press : Press} {P : Mapping → Prop}
    (h : ∀ face, Generation.Agree (Cached P) (press.drawFace [] face) (press.drawFace [] face))
    (faces : List CardFace) (run : Run) (hp : P run.globalCache) :
    P (press.generateEach faces run).2.globalCache := by
  induction faces generalizing run with
  | nil => exact hp
  | cons face rest ih =>
    have hface : P (press.generate face run).2.globalCache := by
      rw [generate_snd]
      exact alike_same_iff.1 (h face _ _ ⟨rfl, hp⟩)
    exact ih _ hface

/-- Presses that draw alike give the same from the same run. -/
theorem generateEach_congr {press press' : Press}
    (h : ∀ face, press.drawFace [] face = press'.drawFace [] face) :
    press.generateEach = press'.generateEach := by
  funext faces run
  induction faces generalizing run with
  | nil => rfl
  | cons face rest ih =>
    rw [generateEach, generateEach, generate, generate, h face]
    simp only [ih]

section Standard

variable {press : Press} (hc : Capabilities.standard = .ok press.capabilities)

include hc

/-- Only global writes change the cache: with something else in their place, what that keeps of the
cache is kept. -/
theorem generateEach_watching_keeps {P : Mapping → Prop} {action : GlobalWrite → Generation Unit}
    (ha : ∀ g s, s.run.globalCache = g.now → P g.now → P (stateAfter (action g) s).run.globalCache)
    (faces : List CardFace) (run : Run) (hp : P run.globalCache) :
    P ((press.watching ⟨fun _ => true, action⟩).generateEach faces run).2.globalCache := by
  refine generateEach_keeps (fun face => ?_) faces run hp
  have hR := cached_steady P
  have hpress : (press.watching ⟨fun _ => true, action⟩).Agree (Cached P)
      (press.watching ⟨fun _ => true, action⟩) := by
    have hresolvers := Capabilities.agree_resolvers hc hR.toCalm
    refine ⟨rfl, rfl, hresolvers, fun tag => ?_⟩
    rw [watching_get?]
    by_cases ht : tag = "write_to_cache"
    · rw [if_pos ht]
      exact .some (Step.agree_writeToCacheBy (Step.CacheWriting.agree_writeEntryUnder ha))
    · rw [if_neg ht]
      exact Capabilities.agree_step_of_ne hc hR.toCalm ht
  exact agree_drawFace hR hpress rfl rfl face

/-- A watch that does what admitted writes do makes no difference. -/
theorem generateEach_watching_eq (watch : Watch)
    (h : ∀ g, g.Admitted → watch.applies g → watch.action g = g.perform) :
    (press.watching watch).generateEach = press.generateEach := by
  have hpress : (press.watching watch).Agree Eq press := by
    have hresolvers := Capabilities.agree_resolvers hc eq_storing.toCalm
    refine ⟨rfl, rfl, hresolvers, fun tag => ?_⟩
    rw [watching_get?, Step.CacheWriting.writeEntryUnder_eq h, ← Step.writeToCache_eq]
    by_cases ht : tag = "write_to_cache"
    · rw [if_pos ht, ht, Capabilities.get?_writeToCache hc]
      exact .some (Step.agree_writeToCache eq_storing fun _ _ h => by rw [h])
    · rw [if_neg ht]
      exact Capabilities.agree_step_of_ne hc eq_storing.toCalm ht
  exact generateEach_congr fun face =>
    agree_eq_iff.1 (agree_drawFace eq_steady hpress rfl rfl face)

theorem generateEach_watching_perform :
    (press.watching ⟨fun _ => true, GlobalWrite.perform⟩).generateEach = press.generateEach :=
  generateEach_watching_eq hc _ fun _ _ _ => rfl

/-- No key is removed, as no write removes one. -/
theorem generateEach_contains (faces : List CardFace) (run : Run) (key : String)
    (h : run.globalCache.contains key) :
    (press.generateEach faces run).2.globalCache.contains key := by
  have hinsert : KeepsGlobal (Cached fun c => c.contains key) := keepsGlobal_contains key
  have hperform : ∀ (g : GlobalWrite) s, s.run.globalCache = g.now → g.now.contains key →
      (stateAfter g.perform s).run.globalCache.contains key := by
    intro g s hs hk
    rw [← hs] at hk
    have hbind := Step.agree_bind (cached_storing _).toBinding g.writing (fun _ => hinsert) g.key
      g.value
    exact alike_same_iff.1 (hbind s s ⟨rfl, hk⟩)
  rw [← generateEach_watching_perform hc]
  exact generateEach_watching_keeps (P := fun c => c.contains key) hc hperform faces run h

/-- Nothing is done in place of writes that replace what could be foreseen: there are none. -/
theorem generateEach_watching_foreseen (action : GlobalWrite → Generation Unit) :
    (press.watching ⟨fun g => g.isReplacing && g.isForeseen, action⟩).generateEach =
      press.generateEach := by
  refine generateEach_watching_eq hc _ fun g hg hforeseen => ?_
  exact absurd hforeseen (ne_true_of_eq_false (Step.CacheWriting.not_replacing_foreseen hg))

end Standard

/-- Over any faces drawn one after the other, whether they are drawn, fail or are cancelled, no key
is removed from the global cache. Nothing but steps that write to it changes it: what is kept of it
by whatever is done in place of those writes, be it they themselves, is kept. And a step that has to
leave existing keys alone replaces one only if its value was resolved after it found no such key:
nothing is done in place of other such writes. -/
theorem generateEach_globalCache (press : Press)
    (hc : Capabilities.standard = .ok press.capabilities) (faces : List CardFace) (run : Run) :
    (∀ key, run.globalCache.contains key →
      (press.generateEach faces run).2.globalCache.contains key) ∧
    (∀ (P : Mapping → Prop) (action : GlobalWrite → Generation Unit),
      (∀ g s, s.run.globalCache = g.now → P g.now → P (stateAfter (action g) s).run.globalCache) →
      P run.globalCache →
      P ((press.watching ⟨fun _ => true, action⟩).generateEach faces run).2.globalCache) ∧
    (press.watching ⟨fun _ => true, GlobalWrite.perform⟩).generateEach faces run =
      press.generateEach faces run ∧
    ∀ action : GlobalWrite → Generation Unit,
      (press.watching ⟨fun g => g.isReplacing && g.isForeseen, action⟩).generateEach faces run =
        press.generateEach faces run :=
  ⟨fun key => generateEach_contains hc faces run key,
    fun _ _ ha hp => generateEach_watching_keeps hc ha faces run hp,
    congrFun₂ (generateEach_watching_perform hc) faces run,
    fun action => congrFun₂ (generateEach_watching_foreseen hc action) faces run⟩

/-! ## A step that is overtaken -/

/-- A step that binds a key globally. -/
def bindingStep (params : List (String × Value)) : Value :=
  .mapping <| Dict.ofList <|
    [(typeKey, .string "write_to_cache"), ("key", .string "k"), ("is_global", .bool true)] ++ params

/-- A template that binds a key. -/
def early : CardFace :=
  { CardFace.empty 0 with
    label := some "early"
    size := some ⟨1, 1⟩
    steps := [bindingStep [("value", .string "first")]] }

/-- A face that leaves the key alone if it exists, and else binds it to what the template draws. -/
def late : CardFace :=
  { CardFace.empty 1 with
    size := some ⟨1, 1⟩
    steps := [bindingStep [
      ("mode", .string "add_or_skip"), ("is_lazy", .bool false),
      ("value", .mapping <| Dict.ofList [
        (Value.deferredKey, .string "image_from_template"), ("label", .string "early")])]] }

/-- The press that has the template. -/
def overtaken : Press :=
  .ofPool (TemplatePool.empty.insert "early" early rfl)

theorem generateEach_globalCache_late :
    Capabilities.standard = .ok overtaken.capabilities ∧
      let run := Run.start .empty (Dict.ofList [("k", .null)])
      run.globalCache.contains "k" = true ∧
        (overtaken.generateEach [late, early] run).2.globalCache.contains "k" = true := by
  refine ⟨Capabilities.standard_eq_table, rfl, ?_⟩
  obtain ⟨hkeys, -⟩ :=
    generateEach_globalCache overtaken Capabilities.standard_eq_table [late, early] _
  exact hkeys "k" rfl

set_option maxRecDepth 10000 in
/-- The template binds the key to a text while the face that has found no such key is about to, and
the face puts its image there. -/
theorem generateEach_ne_watching_replacing :
    Capabilities.standard = .ok overtaken.capabilities ∧
      (overtaken.watching ⟨GlobalWrite.isReplacing, fun _ => pure ()⟩).generateEach [late]
          (.start .empty ∅) ≠
        overtaken.generateEach [late] (.start .empty ∅) := by
  refine ⟨Capabilities.standard_eq_table, fun h => ?_⟩
  have hreplaced : ((overtaken.generateEach [late] (.start .empty ∅)).2.globalCache.get? "k").map
      Value.kind = some .image := by
    cbv
  have hkept : (((overtaken.watching ⟨GlobalWrite.isReplacing, fun _ => pure ()⟩).generateEach
      [late] (.start .empty ∅)).2.globalCache.get? "k").map Value.kind = some .string := by
    cbv
  rw [← h, hkept] at hreplaced
  cases hreplaced

end Press

end CardPress
