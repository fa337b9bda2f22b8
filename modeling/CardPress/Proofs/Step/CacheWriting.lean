import CardPress.Proofs.Outcome
import CardPress.Step.Cache

/-!
# Entries of a step that writes to caches

Entries are written one after the other. What comes of an entry depends on two mappings, the cache
of the face and the global one, and on its value: the mode admits the key, skips it or refuses it,
and an admitted entry is bound if its value resolves.

## Main definitions

* `Step.Caches` — the two mappings, as a state has them.
* `Step.CacheWriting.verdict` — what the mode makes of a key.
* `Step.CacheWriting.fate` — what comes of an entry.
* `Step.CacheWriting.bound` — the caches with a key bound in those that are addressed.
* `Step.CacheWriting.Reaches` — an entry is reached when those before it have been written.

## Main results

* `Step.CacheWriting.writeEntry_fate` — writing an entry does what comes of it.
* `Step.CacheWriting.writeEntries_reaches` — all entries are written, or one that is reached fails.
-/

namespace CardPress

open Generation

theorem Dict.contains_insert_of_contains {α : Type} {d : Dict α} {key : String}
    (h : d.contains key = true) (k : String) (v : α) : (d.insert k v).contains key = true := by
  by_cases hkey : key = k
  · simp [hkey]
  · rwa [contains_eq_isSome, get?_insert_of_ne d hkey v]

/-- What is stored for a face, and for all faces. -/
structure Step.Caches where
  own : Mapping
  shared : Mapping

def Generation.State.caches (s : State) : Step.Caches :=
  ⟨s.draft.cache, s.run.globalCache⟩

@[simp] theorem Generation.State.caches_own (s : State) : s.caches.own = s.draft.cache := rfl

@[simp] theorem Generation.State.caches_shared (s : State) :
    s.caches.shared = s.run.globalCache := rfl

namespace Step

/-- How a step writes, and what. -/
def readWriting (scene : Scene) (params : Mapping) :
    Generation (CacheWriting × List (String × Value)) := do
  let w ← CacheWriting.read scene params
  return (w, ← cacheEntries scene params)

theorem writeToCache_eq_readWriting (scene : Scene) (params : Mapping) (canvas : Image) :
    writeToCache scene params canvas = (do
      let (w, entries) ← readWriting scene params
      w.writeEntries scene entries
      return .go canvas) := by
  simp only [writeToCache, readWriting, bind_assoc, pure_bind]

namespace CacheWriting

/-- Whether the mode admits a key in every cache addressed, the face's own one first; where it
refuses the key this is a fault. -/
def verdict (w : CacheWriting) (key : String) (c : Caches) : Except Fault Bool := do
  if ← w.mode.admits key (c.own.contains key) false then
    if w.isGlobal then w.mode.admits key (c.shared.contains key) true else return true
  else return false

/-- The value that is stored, resolved if it is not to be stored as it stands. -/
def prepare (w : CacheWriting) (scene : Scene) (v : Value) : Generation Value :=
  if w.isLazy then pure v else scene.resolve v

/-- A key is bound to one value in every cache addressed. -/
def bound (w : CacheWriting) (key : String) (v : Value) (c : Caches) : Caches where
  own := c.own.insert key v
  shared := if w.isGlobal then c.shared.insert key v else c.shared

/-- An entry is reached in a state if the entries before it have been written by then. -/
structure Reaches (w : CacheWriting) (scene : Scene) (entries : List (String × Value)) (s : State)
    (before : List (String × Value)) (e : String × Value) (t : State) : Prop where
  split : before ++ [e] <+: entries
  written : w.writeEntries scene before s = .ok () t

variable {w : CacheWriting} {scene : Scene} {key : String} {e : String × Value} {v : Value}
  {s t : State}

/-- A mode that leaves existing keys alone admits new ones only. -/
theorem contains_eq_false_of_admits {mode : WriteMode} {key : String} {found isGlobal : Bool}
    (hmode : mode = .add ∨ mode = .addOrSkip) (h : mode.admits key found isGlobal = .ok true) :
    found = false := by
  cases found with
  | false => rfl
  | true => rcases hmode with rfl | rfl <;> cases h

/-- One mode only skips keys, and only those that exist. -/
theorem of_admits_eq_false {mode : WriteMode} {found isGlobal : Bool}
    (h : mode.admits key found isGlobal = .ok false) : mode = .addOrSkip ∧ found = true := by
  cases mode <;> cases found <;> cases h
  exact ⟨rfl, rfl⟩

/-- Keys are skipped by one mode only, in the first cache that has them. -/
theorem of_verdict_eq_false {c : Caches} (h : w.verdict key c = .ok false) :
    w.mode = .addOrSkip ∧ (c.own.contains key = true ∨
      w.isGlobal = true ∧ c.own.contains key = false ∧ c.shared.contains key = true) := by
  rw [verdict] at h
  obtain ⟨here, hhere, h⟩ := bind_eq_ok_iff.1 h
  cases here with
  | false =>
    obtain ⟨hmode, hown⟩ := of_admits_eq_false hhere
    exact ⟨hmode, .inl hown⟩
  | true =>
    rw [if_pos rfl] at h
    split at h
    · next hg =>
      obtain ⟨hmode, hshared⟩ := of_admits_eq_false h
      exact ⟨hmode, .inr ⟨hg, contains_eq_false_of_admits (.inr hmode) hhere, hshared⟩⟩
    · cases h

/-- The step looks for a key as the verdict does, and this leaves the caches as they are. -/
theorem admits_verdict (w : CacheWriting) (key : String) (s : State) :
    match w.verdict key s.caches with
    | .ok true => w.admits key s = .ok true s
    | .ok false => ∃ t, w.admits key s = .ok false t ∧ t.caches = s.caches
    | .error fault => w.admits key s = .error fault s := by
  have hskip (reason : String) : ∃ t, (do w.skip key reason; return false : Generation Bool) s =
      .ok false t ∧ t.caches = s.caches := by
    rw [skip]
    cases w.isLogged <;> exact ⟨_, rfl, rfl⟩
  rw [admits, get_bind_apply, ofExcept_bind_apply]
  cases hown : w.mode.admits key (s.draft.cache.contains key) false with
  | error fault =>
    have hverdict : w.verdict key s.caches = .error fault := by
      rw [verdict, State.caches_own, hown]
      rfl
    rw [hverdict]
  | ok here =>
    cases here with
    | false =>
      have hverdict : w.verdict key s.caches = .ok false := by
        rw [verdict, State.caches_own, hown]
        rfl
      rw [hverdict]
      exact hskip ""
    | true =>
      have hverdict : w.verdict key s.caches = if w.isGlobal then
          w.mode.admits key (s.run.globalCache.contains key) true else .ok true := by
        rw [verdict, State.caches_own, hown]
        rfl
      rw [hverdict]
      dsimp only
      rw [if_pos rfl]
      cases w.isGlobal with
      | false => rfl
      | true =>
        rw [if_pos rfl, if_pos rfl, get_bind_apply, ofExcept_bind_apply]
        cases w.mode.admits key (s.run.globalCache.contains key) true with
        | error fault => rfl
        | ok everywhere =>
          cases everywhere with
          | true => rfl
          | false => exact hskip " globally"

theorem bind_caches (w : CacheWriting) (key : String) (v : Value) (s : State) :
    ∃ t, w.bind key v s = .ok () t ∧ t.caches = w.bound key v s.caches := by
  rw [bind, bound]
  cases w.isLogged <;> cases w.isGlobal <;> exact ⟨_, rfl, rfl⟩

theorem get?_bound_of_ne {k : String} {c : Caches} (h : k ≠ key) :
    (w.bound key v c).own.get? k = c.own.get? k ∧
      (w.bound key v c).shared.get? k = c.shared.get? k := by
  refine ⟨Dict.get?_insert_of_ne _ h v, ?_⟩
  rw [bound]
  split
  · exact Dict.get?_insert_of_ne _ h v
  · rfl

theorem writeEntry_eq (w : CacheWriting) (scene : Scene) (key : String) (v : Value) :
    w.writeEntry scene key v = (do if ← w.admits key then w.bind key (← w.prepare scene v)) := by
  rw [writeEntry]
  refine bind_congr fun admitted => ?_
  cases hl : w.isLazy <;> simp [prepare, hl]

/-- What a step does with an entry, by what the mode makes of its key. -/
theorem writeEntry_verdict (w : CacheWriting) (scene : Scene) (e : String × Value) (s : State) :
    match w.verdict e.1 s.caches with
    | .ok true => w.writeEntry scene e.1 e.2 s = (w.prepare scene e.2 >>= w.bind e.1) s
    | .ok false => ∃ t, w.writeEntry scene e.1 e.2 s = .ok () t ∧ t.caches = s.caches
    | .error fault => w.writeEntry scene e.1 e.2 s = .error fault s := by
  have hadmits := w.admits_verdict e.1 s
  rw [writeEntry_eq]
  cases hverdict : w.verdict e.1 s.caches with
  | error fault =>
    rw [hverdict] at hadmits
    exact bind_of_error _ hadmits
  | ok admitted =>
    rw [hverdict] at hadmits
    cases admitted with
    | false =>
      obtain ⟨t, hadmits, hcaches⟩ := hadmits
      exact ⟨t, bind_of_ok _ hadmits, hcaches⟩
    | true => exact bind_of_ok _ hadmits

/-- An entry that did not fail was skipped or bound. -/
theorem of_writeEntry_ok (h : w.writeEntry scene e.1 e.2 s = .ok () t) :
    w.verdict e.1 s.caches = .ok false ∧ t.caches = s.caches ∨
      w.verdict e.1 s.caches = .ok true ∧ ∃ v, outcome (w.prepare scene e.2) s = .ok v ∧
        t.caches = w.bound e.1 v (stateAfter (w.prepare scene e.2) s).caches := by
  have hwrite := w.writeEntry_verdict scene e s
  cases hverdict : w.verdict e.1 s.caches with
  | error fault =>
    rw [hverdict, h] at hwrite
    cases hwrite
  | ok admitted =>
    rw [hverdict] at hwrite
    cases admitted with
    | false =>
      obtain ⟨u, hu, hcaches⟩ := hwrite
      cases h.symm.trans hu
      exact .inl ⟨rfl, hcaches⟩
    | true =>
      obtain ⟨v, u, hv, hbind⟩ := bind_ok_iff.1 (hwrite.symm.trans h)
      obtain ⟨t', ht', hcaches⟩ := w.bind_caches e.1 v u
      cases hbind.symm.trans ht'
      obtain ⟨houtcome, rfl⟩ := eq_ok_iff.1 hv
      exact .inr ⟨rfl, v, houtcome, hcaches⟩

theorem writeEntries_append (before behind : List (String × Value)) :
    w.writeEntries scene (before ++ behind) = (do
      w.writeEntries scene before
      w.writeEntries scene behind) := by
  induction before with
  | nil => rfl
  | cons e rest ih =>
    rw [List.cons_append, writeEntries, writeEntries, ih, bind_assoc]

theorem writeEntries_singleton : w.writeEntries scene [e] = w.writeEntry scene e.1 e.2 := by
  rw [writeEntries]
  exact bind_pure _

namespace Reaches

variable {entries before : List (String × Value)} {fault : Fault} {u : State}

theorem head (e : String × Value) (rest : List (String × Value)) (s : State) :
    w.Reaches scene (e :: rest) s [] e s :=
  ⟨⟨rest, rfl⟩, rfl⟩

/-- What is reached after an entry is reached from the entry on. -/
theorem cons {first : String × Value} (h : w.Reaches scene entries t before e u)
    (hfirst : w.writeEntry scene first.1 first.2 s = .ok () t) :
    w.Reaches scene (first :: entries) s (first :: before) e u where
  split := by
    rw [List.cons_append]
    exact (List.prefix_cons_inj first).2 h.split
  written := (bind_of_ok _ hfirst).trans h.written

variable (h : w.Reaches scene entries s before e t)

include h

theorem written_snoc :
    w.writeEntries scene (before ++ [e]) s = w.writeEntry scene e.1 e.2 t := by
  rw [writeEntries_append, bind_of_ok _ h.written, writeEntries_singleton]

end Reaches

end CacheWriting

end Step

end CardPress
