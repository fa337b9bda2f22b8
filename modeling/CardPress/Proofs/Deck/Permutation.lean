import CardPress.Proofs.Deck.Turns

/-!
# The order of a deck

The faces of a deck are drawn in turn, and a face can leave two things behind for those after it:
keys in the global cache, and files. A deck whose faces leave neither gives every definition the
same outcome in any order.

## Main definitions

* `Deck.LeavesOut` — no step of some kind is done while the deck is drawn.
* `Deck.LeavesNothing` — nothing is saved, and the global cache stays empty.

## Main results

* `Deck.LeavesNothing.sameStores_noted` — a deck that leaves nothing behind does so face by face.
* `Deck.generateAll_perm` — its order does not matter.
-/

namespace CardPress

open Generation

namespace Deck

/-- No step of some kind is done while the deck is drawn: it makes no difference what such steps
do. -/
def LeavesOut (d : Deck) (kind : String) (capabilities : Capabilities) (config : Config)
    (run : Run) : Prop :=
  ∀ handler, d.generateAll (capabilities.withStep kind handler) config run =
    d.generateAll capabilities config run

variable {d : Deck} {pool : TemplatePool}

/-- A deck leaves out steps of some kind, and nothing behind, if its faces do so one by one. -/
theorem leavesOut_of_generate {press : Press} (hpool : d.pool = .ok press.pool) {kind : String}
    {start : Run} (h : ∀ face ∈ d.faces, ∀ run : Run, run.SameStores start →
      (press.generate face run).2.SameStores start ∧
        ∀ handler, (press.withStep kind handler).generate face run = press.generate face run) :
    d.LeavesOut kind press.capabilities press.config start ∧
      (d.generateAll press.capabilities press.config start).2.SameStores start := by
  have hleft : ∀ item ∈ d.items, ∀ run : Run, run.SameStores start →
      (press.turn item.1.2 run).2.SameStores start := by
    intro item hitem run hrun
    have hgenerate := (h _ (face_mem_of_items hitem) run hrun).1
    exact Press.turn_keeps (P := (·.SameStores start)) hrun hgenerate
  have hopening : (d.opening start).SameStores start := ⟨rfl, rfl⟩
  constructor
  · intro handler
    have hreports : (press.withStep kind handler).reportFaces d.items (d.opening start) =
        press.reportFaces d.items (d.opening start) := by
      refine Press.reportFaces_congr hleft (fun item hitem run hrun => ?_) hopening
      exact Press.turn_withStep_congr ((h _ (face_mem_of_items hitem) run hrun).2 handler)
    rw [generateAll_eq_closing hpool, generateAll_eq_closing hpool]
    exact congrArg (fun drawn => (d.closing drawn).map Except.ok id) hreports
  · obtain ⟨entry, hend⟩ := generateAll_snd_of_pool hpool press.capabilities press.config start
    have hafter := Press.runAfter_sameStores hleft hopening
    rw [hend]
    exact ⟨hafter.globalCache, hafter.files⟩

/-! ## A deck that leaves nothing behind -/

/-- Drawn with a press, beginning with some files, the deck saves nothing and leaves no keys in the
global cache. -/
structure LeavesNothing (d : Deck) (press : Press) (files : FileStore) : Prop where
  pool : d.pool = .ok press.pool
  leavesOut : d.LeavesOut "save" press.capabilities press.config (.start files ∅)
  globalCache : (d.generateAll press.capabilities press.config (.start files ∅)).2.globalCache = ∅

/-- The run in which the face at some place is drawn, with notes of what is saved. -/
def noted (d : Deck) (press : Press) (files : FileStore) (message : String) (i : Nat) : Run :=
  (press.notingSaves message).runAfter (d.items.take i) (d.opening (.start files ∅))

namespace LeavesNothing

variable {press : Press} {files : FileStore} (h : d.LeavesNothing press files)
  (hc : Capabilities.standard = .ok press.capabilities) {message : String}
  (hfresh : ¬(d.generateAll press.capabilities press.config (.start files ∅)).2.Notes message)

include h

/-- Notes of what is saved make no difference. -/
theorem report_eq (message : String) :
    (d.generateAll press.capabilities press.config (.start files ∅)).1 =
      .ok ⟨CardDefinition.hashAll d.definitions,
        ((press.notingSaves message).reportFaces d.items (d.opening (.start files ∅))).1⟩ := by
  rw [← h.leavesOut (Step.save.noting message)]
  exact generateAll_of_pool h.pool _ _ _

/-- After the remaining faces the run is the one that the deck leaves behind, but for its log. -/
theorem exists_entry (message : String) (i : Nat) :
    ∃ entry, (d.generateAll press.capabilities press.config (.start files ∅)).2 =
      ((press.notingSaves message).runAfter (d.items.drop i)
        (d.noted press files message i)).record entry := by
  rw [← h.leavesOut (Step.save.noting message), noted, ← Press.runAfter_append,
    List.take_append_drop]
  exact generateAll_snd_of_pool h.pool _ _ _

include hc hfresh

/-- What lasts from some face on until a note is left holds in the end. -/
theorem holds_of_noted {P : Run → Prop} (hP : Run.Lasting P) {i : Nat}
    (hrun : (d.noted press files message i).Notes message ∨ P (d.noted press files message i)) :
    P (d.generateAll press.capabilities press.config (.start files ∅)).2 := by
  obtain ⟨entry, hend⟩ := h.exists_entry message i
  have hrest := Press.runAfter_unless_notes hc hP message (d.items.drop i) hrun
  rw [hend, Run.notes_record, not_or] at hfresh
  rw [hend]
  exact hP.record entry (hrest.resolve_left hfresh.2)

/-- No face leaves anything behind. -/
theorem sameStores_noted (i : Nat) :
    (d.noted press files message i).SameStores (.start files ∅) := by
  constructor
  · refine Dict.eq_empty_of_contains fun key => Bool.eq_false_iff.2 fun hkey => ?_
    have hkept := h.holds_of_noted hc hfresh (Run.lasting_contains key) (.inr hkey)
    rw [h.globalCache] at hkept
    cases hkept
  · have hopening : (d.opening (.start files ∅)).files = files := rfl
    have hfiles := Press.runAfter_unless_notes hc (Run.lasting_files files) message
      (d.items.take i) (.inr hopening)
    refine hfiles.resolve_left fun hnotes => hfresh ?_
    exact h.holds_of_noted hc hfresh (Run.lasting_notes message) (.inl hnotes)

end LeavesNothing

/-! ## Pools in another order -/

/-- Under a label, the pool of a deck has a face that a definition with that label declares. -/
theorem lookup_pool_unnumbered (h : d.pool = .ok pool) (label : String) (face : CardFace) :
    (pool.lookup label).map CardFace.unnumbered = some face ↔
      ∃ definition ∈ d.definitions, definition.label = some label ∧ definition.face 0 = face := by
  rw [Option.map_eq_some_iff]
  constructor
  · rintro ⟨template, hl, rfl⟩
    obtain ⟨hmem, hlabel⟩ := (lookup_pool h label template).1 hl
    obtain ⟨i, hi⟩ := List.mem_iff_getElem?.1 hmem
    rw [getElem?_faces] at hi
    obtain ⟨definition, hdefinition, rfl⟩ := Option.map_eq_some_iff.1 hi
    exact ⟨definition, List.mem_of_getElem? hdefinition, hlabel, rfl⟩
  · rintro ⟨definition, hdefinition, hlabel, rfl⟩
    obtain ⟨i, hi⟩ := List.mem_iff_getElem?.1 hdefinition
    have hface : d.faces[i]? = some (definition.face i) := by
      rw [getElem?_faces, hi]
      rfl
    exact ⟨definition.face i, (lookup_pool h label _).2 ⟨List.mem_of_getElem? hface, hlabel⟩, rfl⟩

theorem pool_alike {d' : Deck} {pool' : TemplatePool}
    (hperm : d'.definitions.Perm d.definitions) (h : d.pool = .ok pool) (h' : d'.pool = .ok pool') :
    pool.Alike pool' := by
  intro label
  refine Option.ext fun face => ?_
  rw [lookup_pool_unnumbered h, lookup_pool_unnumbered h']
  simp only [hperm.mem_iff]

/-- The places of its faces tell a deck's templates apart. -/
theorem pool_numberedIn (h : d.pool = .ok pool) : pool.NumberedIn d.faces where
  mem hl := ((lookup_pool h _ _).1 hl).1
  serial_iff := by
    intro face label template hface hl
    obtain ⟨htemplate, hlabel⟩ := (lookup_pool h label template).1 hl
    constructor
    · intro hserial
      obtain ⟨i, hi⟩ := List.mem_iff_getElem?.1 hface
      obtain ⟨j, hj⟩ := List.mem_iff_getElem?.1 htemplate
      rw [getElem?_faces] at hi hj
      obtain ⟨definition, hdefinition, rfl⟩ := Option.map_eq_some_iff.1 hi
      obtain ⟨definition', hdefinition', rfl⟩ := Option.map_eq_some_iff.1 hj
      have hplace : i = j := hserial
      rw [hplace, hdefinition'] at hdefinition
      rw [← Option.some.inj hdefinition]
      exact hlabel
    · intro hown
      have hsame := (lookup_pool h label face).2 ⟨hface, hown⟩
      rw [Option.some.inj (hl.symm.trans hsame)]

/-! ## Decks in another order -/

theorem labels_perm {d' : Deck} (hperm : d'.definitions.Perm d.definitions) :
    d'.labels.Perm d.labels :=
  hperm.filterMap _

section Perm

variable {press : Press} (hc : Capabilities.standard = .ok press.capabilities) {files : FileStore}
  (h : d.LeavesNothing press files) {message : String}
  (hfresh : ¬(d.generateAll press.capabilities press.config (.start files ∅)).2.Notes message)
  {d' : Deck} (hperm : d'.definitions.Perm d.definitions) {pool' : TemplatePool}
  (hpool' : d'.pool = .ok pool')

include hc h hfresh hperm hpool'

/-- In the other order, too, a definition has its outcome and leaves nothing behind if those before
it have left nothing behind. -/
theorem turn_perm {i j : Nat} {definition : CardDefinition}
    (hi : d.definitions[i]? = some definition) (hj : d'.definitions[j]? = some definition)
    {run : Run} (hrun : run.SameStores (.start files ∅)) :
    ((press.notingSaves message).turn (definition.face i) (d.noted press files message i)).1 =
        ((press.withPool pool').turn (definition.face j) run).1 ∧
      ((press.withPool pool').turn (definition.face j) run).2.SameStores (.start files ∅) := by
  have hnoted := h.sameStores_noted hc hfresh
  obtain ⟨houtcome, hleft⟩ := Press.turn_alike hc (pool_alike hperm h.pool hpool')
    (pool_numberedIn h.pool) (pool_numberedIn hpool') (face_mem_faces hi) (face_mem_faces hj) rfl
    message ((hnoted i).trans hrun.symm)
  refine ⟨houtcome, hleft.symm.trans ?_⟩
  have hitem : d.items[i]? = some ((definition, definition.face i), i) := by
    rw [getElem?_items, hi]
    rfl
  have hafter := hnoted (i + 1)
  rw [noted, Press.runAfter_take_succ _ hitem] at hafter
  exact (Press.reportFace_sameStores _ definition _ i _).symm.trans hafter

/-- So none in the other order leaves anything behind. -/
theorem sameStores_runAfter_perm (j : Nat) :
    ((press.withPool pool').runAfter (d'.items.take j) (d'.opening (.start files ∅))).SameStores
      (.start files ∅) := by
  refine Press.runAfter_sameStores (fun item hitem run hrun => ?_) ⟨rfl, rfl⟩
  obtain ⟨k, hk⟩ := List.mem_iff_getElem?.1 (List.mem_of_mem_take hitem)
  rw [getElem?_items] at hk
  obtain ⟨definition, hdefinition, rfl⟩ := Option.map_eq_some_iff.1 hk
  obtain ⟨i, hi⟩ := List.mem_iff_getElem?.1 (hperm.mem_iff.1 (List.mem_of_getElem? hdefinition))
  exact (turn_perm hc h hfresh hperm hpool' hi hdefinition hrun).2

end Perm

/-- Let the labels of a deck differ, and let drawing it leave the global cache empty, as it is in
the beginning, without anything saved. Then the same definitions in any other order get a report as
well, and every definition the outcome that it had. -/
theorem generateAll_perm {d d' : Deck} (hperm : d'.definitions.Perm d.definitions)
    (hlabels : d.labels.Nodup) {capabilities : Capabilities}
    (hc : Capabilities.standard = .ok capabilities) (config : Config) (files : FileStore)
    (hsave : d.LeavesOut "save" capabilities config (.start files ∅))
    (hcache : (d.generateAll capabilities config (.start files ∅)).2.globalCache = ∅) :
    ∃ report report', (d.generateAll capabilities config (.start files ∅)).1 = .ok report ∧
      (d'.generateAll capabilities config (.start files ∅)).1 = .ok report' ∧
      ∀ (i j : Nat) (definition : CardDefinition), d.definitions[i]? = some definition →
        d'.definitions[j]? = some definition →
        ∃ entry entry', report.faces[i]? = some entry ∧ report'.faces[j]? = some entry' ∧
          entry'.outcome = entry.outcome := by
  obtain ⟨pool, hpool⟩ := (exists_pool_iff d).2 hlabels
  obtain ⟨pool', hpool'⟩ := (exists_pool_iff d').2 ((labels_perm hperm).nodup_iff.2 hlabels)
  obtain ⟨message, hfresh⟩ :=
    (d.generateAll capabilities config (.start files ∅)).2.exists_not_notes
  let press : Press := ⟨capabilities, pool, config⟩
  have hpress : Capabilities.standard = .ok press.capabilities := hc
  have h : d.LeavesNothing press files := ⟨hpool, hsave, hcache⟩
  refine ⟨_, _, h.report_eq message, generateAll_of_pool hpool' _ _ _, ?_⟩
  intro i j definition hi hj
  have hbefore := sameStores_runAfter_perm hpress h hfresh hperm hpool' j
  obtain ⟨houtcome, -⟩ := turn_perm hpress h hfresh hperm hpool' hi hj hbefore
  have hentry := getElem?_reportFaces_items (press.notingSaves message) d
    (d.opening (.start files ∅)) i
  have hentry' := getElem?_reportFaces_items (press.withPool pool') d'
    (d'.opening (.start files ∅)) j
  rw [hi] at hentry
  rw [hj] at hentry'
  exact ⟨_, _, hentry, hentry', houtcome.symm⟩

/-! ## A deck in another order -/

/-- A step that stores a value for the rest of the face. -/
def storing (key : String) (value : Value) : Value :=
  .mapping <| Dict.ofList [
    (typeKey, .string "write_to_cache"), ("key", .string key), ("is_lazy", .bool false),
    ("value", value)]

/-- A face that stores a key. -/
def keeping : CardDefinition :=
  { CardDefinition.empty with
    label := some "keeping"
    size := some ⟨2, 1⟩
    steps := [storing "kept" (.bool true)] }

/-- A face that does so, too, as it inherits the step. -/
def inheriting : CardDefinition :=
  { CardDefinition.empty with template := some "keeping" }

/-- A face that looks for the key. -/
def seeking : CardDefinition :=
  { CardDefinition.empty with
    size := some ⟨1, 1⟩
    steps := [storing "copy" (.mapping <| Dict.ofList [
      (Value.deferredKey, .string "cached"), ("key", .string "kept")])] }

def shelf : Deck where
  definitions := [keeping, inheriting, seeking]

/-- The deck from back to front. -/
def reversed (d : Deck) : Deck where
  definitions := d.definitions.reverse

set_option maxRecDepth 10000 in
theorem generateAll_perm_shelf :
    Capabilities.standard = .ok Capabilities.table ∧
      shelf.reversed.definitions.Perm shelf.definitions ∧ shelf.labels.Nodup ∧
      shelf.LeavesOut "save" Capabilities.table .standard (.start .empty ∅) ∧
      (shelf.generateAll Capabilities.table .standard (.start .empty ∅)).2.globalCache = ∅ ∧
      ∃ report report',
        (shelf.generateAll Capabilities.table .standard (.start .empty ∅)).1 = .ok report ∧
        (shelf.reversed.generateAll Capabilities.table .standard (.start .empty ∅)).1 =
          .ok report' ∧
        ∃ entry entry', report.faces[2]? = some entry ∧ report'.faces[0]? = some entry' ∧
          entry'.outcome = entry.outcome := by
  have hperm : shelf.reversed.definitions.Perm shelf.definitions := List.reverse_perm _
  have hlabels : shelf.labels.Nodup := by decide
  obtain ⟨pool, hpool⟩ := (exists_pool_iff shelf).2 hlabels
  have hfaces : ∀ face ∈ shelf.faces, ∀ run : Run, run.SameStores (.start .empty ∅) →
      ((Press.ofPool pool).generate face run).2.SameStores (.start .empty ∅) ∧
        ∀ handler, ((Press.ofPool pool).withStep "save" handler).generate face run =
          (Press.ofPool pool).generate face run := by
    cases hpool
    rintro face hface ⟨cache, files, nextStamp, log⟩ ⟨hcache, hfiles⟩
    have hcache : cache = ∅ := hcache
    have hfiles : files = .empty := hfiles
    subst hcache hfiles
    have hshelf : shelf.faces = [keeping.face 0, inheriting.face 1, seeking.face 2] := rfl
    rw [hshelf] at hface
    simp only [List.mem_cons, List.not_mem_nil, or_false] at hface
    rcases hface with rfl | rfl | rfl
    · exact ⟨⟨by cbv, by cbv⟩, fun handler => by cbv⟩
    · exact ⟨⟨by cbv, by cbv⟩, fun handler => by cbv⟩
    · exact ⟨⟨by cbv, by cbv⟩, fun handler => by cbv⟩
  have hleaves := leavesOut_of_generate hpool hfaces
  have hcache := hleaves.2.globalCache
  obtain ⟨report, report', hreport, hreport', hentries⟩ := generateAll_perm hperm hlabels
    Capabilities.standard_eq_table .standard .empty hleaves.1 hcache
  exact ⟨Capabilities.standard_eq_table, hperm, hlabels, hleaves.1, hcache, report, report',
    hreport, hreport', hentries 2 0 _ rfl rfl⟩

end Deck

end CardPress
