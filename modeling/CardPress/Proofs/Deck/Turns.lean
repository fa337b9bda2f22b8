import CardPress.Proofs.Deck.Validation
import CardPress.Proofs.Generation.GlobalCache
import CardPress.Proofs.Generation.Noting
import CardPress.Proofs.Generation.Serials

/-!
# Faces in turn

When a face has its turn it offers and leaves two things to the others, keys in the global cache and
files. What becomes of it depends on no more of the run, and on the deck's other faces only through
the templates, however they are numbered.

## Main definitions

* `Run.SameStores` — runs with the same global cache and the same files.

## Main results

* `Press.runAfter_lasting` — what lasts while single faces are drawn lasts while they have their
  turns.
* `Press.turn_alike` — what becomes of a face, in pools that only differ in serial numbers, and with
  notes of what is saved.
-/

namespace CardPress

open Generation

/-- Runs that offer the same to the faces drawn in them. -/
structure Run.SameStores (run run' : Run) : Prop where
  globalCache : run.globalCache = run'.globalCache
  files : run.files = run'.files

namespace Run.SameStores

variable {run run' run'' : Run}

theorem symm (h : run.SameStores run') : run'.SameStores run :=
  ⟨h.globalCache.symm, h.files.symm⟩

theorem trans (h : run.SameStores run') (h' : run'.SameStores run'') : run.SameStores run'' :=
  ⟨h.globalCache.trans h'.globalCache, h.files.trans h'.files⟩

/-- What is performed comes to the same if it does but for the log. -/
theorem perform {α : Type} {x y : Generation α} (hxy : Agree SameButLog x y)
    (h : run.SameStores run') :
    (run.perform x).1 = (run'.perform y).1 ∧ (run.perform x).2.SameStores (run'.perform y).2 := by
  have hstart : SameButLog
      ⟨{ run with nextStamp := (Value.mapping run.globalCache).greatestStamp + 1 },
        ⟨∅, none, 0⟩, []⟩
      ⟨{ run' with nextStamp := (Value.mapping run'.globalCache).greatestStamp + 1 },
        ⟨∅, none, 0⟩, []⟩ :=
    ⟨run.log, by rw [h.globalCache, h.files]⟩
  have hends := hxy _ _ hstart
  simp only [Run.perform]
  generalize x _ = r, y _ = r' at hends ⊢
  cases hends with
  | ok hst =>
    obtain ⟨log, rfl⟩ := hst
    exact ⟨rfl, rfl, rfl⟩
  | error hst =>
    obtain ⟨log, rfl⟩ := hst
    exact ⟨rfl, rfl, rfl⟩

end Run.SameStores

namespace Press

/-! ## What faces leave behind -/

/-- What is known of a run and kept by drawing a face is kept when the face has its turn. -/
theorem turn_keeps {press : Press} {P : Run → Prop} {face : CardFace} {run : Run} (hrun : P run)
    (hgenerate : P (press.generate face run).2) : P (press.turn face run).2 := by
  rw [turn]
  split
  · exact hrun
  · cases h : press.pool.compose face with
    | error fault => rwa [outcome_of_error h]
    | ok composition =>
      cases hsize : composition.size with
      | none => rwa [outcome_of_unsized h hsize]
      | some size => rwa [outcome_of_sized h hsize]

/-- Where another step makes no difference to what is drawn, it makes none to what becomes of the
face. -/
theorem turn_withStep_congr {press : Press} {kind : String} {handler : StepHandler}
    {face : CardFace} {run : Run}
    (h : (press.withStep kind handler).generate face run = press.generate face run) :
    (press.withStep kind handler).turn face run = press.turn face run := by
  rw [turn, turn, outcome, outcome, h]
  rfl

section Lasting

variable {press : Press} (hc : Capabilities.standard = .ok press.capabilities) {P : Run → Prop}
  (hP : Run.Lasting P) {handler : StepHandler}
  (hhandler : ∀ scene params canvas s, P (stateAfter (handler scene params canvas) s).run)

include hc hP hhandler

theorem turn_lasting (face : CardFace) {run : Run} (hrun : P run) :
    P ((press.withStep "save" handler).turn face run).2 := by
  refine turn_keeps hrun ?_
  rw [generate_snd]
  exact drawFace_lasting hc hP hhandler [] face (hP.withStamp _ hrun)

/-- What lasts while single faces are drawn lasts while they are reported on in turn. -/
theorem runAfter_lasting (items : List ((CardDefinition × CardFace) × Nat)) {run : Run}
    (hrun : P run) : P ((press.withStep "save" handler).runAfter items run) := by
  induction items generalizing run with
  | nil => exact hrun
  | cons item rest ih =>
    rw [runAfter_cons, reportFace_eq]
    refine ih ?_
    have hturn := turn_lasting hc hP hhandler item.1.2 hrun
    dsimp only
    split
    · exact hP.record _ hturn
    · exact hturn

end Lasting

/-- What lasts does so until a note is left. -/
theorem runAfter_unless_notes {press : Press} (hc : Capabilities.standard = .ok press.capabilities)
    {P : Run → Prop} (hP : Run.Lasting P) (message : String)
    (items : List ((CardDefinition × CardFace) × Nat)) {run : Run}
    (hrun : run.Notes message ∨ P run) :
    ((press.notingSaves message).runAfter items run).Notes message ∨
      P ((press.notingSaves message).runAfter items run) :=
  runAfter_lasting hc ((Run.lasting_notes message).or hP)
    (fun _ _ _ s => .inl (notes_noting message _ s)) items hrun

/-! ## What becomes of a face -/

section Alike

variable {press : Press} (hc : Capabilities.standard = .ok press.capabilities)
  {pool' : TemplatePool} (h : press.pool.Alike pool') {faces faces' : List CardFace}
  (hpool : press.pool.NumberedIn faces) (hpool' : pool'.NumberedIn faces')
  {face face' : CardFace} (hmem : face ∈ faces) (hmem' : face' ∈ faces')
  (hface : face.unnumbered = face'.unnumbered)

include hc h hpool hpool' hmem hmem' hface

theorem generate_alike (message : String) {run run' : Run} (hrun : run.SameStores run') :
    ((press.notingSaves message).generate face run).1 =
        ((press.withPool pool').generate face' run').1 ∧
      ((press.notingSaves message).generate face run).2.SameStores
        ((press.withPool pool').generate face' run').2 := by
  have hdraw : Generation.Agree SameButLog ((press.notingSaves message).drawFace [] face)
      ((press.withPool pool').drawFace [] face') := by
    rw [← drawFace_alike h hpool hpool' hc .nil hmem hmem' hface]
    exact agree_drawFace_noting hc message [] face
  exact hrun.perform hdraw

/-- What becomes of a face depends only on the global cache and the files, not on serial numbers,
and notes of what is saved make no difference. -/
theorem turn_alike (message : String) {run run' : Run} (hrun : run.SameStores run') :
    ((press.notingSaves message).turn face run).1 = ((press.withPool pool').turn face' run').1 ∧
      ((press.notingSaves message).turn face run).2.SameStores
        ((press.withPool pool').turn face' run').2 := by
  have hskip := CardFace.eq_of_unnumbered hface (fun f => f.isTemplate || f.skipsGeneration)
    fun _ => rfl
  rw [turn, turn, hskip]
  split
  · exact ⟨rfl, hrun⟩
  · rcases TemplatePool.compose_alike h hface with
      ⟨fault, hx, hy⟩ | ⟨composition, composition', hx, hy, hcomposition⟩
    · have hx : (press.notingSaves message).pool.compose face = .error fault := hx
      have hy : (press.withPool pool').pool.compose face' = .error fault := hy
      rw [outcome_of_error hx, outcome_of_error hy]
      exact ⟨rfl, hrun⟩
    · have hx : (press.notingSaves message).pool.compose face = .ok composition := hx
      have hy : (press.withPool pool').pool.compose face' = .ok composition' := hy
      have hsizes := Composition.size_eq_of_unnumbered hcomposition
      cases hsize : composition.size with
      | none =>
        rw [outcome_of_unsized hx hsize, outcome_of_unsized hy (hsizes.symm.trans hsize)]
        exact ⟨rfl, hrun⟩
      | some size =>
        obtain ⟨hgives, hleaves⟩ := generate_alike hc h hpool hpool' hmem hmem' hface message hrun
        rw [outcome_of_sized hx hsize, outcome_of_sized hy (hsizes.symm.trans hsize), hgives]
        exact ⟨rfl, hleaves⟩

end Alike

/-! ## Faces in turn -/

section Turns

variable (press : Press)

/-- Reporting on a face leaves what drawing it leaves. -/
theorem reportFace_sameStores (definition : CardDefinition) (face : CardFace) (index : Nat)
    (run : Run) :
    (press.reportFace definition face index run).2.SameStores (press.turn face run).2 := by
  rw [reportFace_eq]
  dsimp only
  split
  · exact ⟨rfl, rfl⟩
  · exact ⟨rfl, rfl⟩

variable {press} {start : Run} {items : List ((CardDefinition × CardFace) × Nat)}
  (h : ∀ item ∈ items, ∀ run : Run, run.SameStores start →
    (press.turn item.1.2 run).2.SameStores start)

include h

/-- Faces that leave nothing behind do so in turn. -/
theorem runAfter_sameStores {run : Run} (hrun : run.SameStores start) :
    (press.runAfter items run).SameStores start := by
  induction items generalizing run with
  | nil => exact hrun
  | cons item rest ih =>
    rw [List.forall_mem_cons] at h
    rw [runAfter_cons]
    exact ih h.2 ((reportFace_sameStores press _ _ _ _).trans (h.1 run hrun))

/-- Then it is enough to know what becomes of a face in runs that offer what the first one does. -/
theorem reportFaces_congr {press' : Press} (hturn : ∀ item ∈ items, ∀ run : Run,
      run.SameStores start → press'.turn item.1.2 run = press.turn item.1.2 run)
    {run : Run} (hrun : run.SameStores start) :
    press'.reportFaces items run = press.reportFaces items run := by
  induction items generalizing run with
  | nil => rfl
  | cons item rest ih =>
    rw [List.forall_mem_cons] at h hturn
    have hreport : press'.reportFace item.1.1 item.1.2 item.2 run =
        press.reportFace item.1.1 item.1.2 item.2 run := by
      rw [reportFace_eq, reportFace_eq, hturn.1 run hrun]
    have hleft := (reportFace_sameStores press item.1.1 item.1.2 item.2 run).trans (h.1 run hrun)
    rw [reportFaces, reportFaces, hreport]
    dsimp only
    rw [ih h.2 hturn.2 hleft]

end Turns

end Press

end CardPress
