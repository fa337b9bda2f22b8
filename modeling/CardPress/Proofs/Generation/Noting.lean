import CardPress.Proofs.Generation.Agreement
import CardPress.Proofs.Step.CacheWriting

/-!
# Steps that leave a note

Logs only grow, so something that logs a message each time it is done can be seen to have been done,
or not. Let the step that saves leave such a note. As long as the note is missing, nothing was
saved, so the files are what they were; and apart from the log the note makes no difference.

## Main definitions

* `Run.Notes` — a message is in the log.
* `Run.Lasting` — what stays so, whatever is logged, stamped or bound to keys.
* `StepHandler.noting` — a step that leaves a note.
* `SameButLog` — states that only differ in what was logged.

## Main results

* `Press.drawFace_lasting` — what the notes and the step that leaves them keep is kept by drawing.
* `Press.agree_drawFace_noting` — but for the log, drawing is the same with notes.
-/

namespace CardPress

open Generation

namespace Run

/-- A message is in the log. -/
def Notes (message : String) (run : Run) : Prop :=
  ∃ entry ∈ run.log, entry.message = message

/-- Some message is not. -/
theorem exists_not_notes (run : Run) : ∃ message, ¬run.Notes message := by
  obtain ⟨message, hfresh⟩ :=
    Infinite.exists_notMem_finset (run.log.toList.map (·.message)).toFinset
  refine ⟨message, fun ⟨entry, hentry, hmessage⟩ => hfresh ?_⟩
  rw [List.mem_toFinset, List.mem_map]
  exact ⟨entry, Array.mem_toList_iff.2 hentry, hmessage⟩

/-- What is known of a run and stays so, whatever is logged, stamped or bound to keys for all
faces. -/
structure Lasting (P : Run → Prop) : Prop where
  record : ∀ {run : Run} (entry : LogEntry), P run → P (run.record entry)
  withStamp : ∀ {run : Run} (n : Nat), P run → P { run with nextStamp := n }
  withGlobal : ∀ {run : Run} (key : String) (v : Value), P run →
    P { run with globalCache := run.globalCache.insert key v }

theorem notes_record {message : String} {run : Run} (entry : LogEntry) :
    (run.record entry).Notes message ↔ entry.message = message ∨ run.Notes message := by
  simp only [Notes, record, Array.mem_push]
  grind

theorem lasting_notes (message : String) : Lasting (Notes message) where
  record entry h := (notes_record entry).2 (.inr h)
  withStamp _ h := h
  withGlobal _ _ h := h

theorem lasting_files (files : FileStore) : Lasting fun run => run.files = files where
  record _ h := h
  withStamp _ h := h
  withGlobal _ _ h := h

theorem lasting_contains (key : String) : Lasting fun run => run.globalCache.contains key where
  record _ h := h
  withStamp _ h := h
  withGlobal k v h := Dict.contains_insert_of_contains h k v

namespace Lasting

variable {P Q : Run → Prop}

theorem or (hP : Lasting P) (hQ : Lasting Q) : Lasting fun run => P run ∨ Q run where
  record entry h := h.imp (hP.record entry) (hQ.record entry)
  withStamp n h := h.imp (hP.withStamp n) (hQ.withStamp n)
  withGlobal key v h := h.imp (hP.withGlobal key v) (hQ.withGlobal key v)

variable (hP : Lasting P)

include hP

theorem quiet : Quiet (Same fun s => P s.run) where
  cache := fun hst => by rw [hst.1]
  working := fun hst => by rw [hst.1]
  files := fun hst => by rw [hst.1]
  nextStamp := fun hst => by rw [hst.1]
  record := fun entry ⟨hst, hp⟩ => ⟨by rw [hst], hP.record entry hp⟩
  withStamp := fun n ⟨hst, hp⟩ => ⟨by rw [hst], hP.withStamp n hp⟩

theorem binding : Binding (Same fun s => P s.run) where
  toQuiet := hP.quiet
  globalCache := fun hst => by rw [hst.1]
  withCached := fun _ _ ⟨hst, hp⟩ => ⟨by rw [hst], hp⟩

theorem keepsGlobal : KeepsGlobal (Same fun s => P s.run) :=
  fun key v ⟨hst, hp⟩ => ⟨by rw [hst], hP.withGlobal key v hp⟩

theorem drafting : Drafting (Same fun s => P s.run) where
  toQuiet := hP.quiet
  withWorking := fun _ ⟨hst, hp⟩ => ⟨by rw [hst], hp⟩
  newDraft := fun ⟨hst, hp⟩ => ⟨by rw [hst], hp⟩
  oldDraft := fun ⟨hst, _⟩ ⟨hst', hp'⟩ => ⟨by rw [hst, hst'], hp'⟩

end Lasting

end Run

/-! ## Leaving notes -/

namespace Generation

variable {α : Type}

/-- Do something and then log a message, whatever came of it. -/
def noting (message : String) (x : Generation α) : Generation α := fun s =>
  match x s with
  | .ok a t => .ok a { t with run := t.run.record ⟨.info, message, []⟩ }
  | .error fault t => .error fault { t with run := t.run.record ⟨.info, message, []⟩ }

theorem notes_noting (message : String) (x : Generation α) (s : State) :
    (stateAfter (noting message x) s).run.Notes message := by
  rw [stateAfter, noting]
  cases x s with
  | ok a t => exact (Run.notes_record _).2 (.inl rfl)
  | error fault t => exact (Run.notes_record _).2 (.inl rfl)

/-- States that are the same but for the log. -/
def SameButLog (s t : State) : Prop :=
  ∃ log, s = { t with run.log := log }

theorem sameButLog_steady : Steady SameButLog where
  cache := fun ⟨_, h⟩ => by rw [h]
  working := fun ⟨_, h⟩ => by rw [h]
  files := fun ⟨_, h⟩ => by rw [h]
  nextStamp := fun ⟨_, h⟩ => by rw [h]
  record := fun entry ⟨log, h⟩ => ⟨log.push entry, by rw [h]; rfl⟩
  withStamp := fun _ ⟨log, h⟩ => ⟨log, by rw [h]⟩
  withFiles := fun _ ⟨log, h⟩ => ⟨log, by rw [h]⟩
  withWorking := fun _ ⟨log, h⟩ => ⟨log, by rw [h]⟩
  newDraft := fun ⟨log, h⟩ => ⟨log, by rw [h]; rfl⟩
  oldDraft := fun ⟨_, h⟩ ⟨log', h'⟩ => ⟨log', by rw [h, h']⟩

theorem sameButLog_storing : Storing SameButLog where
  toCalm := sameButLog_steady.toCalm
  globalCache := fun ⟨_, h⟩ => by rw [h]
  withCached := fun _ _ ⟨log, h⟩ => ⟨log, by rw [h]⟩

theorem sameButLog_keepsGlobal : KeepsGlobal SameButLog :=
  fun _ _ ⟨log, h⟩ => ⟨log, by rw [h]⟩

/-- But for the log, a note makes no difference. -/
theorem agree_noting (message : String) {x y : Generation α} (h : Agree SameButLog x y) :
    Agree SameButLog (noting message x) y := by
  intro s t hst
  have hr := h s t hst
  rw [noting]
  generalize x s = r, y t = r' at hr ⊢
  cases hr with
  | ok h =>
    obtain ⟨log, rfl⟩ := h
    exact .ok ⟨_, rfl⟩
  | error h =>
    obtain ⟨log, rfl⟩ := h
    exact .error ⟨_, rfl⟩

end Generation

/-- The step that leaves a note whenever it is done. -/
def StepHandler.noting (message : String) (handler : StepHandler) : StepHandler :=
  fun scene params canvas => Generation.noting message (handler scene params canvas)

/-! ## Another step in its place -/

/-- Capabilities with another step of some kind. -/
def Capabilities.withStep (c : Capabilities) (kind : String) (handler : StepHandler) :
    Capabilities :=
  { c with steps := c.steps.replace kind handler }

namespace Capabilities

variable {c : Capabilities} (hc : standard = .ok c)

include hc

/-- With another step in place of the one that saves, all steps go alike if that one does, even
where writing files does not keep the relation. -/
theorem agree_steps_withStep {R : State → State → Prop} (hR : Binding R) (hg : KeepsGlobal R)
    {scene : Scene} (h : Scene.Agree R scene scene) {handler : StepHandler}
    (hhandler : StepHandler.AgreeIn R scene scene handler handler) :
    Registry.Agree (StepHandler.AgreeIn R scene scene) (c.withStep "save" handler).steps
      (c.withStep "save" handler).steps := by
  intro tag
  rw [withStep, Registry.get?_replace]
  split
  · exact .some hhandler
  · next hsave =>
    rw [(standard_get? hc).2]
    cases hl : Step.standard.steps.lookup tag with
    | none => exact .none
    | some x =>
      rcases Step.standard_agree_of_quiet hR.toQuiet _ (mem_of_lookup_eq_some hl) with
        hwrite | hsaves | hx
      · cases hwrite
        cases hl
        exact .some (Step.agree_writeToCache hR hg scene scene h)
      · cases hsaves
        exact absurd rfl hsave
      · exact .some (hx scene scene h)

/-- But for the log, notes of what is saved make no difference. -/
theorem agree_steps_noting (message : String) :
    Registry.Agree (StepHandler.Agree SameButLog)
      (c.withStep "save" (Step.save.noting message)).steps c.steps := by
  have hsteps := agree_steps hc sameButLog_steady.toCalm
    (Step.agree_writeToCache sameButLog_storing sameButLog_keepsGlobal)
  intro tag
  rw [withStep, Registry.get?_replace]
  split
  · next hsave =>
    have hget : c.steps.get? tag = some Step.save := by
      rw [hsave, (standard_get? hc).2]
      rfl
    rw [hget]
    refine .some fun scene scene' h params canvas => ?_
    exact agree_noting message
      (Step.agree_save sameButLog_steady.toCalm scene scene' h params canvas)
  · exact hsteps tag

end Capabilities

namespace Press

/-- The press with another step of some kind. -/
def withStep (press : Press) (kind : String) (handler : StepHandler) : Press :=
  { press with capabilities := press.capabilities.withStep kind handler }

/-- The press that leaves a note whenever something is saved. -/
def notingSaves (press : Press) (message : String) : Press :=
  press.withStep "save" (Step.save.noting message)

variable {press : Press} (hc : Capabilities.standard = .ok press.capabilities)

include hc

/-- What is known of a run and lasts is kept by drawing if the step in place of the one that saves
keeps it. -/
theorem drawFace_lasting {P : Run → Prop} (hP : Run.Lasting P) {handler : StepHandler}
    (hhandler : ∀ scene params canvas s, P (stateAfter (handler scene params canvas) s).run)
    (parents : Lineage) (face : CardFace) {s : State} (hs : P s.run) :
    P (stateAfter ((press.withStep "save" handler).drawFace parents face) s).run := by
  have hresolvers := Capabilities.agree_resolvers_of_quiet hc hP.quiet
  have hdraw : Generation.Agree (Same fun s => P s.run)
      ((press.withStep "save" handler).drawFace parents face)
      ((press.withStep "save" handler).drawFace parents face) := by
    refine agree_drawFace_self hP.drafting ?_ (fun scene hscene => ?_) parents face
    · exact hresolvers
    refine Capabilities.agree_steps_withStep hc hP.binding hP.keepsGlobal hscene ?_
    exact fun params canvas => agree_same_iff.2 fun s _ => hhandler scene params canvas s
  exact agree_same_iff.1 hdraw s hs

/-- But for the log, drawing is the same with notes of what is saved. -/
theorem agree_drawFace_noting (message : String) (parents : Lineage) (face : CardFace) :
    Generation.Agree SameButLog ((press.notingSaves message).drawFace parents face)
      (press.drawFace parents face) := by
  have hresolvers := Capabilities.agree_resolvers hc sameButLog_steady.toCalm
  have hpress : (press.notingSaves message).Agree SameButLog press := by
    refine ⟨rfl, rfl, ?_, Capabilities.agree_steps_noting hc message⟩
    exact hresolvers
  exact agree_drawFace sameButLog_steady hpress rfl rfl face

end Press

end CardPress
