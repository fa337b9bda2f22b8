import CardPress.Proofs.Deck.Entries
import CardPress.Proofs.Generation.Frame
import CardPress.Proofs.Step.CanvasSize

/-!
# What validating a deck foretells

`validate` composes every face and draws none; drawing the deck composes every face anew. Both go by
the same compositions, so what the one says of a face can be told from the other.

## Main definitions

* `Press.Foretold` — how an outcome follows from the summary of a face.

## Main results

* `Press.foretold_turn` — the outcome of a face follows from its summary.
* `Deck.generateAll_foretold` — so does every entry of a report; and there is a report exactly if
  there are summaries.
-/

namespace CardPress

/-- There is nothing to put in order where there are no steps. -/
theorem Generation.orderSteps_of_stepless {scene : Scene} (h : scene.scope.composition.steps = []) :
    orderSteps scene = pure [] := by
  have horder : Priority.order [] = [] := by simp [Priority.order]
  rw [orderSteps, h]
  show (pure ((Priority.order []).filterMap _) : Generation (List PlacedStep)) = _
  rw [horder]
  rfl

namespace Press

/-- What a summary tells of the outcome of a face, drawn in some run. -/
structure Foretold (press : Press) (face : CardFace) (run : Run) (summary : FaceSummary)
    (outcome : FaceOutcome) : Prop where
  skipped_iff : outcome = .skipped ↔ face.isTemplate = true ∨ face.skipsGeneration = true
  /-- A face that cannot be composed fails with the text of the summary. Its steps have no part in
  that, whatever they would do, and the run stays as it is. -/
  failed : ∀ error, outcome ≠ .skipped → summary.error = some error →
    outcome = .failed error ∧ ∀ capabilities run,
      Press.outcome { press with capabilities := capabilities } face run = (.failed error, run)
  unrenderable : outcome ≠ .skipped → summary.error = none → summary.size = none →
    outcome = .unrenderable
  /-- A face that can be composed and has a size is drawn in this size, cancelled, or fails in one
  of its steps. -/
  drawn : ∀ size, outcome ≠ .skipped → summary.error = none → summary.size = some size →
    outcome = .rendered size.width size.height ∨ outcome = .cancelled ∨
      ∃ fault, fault.OfStep face summary.steps ∧ (press.generate face run).1 = .error fault ∧
        outcome = .failed fault.message

variable {press : Press} {face : CardFace} {run : Run}

theorem outcome_of_error {fault : Fault} (h : press.pool.compose face = .error fault) :
    press.outcome face run = (.failed fault.message, run) := by
  rw [outcome, h]

theorem outcome_of_unsized {composition : Composition}
    (h : press.pool.compose face = .ok composition) (hsize : composition.size = none) :
    press.outcome face run = (.unrenderable, run) := by
  simp [outcome, h, hsize]

theorem outcome_of_sized {composition : Composition}
    (h : press.pool.compose face = .ok composition) {size : Size}
    (hsize : composition.size = some size) :
    press.outcome face run =
      (match (press.generate face run).1 with
        | .ok (some image) => .rendered image.canvas.width image.canvas.height
        | .ok none => .cancelled
        | .error fault => .failed fault.message, (press.generate face run).2) := by
  simp only [outcome, h, hsize, Option.isNone_some, Bool.false_eq_true, if_false]
  obtain ⟨result, after⟩ := press.generate face run
  rcases result with fault | image?
  · rfl
  · cases image? <;> rfl

/-- A face without steps stays blank. -/
theorem outcome_of_stepless {templates : List CardFace} {width height : ℕ}
    (h : press.pool.compose face = .ok ⟨templates, [], some ⟨width, height⟩⟩) (run : Run) :
    (press.outcome face run).1 = .rendered width height := by
  let scene := press.sceneIn ⟨face, ⟨templates, [], some ⟨width, height⟩⟩⟩ []
  have horder : Generation.orderSteps scene = pure [] := Generation.orderSteps_of_stepless rfl
  rw [outcome_of_sized h rfl, generate, drawFace_of_compose h rfl, Generation.drawSteps, horder]
  rfl

/-- No face that is drawn is skipped. -/
theorem outcome_ne_skipped : (press.outcome face run).1 ≠ .skipped := by
  cases h : press.pool.compose face with
  | error fault => simp [outcome_of_error h]
  | ok composition =>
    cases hsize : composition.size with
    | none => simp [outcome_of_unsized h hsize]
    | some size =>
      rw [outcome_of_sized h hsize]
      split <;> simp

/-- What becomes of a face with a size. -/
theorem outcome_cases (hc : Capabilities.standard = .ok press.capabilities)
    {composition : Composition} (h : press.pool.compose face = .ok composition) {size : Size}
    (hsize : composition.size = some size) (run : Run) :
    (press.outcome face run).1 = .rendered size.width size.height ∨
      (press.outcome face run).1 = .cancelled ∨
      ∃ fault, fault.OfStep face composition.steps.length ∧
        (press.generate face run).1 = .error fault ∧
        (press.outcome face run).1 = .failed fault.message := by
  obtain ⟨hgives, hfails⟩ := (ends_drawFace hc h []).perform run
  rw [outcome_of_sized h hsize]
  cases hr : (press.generate face run).1 with
  | error fault => exact .inr (.inr ⟨fault, hfails fault hr, rfl, rfl⟩)
  | ok image? =>
    match image? with
    | none => exact .inr (.inl rfl)
    | some image =>
      have himage : some size = some image.canvas.size := hsize ▸ hgives _ hr image rfl
      cases himage
      exact .inl rfl

/-- The outcome of a face follows from its summary. -/
theorem foretold_turn (hc : Capabilities.standard = .ok press.capabilities) (face : CardFace)
    (index : Nat) (run : Run) :
    press.Foretold face run (Deck.summary press.pool index face) (press.turn face run).1 := by
  rw [turn]
  split
  · next hskip =>
    rw [Bool.or_eq_true] at hskip
    exact ⟨by simp [hskip], by simp, by simp, by simp⟩
  · next hskip =>
    rw [Bool.or_eq_true] at hskip
    have hne : (press.outcome face run).1 ≠ .skipped := outcome_ne_skipped
    cases h : press.pool.compose face with
    | error fault =>
      have hsummary : (Deck.summary press.pool index face).error = some fault.message := by
        simp [Deck.summary, h]
      refine ⟨by simp [hskip, hne], fun error _ herror => ?_, ?_, ?_⟩
      · cases hsummary.symm.trans herror
        exact ⟨by rw [outcome_of_error h], fun capabilities run => outcome_of_error h⟩
      · simp [hsummary]
      · simp [hsummary]
    | ok composition =>
      have hsummary : (Deck.summary press.pool index face).error = none ∧
          (Deck.summary press.pool index face).size = composition.size ∧
          (Deck.summary press.pool index face).steps = composition.steps.length := by
        simp [Deck.summary, h]
      obtain ⟨herror, hsize, hsteps⟩ := hsummary
      refine ⟨by simp [hskip, hne], by simp [herror], fun _ _ hnone => ?_, fun size _ _ hsome => ?_⟩
      · rw [outcome_of_unsized h (hsize.symm.trans hnone)]
      · rw [hsteps]
        exact outcome_cases hc h (hsize.symm.trans hsome) run

end Press

namespace Deck

variable {d : Deck} {pool : TemplatePool}

theorem validate_of_pool (h : d.pool = .ok pool) :
    d.validate = .ok (d.faces.zipIdx.map fun (face, i) => summary pool i face) := by
  rw [validate, h]
  rfl

/-- The summary at a place. -/
theorem getElem?_validate (h : d.pool = .ok pool) {summaries : List FaceSummary}
    (hv : d.validate = .ok summaries) (i : Nat) :
    summaries[i]? = d.definitions[i]?.map fun definition =>
      summary pool i (definition.face i) := by
  rw [validate_of_pool h] at hv
  cases hv
  simp [List.getElem?_zipIdx, getElem?_faces, Function.comp_def]

theorem length_validate {summaries : List FaceSummary} (hv : d.validate = .ok summaries) :
    summaries.length = d.definitions.length := by
  obtain ⟨pool, -, hsummaries⟩ := bind_eq_ok_iff.1 hv
  cases hsummaries
  simp

/-- A deck gets a report exactly if it can be validated, that is, if its labels differ. The report
has an entry for each definition, in order, and what became of the face follows from its summary. -/
theorem generateAll_foretold (d : Deck) {capabilities : Capabilities}
    (hc : Capabilities.standard = .ok capabilities) (config : Config) (run : Run) :
    (∀ fault, (d.generateAll capabilities config run).1 = .error fault ↔
      d.validate = .error fault) ∧
    ((∃ report, (d.generateAll capabilities config run).1 = .ok report) ↔ d.labels.Nodup) ∧
    (∀ fault, d.validate = .error fault →
      ∃ label, fault = .duplicateLabel label ∧ 1 < d.labels.count label) ∧
    ∀ report summaries, (d.generateAll capabilities config run).1 = .ok report →
      d.validate = .ok summaries →
      report.faces.length = d.definitions.length ∧ summaries.length = d.definitions.length ∧
      ∃ pool, d.pool = .ok pool ∧ ∀ i definition, d.definitions[i]? = some definition →
        ∃ entry summary, report.faces[i]? = some entry ∧ summaries[i]? = some summary ∧
          entry.index = i ∧ entry.label = definition.label ∧
          entry.definitionHash = definition.hash ∧ summary.index = i ∧
          let press : Press := ⟨capabilities, pool, config⟩
          press.Foretold (definition.face i)
            (press.runAfter (d.items.take i) (d.opening run)) summary entry.outcome := by
  refine ⟨generateAll_error_iff d capabilities config run, ?_, ?_, ?_⟩
  · rw [← exists_pool_iff]
    constructor
    · rintro ⟨report, hreport⟩
      cases hpool : d.pool with
      | ok pool => exact ⟨pool, rfl⟩
      | error fault =>
        rw [generateAll, hpool] at hreport
        cases hreport
    · rintro ⟨pool, hpool⟩
      exact ⟨_, generateAll_of_pool hpool capabilities config run⟩
  · intro fault hfault
    refine duplicate_of_pool (d := d) ?_
    cases hpool : d.pool with
    | ok pool =>
      rw [validate_of_pool hpool] at hfault
      cases hfault
    | error other =>
      rw [validate, hpool] at hfault
      cases hfault
      rfl
  · intro report summaries hreport hsummaries
    obtain ⟨pool, hpool, -⟩ := bind_eq_ok_iff.1 hsummaries
    rw [generateAll_of_pool hpool] at hreport
    cases hreport
    refine ⟨by simp, length_validate hsummaries, pool, hpool, fun i definition hi => ?_⟩
    have hentry := getElem?_reportFaces_items ⟨capabilities, pool, config⟩ d (d.opening run) i
    have hsummary := getElem?_validate hpool hsummaries i
    rw [hi, Option.map_some] at hentry hsummary
    refine ⟨_, _, hentry, hsummary, rfl, rfl, rfl, ?_, ?_⟩
    · rw [summary]
      split <;> rfl
    · exact Press.foretold_turn hc _ i _

/-! ## A deck whose outcomes are foretold -/

/-- A face that inherits from nowhere. -/
def stray : CardDefinition :=
  { CardDefinition.empty with templates := ["nowhere"] }

/-- A face that inherits its size. -/
def heir : CardDefinition :=
  { CardDefinition.empty with label := some "heir", template := some "base" }

/-- A template with a size, the face that inherits it, and the stray one. -/
def mixed : Deck where
  definitions := [
    { CardDefinition.empty with label := some "base", size := some ⟨2, 1⟩, isTemplate := true },
    heir, stray]

/-- The template is skipped, the heir drawn in the inherited size, and the stray face fails. -/
theorem generateAll_foretold_mixed :
    Capabilities.standard = .ok Capabilities.table ∧ ∃ report summaries,
      (mixed.generateAll Capabilities.table .standard (.start .empty ∅)).1 = .ok report ∧
      mixed.validate = .ok summaries ∧ report.faces.length = 3 ∧
      (∃ entry, report.faces[0]? = some entry ∧ entry.outcome = .skipped) ∧
      (∃ entry, report.faces[1]? = some entry ∧ entry.outcome = .rendered 2 1) ∧
      ∃ entry, report.faces[2]? = some entry ∧
        entry.outcome = .failed (Fault.unknownTemplate "nowhere").message := by
  obtain ⟨-, hreport, -, hentries⟩ := generateAll_foretold mixed Capabilities.standard_eq_table
    .standard (.start .empty ∅)
  obtain ⟨report, hreport⟩ := hreport.2 (by decide)
  obtain ⟨pool, hpool⟩ := (exists_pool_iff mixed).2 (by decide)
  have hsummaries := validate_of_pool hpool
  obtain ⟨hlength, -, pool', hpool', hentries⟩ := hentries report _ hreport hsummaries
  cases hpool.symm.trans hpool'
  refine ⟨Capabilities.standard_eq_table, report, _, hreport, hsummaries, hlength, ?_, ?_, ?_⟩
  · obtain ⟨entry, summary, hentry, -, -, -, -, -, hforetold⟩ := hentries 0 _ rfl
    exact ⟨entry, hentry, hforetold.skipped_iff.2 (.inl rfl)⟩
  · obtain ⟨templates, hcompose⟩ : ∃ templates,
        pool.compose (heir.face 1) = .ok ⟨templates, [], some ⟨2, 1⟩⟩ := by
      cases hpool
      exact ⟨_, by cbv⟩
    have hdrawn (run : Run) :
        ((Press.mk Capabilities.table pool .standard).outcome (heir.face 1) run).1 =
          .rendered 2 1 :=
      Press.outcome_of_stepless hcompose run
    rw [generateAll_of_pool hpool] at hreport
    cases hreport
    exact ⟨_, getElem?_reportFaces_items _ mixed _ 1, hdrawn _⟩
  · obtain ⟨entry, summary, hentry, hsummary, -, -, -, -, hforetold⟩ := hentries 2 stray rfl
    have hcompose : pool.compose (stray.face 2) = .error (.unknownTemplate "nowhere") := by
      cases hpool
      cbv
    rw [getElem?_validate hpool hsummaries] at hsummary
    cases hsummary
    have hne : entry.outcome ≠ .skipped := by
      rw [ne_eq, hforetold.skipped_iff]
      decide
    exact ⟨entry, hentry, (hforetold.failed _ hne (by simp [summary, hcompose])).1⟩

end Deck

end CardPress
