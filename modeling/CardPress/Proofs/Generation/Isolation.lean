import CardPress.Proofs.Generation.Agreement

/-!
# What a face sees of the one it is drawn for

A face that is drawn on behalf of another gets a draft of its own. Of the faces around it, it sees
which they are, since none of them is drawn again, and of the innermost one what it declares. What
they stored or drew so far it does not see, nor how deep they were in resolving values.

## Main result

* `Press.drawWithin_isolated` — whatever the draft of the face around, what is drawn, or the fault,
  is the same, and so is the run afterwards.
-/

namespace CardPress

open Generation

namespace Press

variable {press : Press} {parents parents' : Lineage}

/-- For lineages of faces with the same marks whose innermost ones declare the same, one thing is
drawn. -/
theorem drawFace_eq_of_marks (hc : Capabilities.standard = .ok press.capabilities)
    (hmarks : parents.map Scope.mark = parents'.map Scope.mark)
    (hparent : parents.head?.map Scope.snapshot = parents'.head?.map Scope.snapshot)
    (face : CardFace) : press.drawFace parents face = press.drawFace parents' face := by
  have hpress : press.Agree Eq press := agree_of_storing hc eq_storing fun _ _ h => by rw [h]
  exact agree_eq_iff.1 (agree_drawFace eq_steady hpress hmarks hparent face)

theorem drawFace_congr (hc : Capabilities.standard = .ok press.capabilities)
    (hfaces : parents.map (·.face) = parents'.map (·.face))
    (hparent : parents.head?.map Scope.snapshot = parents'.head?.map Scope.snapshot)
    (face : CardFace) : press.drawFace parents face = press.drawFace parents' face :=
  drawFace_eq_of_marks hc (Lineage.marks_congr hfaces) hparent face

/-- Two faces for which a third is drawn may differ in all that they stored, in their working
canvases, in how deep they were in resolving values and in how they came about, and so may the faces
around them: as long as the faces around are the same, and the innermost one declares the same, one
image, or none, or one fault comes of it, and the run goes on in the same way. -/
theorem drawWithin_isolated (press : Press) (hc : Capabilities.standard = .ok press.capabilities)
    {parents parents' : Lineage} (hfaces : parents.map (·.face) = parents'.map (·.face))
    (hparent : parents.head?.map Scope.snapshot = parents'.head?.map Scope.snapshot)
    (face : CardFace) (run : Run) (draft draft' : Draft) (outer outer' : List Draft) :
    outcome (press.drawWithin parents face) ⟨run, draft, outer⟩ =
        outcome (press.drawWithin parents' face) ⟨run, draft', outer'⟩ ∧
      (stateAfter (press.drawWithin parents face) ⟨run, draft, outer⟩).run =
        (stateAfter (press.drawWithin parents' face) ⟨run, draft', outer'⟩).run := by
  have hagree : Generation.Agree SameRun (press.drawWithin parents face)
      (press.drawWithin parents' face) := by
    rw [drawWithin, drawWithin, Lineage.isDrawing_congr hfaces, Lineage.labels_congr hfaces,
      drawFace_congr hc hfaces hparent]
    split
    · exact Agree.throw _
    · exact agree_drawFace_of_inNewDraft agree_inNewDraft_run press parents' face
  have hrun : SameRun ⟨run, draft, outer⟩ ⟨run, draft', outer'⟩ := rfl
  exact hagree.outcome_eq hrun

/-- A face that stores for all what is stored as the secret, if it sees that. -/
def prying : CardFace :=
  { CardFace.empty 0 with
    size := some ⟨1, 1⟩
    steps := [.mapping <| Dict.ofList [
      (typeKey, .string "write_to_cache"), ("key", .string "seen"), ("is_global", .bool true),
      ("is_lazy", .bool false), ("value", .mapping <| Dict.ofList [
        (Value.deferredKey, .string "cached"), ("key", .string "secret"),
        ("default", .string "absent")])]] }

/-- A face with some steps, for which another is drawn. -/
def around (steps : List Value) : Lineage :=
  [⟨CardFace.empty 1, ⟨[], steps, some ⟨4, 4⟩⟩⟩]

theorem drawWithin_isolated_secret :
    let press := ofPool .empty
    let run := Run.start .empty ∅
    let keeping : Draft := ⟨Dict.ofList [("secret", .string "visible")], none, 0⟩
    let drawing : Draft := ⟨∅, some ⟨0, .blank 4 4⟩, 2⟩
    Capabilities.standard = .ok press.capabilities ∧
      (around []).map (·.face) = (around [.null]).map (·.face) ∧
      (around []).head?.map Scope.snapshot = (around [.null]).head?.map Scope.snapshot ∧
      outcome (press.drawWithin (around []) prying) ⟨run, keeping, []⟩ =
        outcome (press.drawWithin (around [.null]) prying) ⟨run, drawing, [keeping]⟩ ∧
      (stateAfter (press.drawWithin (around []) prying) ⟨run, keeping, []⟩).run =
        (stateAfter (press.drawWithin (around [.null]) prying) ⟨run, drawing, [keeping]⟩).run ∧
      ((stateAfter (press.drawWithin (around []) prying) ⟨run, keeping, []⟩).run.globalCache.get?
        "seen").bind Value.string? = some "absent" := by
  intro press run keeping drawing
  have hfaces : (around []).map (·.face) = (around [.null]).map (·.face) := rfl
  have hparent : (around []).head?.map Scope.snapshot = (around [.null]).head?.map Scope.snapshot :=
    rfl
  obtain ⟨houtcome, hrun⟩ := drawWithin_isolated press Capabilities.standard_eq_table hfaces hparent
    prying run keeping drawing [] [keeping]
  exact ⟨Capabilities.standard_eq_table, hfaces, hparent, houtcome, hrun, by cbv⟩

end Press

end CardPress
