import CardPress.Proofs.Deck.Registration
import CardPress.Report

/-!
# The entries of a report

A deck that has a pool gets a report with one entry for each definition, in order, whatever becomes
of the faces. The entry of a face tells what became of it in the run that the faces before it left
behind.

## Main definitions

* `Press.runAfter` — the run that some faces leave behind.
* `Deck.items`, `Deck.opening`, `Deck.closing` — what is drawn, the run that the first face is drawn
  in, and what is made of the entries.

## Main results

* `Press.getElem?_reportFaces` — the entry at a place.
* `Deck.generateAll_of_pool` — a deck that has a pool gets the report on its faces.
* `Deck.generateAll_error_iff` — the others give the fault of `validate`.
-/

namespace CardPress

namespace Press

variable (press : Press)

/-- The run that reporting on faces in turn leaves behind. -/
def runAfter (items : List ((CardDefinition × CardFace) × Nat)) (run : Run) : Run :=
  (press.reportFaces items run).2

@[simp] theorem runAfter_nil (run : Run) : press.runAfter [] run = run := rfl

theorem runAfter_cons (item : (CardDefinition × CardFace) × Nat)
    (rest : List ((CardDefinition × CardFace) × Nat)) (run : Run) :
    press.runAfter (item :: rest) run =
      press.runAfter rest (press.reportFace item.1.1 item.1.2 item.2 run).2 := rfl

theorem reportFaces_cons (item : (CardDefinition × CardFace) × Nat)
    (rest : List ((CardDefinition × CardFace) × Nat)) (run : Run) :
    (press.reportFaces (item :: rest) run).1 =
      (press.reportFace item.1.1 item.1.2 item.2 run).1 ::
        (press.reportFaces rest (press.reportFace item.1.1 item.1.2 item.2 run).2).1 := rfl

theorem runAfter_append (before behind : List ((CardDefinition × CardFace) × Nat)) (run : Run) :
    press.runAfter (before ++ behind) run = press.runAfter behind (press.runAfter before run) := by
  induction before generalizing run with
  | nil => rfl
  | cons item rest ih => rw [List.cons_append, runAfter_cons, ih, runAfter_cons]

theorem runAfter_take_succ {items : List ((CardDefinition × CardFace) × Nat)} {i : Nat}
    {item : (CardDefinition × CardFace) × Nat} (h : items[i]? = some item) (run : Run) :
    press.runAfter (items.take (i + 1)) run =
      (press.reportFace item.1.1 item.1.2 item.2 (press.runAfter (items.take i) run)).2 := by
  rw [List.take_add_one, h, runAfter_append]
  rfl

@[simp] theorem length_reportFaces (items : List ((CardDefinition × CardFace) × Nat)) (run : Run) :
    (press.reportFaces items run).1.length = items.length := by
  induction items generalizing run with
  | nil => rfl
  | cons item rest ih => rw [reportFaces_cons, List.length_cons, List.length_cons, ih]

/-- A face is reported on in the run that those before it leave behind. -/
theorem getElem?_reportFaces (items : List ((CardDefinition × CardFace) × Nat)) (run : Run)
    (i : Nat) :
    (press.reportFaces items run).1[i]? = items[i]?.map fun item =>
      (press.reportFace item.1.1 item.1.2 item.2 (press.runAfter (items.take i) run)).1 := by
  induction items generalizing run i with
  | nil => simp [reportFaces]
  | cons item rest ih =>
    rw [reportFaces_cons]
    cases i with
    | zero => simp
    | succ i => simp [ih, runAfter_cons]

/-- What becomes of a face when its turn comes. -/
def turn (face : CardFace) (run : Run) : FaceOutcome × Run :=
  if face.isTemplate || face.skipsGeneration then (.skipped, run) else press.outcome face run

theorem reportFace_eq (definition : CardDefinition) (face : CardFace) (index : Nat) (run : Run) :
    press.reportFace definition face index run =
      (⟨index, face.label, definition.hash, (press.turn face run).1⟩,
        match (press.turn face run).1 with
        | .failed error => (press.turn face run).2.record ⟨.error, "Card face failed", [
            ("index", toString index), ("label", face.displayLabel), ("error", error)]⟩
        | _ => (press.turn face run).2) := rfl

theorem reportFace_fst (definition : CardDefinition) (face : CardFace) (index : Nat) (run : Run) :
    (press.reportFace definition face index run).1 =
      ⟨index, face.label, definition.hash, (press.turn face run).1⟩ := by
  rw [reportFace_eq]

end Press

namespace Deck

variable {d : Deck} {pool : TemplatePool}

/-- Definitions with their faces and places. -/
def items (d : Deck) : List ((CardDefinition × CardFace) × Nat) :=
  (d.definitions.zip d.faces).zipIdx

/-- The run that the first face of a deck is drawn in. -/
def opening (d : Deck) (run : Run) : Run :=
  run.record ⟨.info, "Starting generation run", [("faces", toString d.faces.length)]⟩

theorem getElem?_items (d : Deck) (i : Nat) :
    d.items[i]? = d.definitions[i]?.map fun definition => ((definition, definition.face i), i) := by
  rw [items, List.getElem?_zipIdx, List.zip, List.getElem?_zipWith, getElem?_faces]
  cases d.definitions[i]? with
  | none => rfl
  | some definition => simp

theorem face_mem_of_items {item : (CardDefinition × CardFace) × Nat} (h : item ∈ d.items) :
    item.1.2 ∈ d.faces :=
  (List.of_mem_zip (List.fst_mem_of_mem_zipIdx h)).2

@[simp] theorem length_items (d : Deck) : d.items.length = d.definitions.length := by
  simp [items]

/-- The report on a deck and the run it leaves behind, once its faces are reported on. -/
def closing (d : Deck) (drawn : List FaceReport × Run) : Report × Run :=
  let report : Report := ⟨CardDefinition.hashAll d.definitions, drawn.1⟩
  (report, drawn.2.record ⟨.info, "Generation run finished", [
    ("failures", toString report.failures.length)]⟩)

theorem generateAll_eq_closing (h : d.pool = .ok pool) (capabilities : Capabilities)
    (config : Config) (run : Run) :
    d.generateAll capabilities config run =
      (d.closing ((Press.mk capabilities pool config).reportFaces d.items (d.opening run))).map
        .ok id := by
  rw [generateAll, h]
  rfl

/-- A deck that has a pool gets a report. -/
theorem generateAll_of_pool (h : d.pool = .ok pool) (capabilities : Capabilities)
    (config : Config) (run : Run) :
    (d.generateAll capabilities config run).1 =
      .ok ⟨CardDefinition.hashAll d.definitions,
        ((Press.mk capabilities pool config).reportFaces d.items (d.opening run)).1⟩ := by
  rw [generateAll_eq_closing h]
  rfl

/-- The run that a deck leaves behind. -/
theorem generateAll_snd_of_pool (h : d.pool = .ok pool) (capabilities : Capabilities)
    (config : Config) (run : Run) :
    ∃ entry, (d.generateAll capabilities config run).2 =
      ((Press.mk capabilities pool config).runAfter d.items (d.opening run)).record entry := by
  rw [generateAll_eq_closing h]
  exact ⟨_, rfl⟩

/-- There is no report exactly if there is no pool, for the reason that `validate` gives. -/
theorem generateAll_error_iff (d : Deck) (capabilities : Capabilities) (config : Config)
    (run : Run) (fault : Fault) :
    (d.generateAll capabilities config run).1 = .error fault ↔ d.validate = .error fault := by
  rw [generateAll, validate]
  cases d.pool with
  | error other =>
    show Except.error other = _ ↔ Except.error other = _
    simp
  | ok pool => constructor <;> intro h <;> cases h

/-- The entry of a report at a place. -/
theorem getElem?_reportFaces_items (press : Press) (d : Deck) (run : Run) (i : Nat) :
    (press.reportFaces d.items run).1[i]? = d.definitions[i]?.map fun definition =>
      ⟨i, definition.label, definition.hash,
        (press.turn (definition.face i) (press.runAfter (d.items.take i) run)).1⟩ := by
  rw [Press.getElem?_reportFaces, getElem?_items, Option.map_map]
  refine congrArg (Option.map · _) (funext fun definition => ?_)
  exact Press.reportFace_fst press _ _ _ _

end Deck

end CardPress
