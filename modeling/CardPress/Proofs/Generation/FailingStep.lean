import CardPress.Proofs.Generation.Frame
import CardPress.Proofs.Generation.Priority

/-!
# Which step fails

A face that can be composed to some size fails in two ways: while its steps are put in order, when
the priority of one of them cannot be resolved, and while they are run, when one of them fails after
those before it have been run or left out. Either way the fault names the face and the place at
which the step was declared, and drawing ends in the state in which that step has failed.

## Main definitions

* `Generation.placedSteps`, `Generation.blankImage` — what drawing a face begins with.
* `Generation.Processes` — steps that are run or left out in turn.
* `Generation.FailsOrdering`, `Generation.FailsRunning` — the two ways in which a step fails.

## Main results

* `Generation.runSteps_error_iff` — steps fail at one of them, with those before it processed.
* `Press.generate_error` — which step has failed when drawing a face has.
-/

namespace CardPress

open Generation

variable {α β : Type}

namespace Generation

variable {handlers : Registry StepHandler} {scene : Scene} {s t : State} {fault : Fault}

/-! ## Single computations that fail -/

/-- A traversal fails at one of the items, with those before it done. -/
theorem mapM_error_iff {f : α → Generation β} {xs : List α} :
    xs.mapM f s = .error fault t ↔
      ∃ i x ys u, xs[i]? = some x ∧ (xs.take i).mapM f s = .ok ys u ∧ f x u = .error fault t := by
  induction xs generalizing s with
  | nil =>
    simp only [List.mapM_nil, List.getElem?_nil, reduceCtorEq, false_and, exists_false, iff_false]
    intro h
    cases h
  | cons x rest ih =>
    rw [List.mapM_cons, bind_error_iff]
    constructor
    · rintro (hx | ⟨y, u, hy, h⟩)
      · exact ⟨0, x, [], s, rfl, rfl, hx⟩
      · rcases bind_error_iff.1 h with hrest | ⟨_, _, _, h⟩
        · obtain ⟨i, x', ys, v, hi, hys, hx'⟩ := ih.1 hrest
          refine ⟨i + 1, x', y :: ys, v, hi, ?_, hx'⟩
          rw [List.take_succ_cons, List.mapM_cons, bind_of_ok _ hy, bind_of_ok _ hys]
          rfl
        · cases h
    · rintro ⟨i, x', ys, v, hi, hys, hx'⟩
      cases i with
      | zero =>
        cases hi
        cases (pure_ok_iff.1 hys).2
        exact .inl hx'
      | succ i =>
        rw [List.take_succ_cons, List.mapM_cons] at hys
        obtain ⟨y, u, hy, hys⟩ := bind_ok_iff.1 hys
        obtain ⟨ys', _, hys', h⟩ := bind_ok_iff.1 hys
        cases (pure_ok_iff.1 h).2
        exact .inr ⟨y, u, hy, bind_error_iff.2 (.inl (ih.2 ⟨i, x', ys', v, hi, hys', hx'⟩))⟩

/-! ## Ordering steps -/

/-- The steps of a face as they are declared. -/
def placedSteps (scene : Scene) : List PlacedStep :=
  scene.scope.composition.steps.zipIdx.map fun (step, i) => ⟨i, step⟩

theorem getElem?_placedSteps (scene : Scene) (i : Nat) :
    (placedSteps scene)[i]? = scene.scope.composition.steps[i]?.map (PlacedStep.mk i) := by
  rw [placedSteps, List.getElem?_map, List.getElem?_zipIdx]
  cases scene.scope.composition.steps[i]? <;> simp

theorem length_placedSteps (scene : Scene) :
    (placedSteps scene).length = scene.scope.composition.steps.length := by
  simp [placedSteps]

/-- Steps in an order of all their places are those of the places, one after the other. -/
theorem filterMap_placedSteps {order : List Nat}
    (h : ∀ i ∈ order, i < scene.scope.composition.steps.length) :
    (order.filterMap fun i => (placedSteps scene)[i]?).map (·.index) = order := by
  induction order with
  | nil => rfl
  | cons i rest ih =>
    rw [List.forall_mem_cons] at h
    have hi := getElem?_placedSteps scene i
    rw [List.getElem?_eq_getElem h.1, Option.map_some] at hi
    rw [List.filterMap_cons_some hi, List.map_cons, ih h.2]

/-- In running order the steps stand as their priorities say, each with its place. -/
theorem orderSteps_ok {ordered : List PlacedStep} (h : orderSteps scene s = .ok ordered t) :
    ∃ priorities u, (placedSteps scene).mapM (priority scene) s = .ok priorities u ∧
      ordered.map (·.index) = Priority.order priorities ∧
      ∀ p ∈ ordered, scene.scope.composition.steps[p.index]? = some p.step := by
  rw [orderSteps] at h
  obtain ⟨priorities, u, hpriorities, h⟩ := bind_ok_iff.1 h
  have hordered :
      ordered = (Priority.order priorities).filterMap fun i => (placedSteps scene)[i]? := by
    split at h
    · obtain ⟨_, _, -, h⟩ := bind_ok_iff.1 h
      exact (pure_ok_iff.1 h).1.symm
    · exact (pure_ok_iff.1 h).1.symm
  have hlength : priorities.length = scene.scope.composition.steps.length := by
    rw [← length_placedSteps]
    exact (forall₂_of_mapM_ok hpriorities).length_eq.symm
  refine ⟨priorities, u, hpriorities, ?_, fun p hp => ?_⟩
  · rw [hordered, filterMap_placedSteps fun i hi => ?_]
    rw [← hlength]
    exact List.mem_range.1 ((Priority.order_perm priorities).mem_iff.1 hi)
  · rw [hordered] at hp
    obtain ⟨i, -, hi⟩ := List.mem_filterMap.1 hp
    rw [getElem?_placedSteps] at hi
    obtain ⟨step, hstep, rfl⟩ := Option.map_eq_some_iff.1 hi
    exact hstep

/-- The priority of a step cannot be resolved, while those of all steps that are declared before it
have been. -/
def FailsOrdering (scene : Scene) (s : State) (index : Nat) (source : Fault) (ended : State) :
    Prop :=
  ∃ step expression priorities t,
    scene.scope.composition.steps[index]? = some step ∧ step.get? priorityKey = some expression ∧
      ((placedSteps scene).take index).mapM (priority scene) s = .ok priorities t ∧
      scene.resolve expression t = .error source ended

theorem orderSteps_error (h : orderSteps scene s = .error fault t) :
    ∃ index source, fault = .step scene.scope.face.label index priorityKey source ∧
      FailsOrdering scene s index source t := by
  rw [orderSteps] at h
  rcases bind_error_iff.1 h with h | ⟨priorities, u, -, h⟩
  · obtain ⟨index, p, priorities, u, hp, hbefore, hfault⟩ := mapM_error_iff.1 h
    rw [← placedSteps, getElem?_placedSteps] at hp
    obtain ⟨step, hstep, rfl⟩ := Option.map_eq_some_iff.1 hp
    rw [priority] at hfault
    cases hexpression : step.get? priorityKey with
    | none =>
      rw [hexpression] at hfault
      cases hfault
    | some expression =>
      rw [hexpression] at hfault
      obtain ⟨source, hsource, rfl⟩ := mapFault_error_iff.1 hfault
      exact ⟨index, source, rfl, step, expression, priorities, u, hstep, hexpression, hbefore,
        hsource⟩
  · split at h
    · rcases bind_error_iff.1 h with h | ⟨_, _, -, h⟩
      · cases h
      · cases h
    · cases h

/-! ## Running steps -/

/-- Steps are run or left out in turn, which leads from a canvas and a state to others. -/
inductive Processes (handlers : Registry StepHandler) (scene : Scene) :
    List PlacedStep → Image → State → Image → State → Prop where
  | nil {canvas : Image} {s : State} : Processes handlers scene [] canvas s canvas s
  | skip {p : PlacedStep} {rest : List PlacedStep} {canvas last : Image} {s t u : State}
    (h : runStep handlers scene p canvas s = .ok none t)
    (hrest : Processes handlers scene rest canvas t last u) :
    Processes handlers scene (p :: rest) canvas s last u
  | run {p : PlacedStep} {rest : List PlacedStep} {canvas next last : Image} {s t u : State}
    (h : runStep handlers scene p canvas s = .ok (some (.go next)) t)
    (hrest : Processes handlers scene rest next t last u) :
    Processes handlers scene (p :: rest) canvas s last u

/-- A step fails after those before it in the order of the priorities have been processed. -/
def FailsRunning (handlers : Registry StepHandler) (scene : Scene) (blank : Image) (s : State)
    (index : Nat) (fault : Fault) (ended : State) : Prop :=
  ∃ step priorities before after t u canvas v,
    scene.scope.composition.steps[index]? = some step ∧
      (placedSteps scene).mapM (priority scene) s = .ok priorities t ∧
      Priority.order priorities = before.map (·.index) ++ index :: after.map (·.index) ∧
      (∀ p ∈ before ++ after, scene.scope.composition.steps[p.index]? = some p.step) ∧
      orderSteps scene s = .ok (before ++ ⟨index, step⟩ :: after) u ∧
      Processes handlers scene before blank u canvas v ∧
      runStep handlers scene ⟨index, step⟩ canvas v = .error fault ended

/-- A fault of a step names it. -/
theorem runStep_error {p : PlacedStep} {canvas : Image}
    (h : runStep handlers scene p canvas s = .error fault t) :
    ∃ kind source, fault = .step scene.scope.face.label p.index kind source := by
  rw [runStep] at h
  rcases bind_error_iff.1 h with h | ⟨params, _, -, h⟩
  · obtain ⟨source, -, rfl⟩ := mapFault_error_iff.1 h
    exact ⟨_, source, rfl⟩
  · rcases bind_error_iff.1 h with h | ⟨kind, _, -, h⟩
    · obtain ⟨source, -, rfl⟩ := mapFault_error_iff.1 h
      exact ⟨_, source, rfl⟩
    · obtain ⟨source, -, rfl⟩ := mapFault_error_iff.1 h
      exact ⟨_, source, rfl⟩

/-- Steps that are processed lead to where the others begin. -/
theorem runSteps_of_processes {before rest : List PlacedStep} {canvas last : Image} {u : State}
    (h : Processes handlers scene before canvas s last u) :
    runSteps handlers scene (before ++ rest) canvas s = runSteps handlers scene rest last u := by
  induction h with
  | nil => rfl
  | skip h _ ih =>
    rw [List.cons_append, runSteps, bind_of_ok _ h]
    exact ih
  | run h _ ih =>
    rw [List.cons_append, runSteps, bind_of_ok _ h]
    exact ih

/-- Steps fail at one of them, after those before it, whatever comes after it. -/
theorem runSteps_error_iff {steps : List PlacedStep} {canvas : Image} :
    runSteps handlers scene steps canvas s = .error fault t ↔
      ∃ before p after last u, steps = before ++ p :: after ∧
        Processes handlers scene before canvas s last u ∧
        runStep handlers scene p last u = .error fault t := by
  constructor
  · intro h
    induction steps generalizing canvas s with
    | nil => cases h
    | cons p rest ih =>
      rw [runSteps] at h
      rcases bind_error_iff.1 h with h | ⟨flow?, u, hflow, h⟩
      · exact ⟨[], p, rest, canvas, s, rfl, .nil, h⟩
      · cases flow? with
        | none =>
          obtain ⟨before, q, after, last, v, rfl, hbefore, hq⟩ := ih h
          exact ⟨p :: before, q, after, last, v, rfl, .skip hflow hbefore, hq⟩
        | some flow =>
          cases flow with
          | go next =>
            obtain ⟨before, q, after, last, v, rfl, hbefore, hq⟩ := ih h
            exact ⟨p :: before, q, after, last, v, rfl, .run hflow hbefore, hq⟩
          | stop last => rcases bind_error_iff.1 h with h | ⟨_, _, _, h⟩ <;> cases h
          | cancel => rcases bind_error_iff.1 h with h | ⟨_, _, _, h⟩ <;> cases h
  · rintro ⟨before, p, after, last, u, rfl, hbefore, hp⟩
    rw [runSteps_of_processes hbefore, runSteps]
    exact bind_of_error _ hp

/-! ## Drawing a face -/

/-- The blank canvas that drawing a face of some size begins with. -/
def blankImage (face : CardFace) (size : Size) : Generation Image := do
  info "Generating card face" [
    ("label", face.displayLabel), ("width", toString size.width),
    ("height", toString size.height)]
  newImage (.blank size.width size.height)

theorem drawSteps_eq (handlers : Registry StepHandler) (scene : Scene) (size : Size) :
    drawSteps handlers scene size = (do
      let blank ← blankImage scene.scope.face size
      let steps ← orderSteps scene
      match ← runSteps handlers scene steps blank with
      | none => return none
      | some canvas =>
        info "Card face generated" [("label", scene.scope.face.displayLabel)]
        return some canvas) := by
  rw [drawSteps, blankImage]
  exact (bind_assoc _ _ _).symm

theorem blankImage_ok (face : CardFace) (size : Size) (s : State) :
    ∃ blank t, blankImage face size s = .ok blank t :=
  ⟨_, _, rfl⟩

/-- From the blank canvas, drawing fails while steps are ordered, when it makes no difference what
the handlers do, or while steps are run. -/
theorem drawSteps_error {size : Size} (h : drawSteps handlers scene size s = .error fault t) :
    ∃ blank u index kind source, blankImage scene.scope.face size s = .ok blank u ∧
      fault = .step scene.scope.face.label index kind source ∧
      (kind = priorityKey ∧ FailsOrdering scene u index source t ∧
          (∀ others, drawSteps others scene size s = .error fault t) ∨
        FailsRunning handlers scene blank u index fault t) := by
  obtain ⟨blank, u, hblank⟩ := blankImage_ok scene.scope.face size s
  rw [drawSteps_eq, bind_of_ok _ hblank] at h
  rcases bind_error_iff.1 h with hordering | ⟨ordered, v, hordered, h⟩
  · obtain ⟨index, source, rfl, hfails⟩ := orderSteps_error hordering
    refine ⟨blank, u, index, _, source, hblank, rfl, .inl ⟨rfl, hfails, fun others => ?_⟩⟩
    rw [drawSteps_eq, bind_of_ok _ hblank]
    exact bind_of_error _ hordering
  · have hrunning : runSteps handlers scene ordered blank v = .error fault t := by
      rcases bind_error_iff.1 h with h | ⟨image?, w, -, h⟩
      · exact h
      · cases image? with
        | none => cases h
        | some image => rcases bind_error_iff.1 h with h | ⟨_, _, _, h⟩ <;> cases h
    obtain ⟨before, p, after, canvas, w, rfl, hbefore, hp⟩ := runSteps_error_iff.1 hrunning
    obtain ⟨kind, source, rfl⟩ := runStep_error hp
    obtain ⟨priorities, x, hpriorities, horder, hsteps⟩ := orderSteps_ok hordered
    refine ⟨blank, u, p.index, kind, source, hblank, rfl, .inr ?_⟩
    refine ⟨p.step, priorities, before, after, x, v, canvas, w, hsteps p (by simp), hpriorities, ?_,
      fun q hq => hsteps q ?_, hordered, hbefore, hp⟩
    · rw [← horder, List.map_append, List.map_cons]
    · rw [List.mem_append, List.mem_cons]
      exact (List.mem_append.1 hq).imp id .inr

end Generation

/-! ## Drawing a face -/

namespace Press

/-- The state in which drawing a face for its own sake begins. -/
def opening (run : Run) : State :=
  .fresh { run with nextStamp := (Value.mapping run.globalCache).greatestStamp + 1 }

/-- Let a face be composed to some size, and let drawing it fail. Then the fault is that of a step
of the composition, with the face's own label, and the run ends as it was when that step failed.
Either the priority of the step could not be resolved, though those of all steps declared before it
could, and no step was run, whatever the handlers; or the step failed when those before it in the
order of the priorities, and none after it, had been run or left out. -/
theorem generate_error (press : Press) {face : CardFace} {composition : Composition}
    (h : press.pool.compose face = .ok composition) {size : Size}
    (hsize : composition.size = some size) {run ended : Run} {fault : Fault}
    (hfault : press.generate face run = (.error fault, ended)) :
    let scene := press.sceneIn ⟨face, composition⟩ []
    ∃ blank s index kind source t, blankImage face size (opening run) = .ok blank s ∧
      fault = .step face.label index kind source ∧ ended = t.run ∧
      (kind = priorityKey ∧ FailsOrdering scene s index source t ∧
          (∀ handlers, run.perform (inNewDraft (drawSteps handlers scene size)) =
            (.error fault, ended)) ∨
        FailsRunning press.capabilities.steps scene blank s index fault t) := by
  intro scene
  have hdraw : press.drawFace [] face =
      inNewDraft (drawSteps press.capabilities.steps scene size) :=
    drawFace_of_compose h hsize []
  have hperform (handlers : Registry StepHandler) :
      run.perform (inNewDraft (drawSteps handlers scene size)) = (.error fault, ended) ↔
        ∃ t, drawSteps handlers scene size (opening run) = .error fault t ∧ ended = t.run := by
    rw [Run.perform, inNewDraft]
    simp only [opening]
    cases drawSteps handlers scene size _ with
    | ok image? t => simp
    | error source t => simp [eq_comm]
  rw [generate, hdraw, hperform] at hfault
  obtain ⟨t, hfault, rfl⟩ := hfault
  obtain ⟨blank, s, index, kind, source, hblank, hkind, hfails⟩ := drawSteps_error hfault
  refine ⟨blank, s, index, kind, source, t, hblank, hkind, rfl, ?_⟩
  rcases hfails with ⟨hpriority, hordering, hothers⟩ | hrunning
  · exact .inl ⟨hpriority, hordering, fun handlers =>
      (hperform handlers).2 ⟨t, hothers handlers, rfl⟩⟩
  · exact .inr hrunning

/-- A face with a step that no handler is for; the one declared after it goes first. -/
def misnamed : CardFace :=
  { CardFace.empty 0 with
    label := some "misnamed"
    size := some ⟨1, 1⟩
    steps := [
      .mapping <| Dict.ofList [(typeKey, .string "ghost")],
      .mapping <| Dict.ofList [
        (typeKey, .string "write_to_cache"), (priorityKey, .bool true), ("key", .string "early"),
        ("value", .bool true), ("is_global", .bool true)]] }

set_option maxRecDepth 10000 in
theorem generate_error_misnamed :
    let press : Press := ⟨Capabilities.table, .empty, .standard⟩
    let composition : Composition := ⟨[], misnamed.steps, misnamed.size⟩
    let fault : Fault := .step (some "misnamed") 0 "ghost" (.unknownStep "ghost")
    ∃ ended : Run, press.pool.compose misnamed = .ok composition ∧
      composition.size = some ⟨1, 1⟩ ∧
      press.generate misnamed (.start .empty ∅) = (.error fault, ended) ∧
      ended.globalCache.contains "early" = true ∧
      ∃ blank s t, ended = t.run ∧ FailsRunning Capabilities.table.steps
        (press.sceneIn ⟨misnamed, composition⟩ []) blank s 0 fault t := by
  intro press composition fault
  have hcompose : press.pool.compose misnamed = .ok composition := by cbv
  have hfault : (press.generate misnamed (.start .empty ∅)).1 = .error fault := by cbv
  have hdrawn : press.generate misnamed (.start .empty ∅) =
      (.error fault, (press.generate misnamed (.start .empty ∅)).2) := by rw [← hfault]
  obtain ⟨blank, s, index, kind, source, t, -, hkind, hended, hfails⟩ :=
    generate_error press hcompose rfl hdrawn
  obtain ⟨-, rfl, rfl, rfl⟩ := Fault.step.inj hkind
  rcases hfails with ⟨hpriority, -⟩ | hrunning
  · exact absurd hpriority (by decide)
  · exact ⟨_, hcompose, rfl, hdrawn, by cbv, blank, s, t, hended, hrunning⟩

end Press

end CardPress
