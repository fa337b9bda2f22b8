import CardPress.Proofs.Composition.Order

/-!
# Expanding without sharing

Composing passes over labels that are completed already. The plain expansion has no memory: it
expands every listed label anew, whatever came before, and leaves out repetitions at the very end.
Both have the same outcome, because what is completed can be expanded again from anywhere it is
listed (`expandAll_of_inOrder`).

## Main definitions

* `TemplatePool.expandAll` — the expansion without memory.
* `TemplatePool.composeAll` — the composition from it.

## Main result

* `TemplatePool.compose_eq_composeAll` — composing is the plain composition.
-/

namespace CardPress.TemplatePool

/-- Expand every listed label in turn, each before it is completed itself, as often as it is listed.
A label on the path from the start is a cycle. -/
def expandAll (pool : TemplatePool) (path : List String) :
    List String → Except Fault Completed
  | [] => .ok []
  | label :: rest =>
    if _hp : path.contains label then .error (.templateCycle (path ++ [label]))
    else
      match _hl : pool.lookup label with
      | none => .error (.unknownTemplate label)
      | some face => do
        let inner ← expandAll pool (path ++ [label]) face.templates
        let later ← expandAll pool path rest
        return inner ++ (label, face) :: later
termination_by labels => ((pool.offPath path).length, labels.length)
decreasing_by
  · exact Prod.Lex.left _ _ (length_offPath_append _hl (by simpa using _hp))
  · exact Prod.Lex.right _ (by simp)

/-- Keep the first entry of each label. -/
def keepFirst (all : Completed) : Completed :=
  all.eraseDupsBy fun a b => a.1 == b.1

/-- The composition of a face by the plain expansion. -/
def composeAll (pool : TemplatePool) (face : CardFace) : Except Fault Composition := do
  let all ← pool.expandAll face.label.toList face.templates
  let first := keepFirst all
  let templates := first.map (·.2)
  return {
    templates := templates
    steps := templates.flatMap (·.steps) ++ face.steps
    size := effectiveSize face first }

/-! ## First entries -/

/-- Complete a label unless it is completed. -/
def addEntry (done : Completed) (e : String × CardFace) : Completed :=
  if e.1 ∈ labelsOf done then done else done ++ [e]

def addEntries (done all : Completed) : Completed :=
  all.foldl addEntry done

theorem addEntry_of_mem {done : Completed} {e : String × CardFace} (h : e.1 ∈ labelsOf done) :
    addEntry done e = done := if_pos h

theorem addEntry_of_not_mem {done : Completed} {e : String × CardFace}
    (h : e.1 ∉ labelsOf done) : addEntry done e = done ++ [e] := if_neg h

theorem addEntries_append_cons (done inner later : Completed) (e : String × CardFace) :
    addEntries done (inner ++ e :: later) =
      addEntries (addEntry (addEntries done inner) e) later := by
  simp [addEntries]

theorem addEntries_of_subset {done all : Completed} (h : labelsOf all ⊆ labelsOf done) :
    addEntries done all = done := by
  induction all with
  | nil => rfl
  | cons e rest ih =>
    rw [labelsOf_cons, List.cons_subset] at h
    rw [addEntries, List.foldl_cons, addEntry_of_mem h.1]
    exact ih h.2

theorem addEntries_eq_append (done all : Completed) :
    addEntries done all = done ++ keepFirst (all.filter fun e => e.1 ∉ labelsOf done) := by
  induction all generalizing done with
  | nil => simp [addEntries, keepFirst]
  | cons e rest ih =>
    have step : addEntries done (e :: rest) = addEntries (addEntry done e) rest := rfl
    by_cases he : e.1 ∈ labelsOf done
    · rw [step, addEntry_of_mem he, ih, List.filter_cons_of_neg (by simpa using he)]
    · have hf : (rest.filter fun b => b.1 ∉ labelsOf (done ++ [e])) =
          (rest.filter fun b => b.1 ∉ labelsOf done).filter fun b => (b.1 == e.1) = false := by
        rw [List.filter_filter]
        refine List.filter_congr fun b _ => ?_
        rw [Bool.eq_iff_iff]
        simp [and_comm]
      rw [step, addEntry_of_not_mem he, ih, hf, List.filter_cons_of_pos (by simpa using he)]
      simp [keepFirst, List.eraseDupsBy_cons]

/-- Completing entries in turn keeps the first of each label. -/
theorem addEntries_nil (all : Completed) : addEntries [] all = keepFirst all := by
  rw [addEntries_eq_append, List.filter_eq_self.2 (by simp), List.nil_append]

/-! ## Expanding completed labels again -/

variable {pool : TemplatePool}

theorem expandAll_cons {path : List String} {label : String} {face : CardFace}
    (rest : List String) (hp : label ∉ path) (hl : pool.lookup label = some face) :
    pool.expandAll path (label :: rest) = do
      let inner ← pool.expandAll (path ++ [label]) face.templates
      let later ← pool.expandAll path rest
      return inner ++ (label, face) :: later := by
  rw [expandAll, dif_neg (by simpa using hp)]
  split
  · next h => cases hl.symm.trans h
  · next h => cases hl.symm.trans h; rfl

/-- What is listed can be expanded if the templates of each listed label can. -/
theorem expandAll_of_forall {path listed labels : List String} (hp : ∀ l ∈ listed, l ∉ path)
    (hs : listed ⊆ labels)
    (h : ∀ l ∈ listed, ∃ face inner, pool.lookup l = some face ∧
      pool.expandAll (path ++ [l]) face.templates = .ok inner ∧ labelsOf inner ⊆ labels) :
    ∃ all, pool.expandAll path listed = .ok all ∧ labelsOf all ⊆ labels := by
  induction listed with
  | nil => exact ⟨[], by rw [expandAll], List.nil_subset _⟩
  | cons label rest ih =>
    rw [List.forall_mem_cons] at hp h
    rw [List.cons_subset] at hs
    obtain ⟨⟨face, inner, hl, hinner, hsub⟩, h⟩ := h
    obtain ⟨later, hlater, hsub'⟩ := ih hp.2 hs.2 h
    refine ⟨inner ++ (label, face) :: later, ?_, ?_⟩
    · rw [expandAll_cons rest hp.1 hl, hinner, hlater]
      rfl
    · simp [hsub, hs.1, hsub']

/-- The templates of a completed label can be expanded again wherever none of the completed labels
is on the path, and that finds nothing new. -/
theorem expandAll_of_inOrder {done : Completed} (h : pool.InOrder done) {path : List String}
    (hp : ∀ l ∈ path, l ∉ labelsOf done) {label : String} (hl : label ∈ labelsOf done) :
    ∃ face inner, pool.lookup label = some face ∧
      pool.expandAll (path ++ [label]) face.templates = .ok inner ∧
      labelsOf inner ⊆ labelsOf done := by
  induction h generalizing path label with
  | nil => cases hl
  | @snoc done last face before registered fresh complete ih =>
    have hd : labelsOf done ⊆ labelsOf (done ++ [(last, face)]) := by simp
    have hp' : ∀ l ∈ path, l ∉ labelsOf done := fun l hm hc => hp l hm (hd hc)
    rw [labelsOf_append, List.mem_append] at hl
    rcases hl with hl | hl
    · obtain ⟨f, inner, hf, hi, hs⟩ := ih hp' hl
      exact ⟨f, inner, hf, hi, List.Subset.trans hs hd⟩
    · cases List.mem_singleton.1 hl
      -- The last label's own path is free of what was completed before it.
      have hq : ∀ l ∈ path ++ [last], l ∉ labelsOf done := by
        simpa [or_imp, forall_and, fresh] using hp'
      obtain ⟨inner, hi, hs⟩ := expandAll_of_forall
        (fun t ht hm => hq t hm (complete ht)) complete fun t ht => ih hq (complete ht)
      exact ⟨face, inner, registered, hi, List.Subset.trans hs hd⟩

/-! ## Composing -/

/-- With some labels completed, expanding adds what the plain expansion has in addition. -/
theorem expand_eq_map_expandAll {path listed : List String} {done : Completed}
    (h : pool.InOrder done) (hp : ∀ l ∈ path, l ∉ labelsOf done) :
    pool.expand path done listed =
      (pool.expandAll path listed).map (addEntries done) := by
  fun_induction expand pool path done listed with
  | case1 => rw [expandAll]; rfl
  | case2 path done label rest hc => rw [expandAll, dif_pos hc]; rfl
  | case3 path done label rest hc hm ih =>
    rw [isSome_lookup_iff] at hm
    obtain ⟨face, inner, hl, hi, hs⟩ := expandAll_of_inOrder h hp hm
    rw [expandAll_cons rest (by simpa using hc) hl, hi, ih h hp]
    cases pool.expandAll path rest with
    | error fault => rfl
    | ok later =>
      refine congrArg Except.ok ?_
      rw [addEntries_append_cons, addEntries_of_subset hs, addEntry_of_mem hm]
  | case4 path done label rest hc hm hl =>
    rw [expandAll, dif_neg hc]
    split
    · rfl
    · next h => cases hl.symm.trans h
  | case5 path done label rest hc hm face hl ihTemplates ihRest =>
    rw [isSome_lookup_iff] at hm
    have hq : ∀ l ∈ path ++ [label], l ∉ labelsOf done := by
      simpa [or_imp, forall_and, hm] using hp
    have he := ihTemplates h hq
    rw [expandAll_cons rest (by simpa using hc) hl, he]
    cases hi : pool.expandAll (path ++ [label]) face.templates with
    | error fault => rfl
    | ok inner =>
      rw [hi] at he
      have hx := expands_of_expand h hq he
      obtain ⟨ho, hp'⟩ := hx.snoc hl (by simpa using hc)
      have hfresh := hx.offPath label (by simp)
      refine (ihRest _ ho hp').trans ?_
      cases pool.expandAll path rest with
      | error fault => rfl
      | ok later =>
        refine congrArg Except.ok ?_
        rw [addEntries_append_cons, addEntry_of_not_mem hfresh]

/-- Passing over completed labels changes nothing: composing has the templates, the steps and the
size of the plain composition, and fails exactly where that fails, with the same fault. -/
theorem compose_eq_composeAll (pool : TemplatePool) (face : CardFace) :
    pool.compose face = pool.composeAll face := by
  have h : pool.expand face.label.toList [] face.templates =
      (pool.expandAll face.label.toList face.templates).map (addEntries []) :=
    expand_eq_map_expandAll .nil (by simp)
  rw [compose, composeAll, h]
  cases pool.expandAll face.label.toList face.templates with
  | error fault => rfl
  | ok all =>
    refine congrArg Except.ok ?_
    rw [addEntries_nil]

end CardPress.TemplatePool
