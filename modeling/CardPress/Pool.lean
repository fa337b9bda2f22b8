import CardPress.Card

/-!
# Template pools

A pool holds labelled faces, each under its own label. `compose` flattens the faces a face inherits
from, dependencies first, and settles its size.
-/

namespace CardPress

/-- A stricter condition that leaves out a member leaves fewer members. Searches that go on among
what they have not met yet end because of this. -/
theorem length_filter_lt {α : Type} {p q : α → Bool} {l : List α} {a : α}
    (h : ∀ b, q b = true → p b = true) (ha : a ∈ l) (hp : p a = true) (hq : q a = false) :
    (l.filter q).length < (l.filter p).length := by
  have le (l : List α) : (l.filter q).length ≤ (l.filter p).length := by
    rw [← List.countP_eq_length_filter, ← List.countP_eq_length_filter]
    exact List.countP_mono_left fun b _ => h b
  induction l with
  | nil => cases ha
  | cons b rest ih =>
    rcases List.mem_cons.1 ha with rfl | ha
    · rw [List.filter_cons_of_pos hp, List.filter_cons_of_neg (by simp [hq]), List.length_cons]
      exact Nat.lt_succ_of_le (le rest)
    · have := ih ha
      cases hb : q b with
      | true => simpa [List.filter_cons, hb, h b hb] using this
      | false =>
        rw [List.filter_cons_of_neg (by simp [hb])]
        cases hb' : p b with
        | true =>
          rw [List.filter_cons_of_pos hb', List.length_cons]
          exact Nat.lt_succ_of_lt this
        | false => rwa [List.filter_cons_of_neg (by simp [hb'])]

structure TemplatePool where
  faces : Dict CardFace
  sorted : faces.Sorted
  label_eq : ∀ label face, faces.get? label = some face → face.label = some label

namespace TemplatePool

def empty : TemplatePool where
  faces := ∅
  sorted := Dict.sorted_empty
  label_eq := by simp

def lookup (pool : TemplatePool) (label : String) : Option CardFace :=
  pool.faces.get? label

/-- In ascending order. -/
def labels (pool : TemplatePool) : List String :=
  pool.faces.keys

def size (pool : TemplatePool) : Nat :=
  pool.faces.size

def isEmpty (pool : TemplatePool) : Bool :=
  pool.faces.isEmpty

/-- The pool with one more entry. -/
def insert (pool : TemplatePool) (label : String) (face : CardFace) (h : face.label = some label) :
    TemplatePool where
  faces := pool.faces.insert label face
  sorted := pool.sorted.insert label face
  label_eq k f hk := by
    rw [Dict.get?_insert] at hk
    split at hk
    · cases hk
      simp [*]
    · exact pool.label_eq k f hk

/-- Put a face into the pool. Only labelled faces can be registered, and a label only once. -/
def register (face : CardFace) : EStateM Fault TemplatePool Unit := do
  match h : face.label with
  | none => throw .unlabelledTemplate
  | some label =>
    if ((← get).lookup label).isSome then throw (.duplicateLabel label)
    modify fun pool => pool.insert label face h

/-- The pool after changes that all succeed. -/
def changed (pool : TemplatePool) (change : EStateM Fault TemplatePool Unit) :
    Except Fault TemplatePool :=
  match change pool with
  | .ok _ pool => .ok pool
  | .error fault _ => .error fault

/-! ## Composition -/

/-- Labels of the pool that are not on a path. -/
def offPath (pool : TemplatePool) (path : List String) : List String :=
  pool.labels.filter fun label => !path.contains label

theorem mem_labels_of_lookup {pool : TemplatePool} {label : String} {face : CardFace}
    (h : pool.lookup label = some face) : label ∈ pool.labels := by
  simp only [lookup, Dict.get?, labels, Dict.keys] at h ⊢
  generalize pool.faces.entries = entries at h
  induction entries with
  | nil => simp at h
  | cons e rest ih =>
    obtain ⟨k, f⟩ := e
    by_cases hk : label = k
    · simp [hk]
    · simp only [List.lookup_cons, beq_eq_false_iff_ne.2 hk] at h
      simp [hk, ih h]

/-- A step along the path leaves fewer labels off it. -/
theorem length_offPath_append {pool : TemplatePool} {path : List String} {label : String}
    {face : CardFace} (hl : pool.lookup label = some face) (hp : path.contains label = false) :
    (pool.offPath (path ++ [label])).length < (pool.offPath path).length := by
  refine length_filter_lt (fun l hl => ?_) (mem_labels_of_lookup hl) (by simpa using hp)
    (by simp)
  simp only [Bool.not_eq_true', List.contains_eq_mem, decide_eq_false_iff_not,
    List.mem_append] at hl ⊢
  exact fun h => hl (.inl h)

/-- Labels with their faces, in the order they were completed. -/
abbrev Completed := List (String × CardFace)

/-- Complete every label in turn, each after all it refers to in turn. A label on the path from the
start is a cycle; one that is completed already is passed over. -/
def expand (pool : TemplatePool) (path : List String) (done : Completed) :
    List String → Except Fault Completed
  | [] => .ok done
  | label :: rest =>
    if _hp : path.contains label then .error (.templateCycle (path ++ [label]))
    else if (done.lookup label).isSome then expand pool path done rest
    else
      match _hl : pool.lookup label with
      | none => .error (.unknownTemplate label)
      | some face => do
        let done ← expand pool (path ++ [label]) done face.templates
        expand pool path (done ++ [(label, face)]) rest
termination_by labels => ((pool.offPath path).length, labels.length)
decreasing_by
  · exact Prod.Lex.right _ (by simp)
  · exact Prod.Lex.left _ _ (length_offPath_append _hl (by simpa using _hp))
  · exact Prod.Lex.right _ (by simp)

/-- The size of a face whose templates are settled: its own, else that of the last template listed
that has one. -/
def settle (settled : Dict (Option Size)) (face : CardFace) : Option Size :=
  match face.size with
  | some size => some size
  | none => face.templates.reverse.findSome? fun label => (settled.get? label).join

/-- Settle completed templates in order, then the face. -/
def effectiveSize (face : CardFace) (done : Completed) : Option Size :=
  let settled := done.foldl (fun settled (label, t) => settled.insert label (settle settled t)) ∅
  settle settled face

end TemplatePool

/-- A face's inheritance, flattened. -/
structure Composition where
  /-- Every face it inherits from, dependencies before dependents. -/
  templates : List CardFace
  /-- Inherited steps in that order, then the face's own. -/
  steps : List Value
  size : Option Size

namespace TemplatePool

def compose (pool : TemplatePool) (face : CardFace) : Except Fault Composition := do
  let done ← expand pool face.label.toList [] face.templates
  let templates := done.map (·.2)
  return {
    templates := templates
    steps := templates.flatMap (·.steps) ++ face.steps
    size := effectiveSize face done }

@[simp] theorem lookup_insert (pool : TemplatePool) (label : String) (face : CardFace)
    (h : face.label = some label) (k : String) :
    (pool.insert label face h).lookup k = if k = label then some face else pool.lookup k :=
  Dict.get?_insert pool.faces label k face

end TemplatePool

end CardPress
