import CardPress.Proofs.Composition.Topological

/-!
# Why a face cannot be composed

Composing fails for one of two reasons. The path from the face comes back to a label that is on it,
and the fault tells the whole way there; or a label that is reached is under no face of the pool.

## Main definitions

* `TemplatePool.Lists` — one label leads to another while a face is composed.
* `TemplatePool.Walk` — labels on a way from the face.
* `TemplatePool.ReturningWalk` — such a way that comes back to itself at its end, and not before.

## Main result

* `TemplatePool.compose_fault` — what the fault of a composition tells.
-/

namespace CardPress.TemplatePool

open Relation

variable {pool : TemplatePool} {face : CardFace}

/-- The face that a label stands for while some face is composed: that face under its own label,
whether or not it is registered, and those of the pool under all others. -/
def named (pool : TemplatePool) (face : CardFace) (label : String) : Option CardFace :=
  if face.label = some label then some face else pool.lookup label

/-- The face that one label stands for lists the other. -/
def Lists (pool : TemplatePool) (face : CardFace) (a b : String) : Prop :=
  ∃ f, pool.named face a = some f ∧ b ∈ f.templates

/-- Where a way from a face may start: at its own label, or if it has none at one that it lists. -/
def Starts (face : CardFace) (label : String) : Prop :=
  match face.label with
  | some own => label = own
  | none => label ∈ face.templates

/-- Labels on a way from a face, each of them listed by the face of the one before. -/
structure Walk (pool : TemplatePool) (face : CardFace) (labels : List String) : Prop where
  starts : ∃ first, labels.head? = some first ∧ Starts face first
  steps : labels.IsChain (pool.Lists face)

/-- A walk of different labels up to the last, which is one of those before. -/
structure ReturningWalk (pool : TemplatePool) (face : CardFace) (labels : List String) : Prop
    extends pool.Walk face labels where
  distinct : labels.dropLast.Nodup
  returns : ∃ last, labels.getLast? = some last ∧ last ∈ labels.dropLast

/-- A label after a walk that its last face lists makes a longer walk. -/
theorem Walk.snoc {path : List String} {last label : String}
    (h : pool.Walk face (path ++ [last])) (hl : pool.Lists face last label) :
    pool.Walk face (path ++ [last] ++ [label]) where
  starts := by
    obtain ⟨first, hfirst, hstart⟩ := h.starts
    exact ⟨first, by rw [List.head?_append, hfirst, Option.some_or], hstart⟩
  steps := by
    refine List.isChain_append.2 ⟨h.steps, .singleton label, ?_⟩
    simpa using hl

/-- Coming back to a label on the path ends a walk. -/
theorem Walk.returning {path : List String} {label : String} (h : pool.Walk face (path ++ [label]))
    (hpath : path.Nodup) (hl : label ∈ path) : pool.ReturningWalk face (path ++ [label]) where
  toWalk := h
  distinct := by rwa [List.dropLast_concat]
  returns := ⟨label, by simp, by rwa [List.dropLast_concat]⟩

/-- A returning walk ends in a cycle: its last label leads back to itself. -/
theorem ReturningWalk.exists_cycle {labels : List String} (h : pool.ReturningWalk face labels) :
    ∃ last, labels.getLast? = some last ∧ TransGen (pool.Lists face) last last := by
  obtain ⟨last, hlast, hm⟩ := h.returns
  obtain ⟨path, rfl⟩ := List.getLast?_eq_some_iff.1 hlast
  rw [List.dropLast_concat] at hm
  have hpairs : (path ++ [last]).Pairwise (TransGen (pool.Lists face)) :=
    List.isChain_iff_pairwise.1 (h.steps.imp fun _ _ => .single)
  exact ⟨last, hlast, (List.pairwise_append.1 hpairs).2.2 last hm last
    (List.mem_singleton_self last)⟩

/-- The path of an expansion is always the way from the face to what is being expanded. So where it
fails, either the path comes back to itself, or a label is missing that is within reach. -/
theorem fault_of_expand {path listed : List String} {done : Completed} {fault : Fault}
    (hown : ∀ own, face.label = some own → own ∈ path) (hpath : path.Nodup)
    (hlisted : ∀ l ∈ listed, pool.Walk face (path ++ [l]))
    (h : pool.expand path done listed = .error fault) :
    (∃ chain, fault = .templateCycle chain ∧ pool.ReturningWalk face chain) ∨
      ∃ label, fault = .unknownTemplate label ∧ pool.lookup label = none ∧
        pool.Within listed label := by
  fun_induction expand pool path done listed with
  | case1 => cases h
  | case2 path done label rest hc =>
    cases h
    have hwalk := hlisted label List.mem_cons_self
    exact .inl ⟨_, rfl, hwalk.returning hpath (by simpa using hc)⟩
  | case3 path done label rest hc hm ih =>
    refine (ih hown hpath (fun l hl => hlisted l (List.mem_cons_of_mem _ hl)) h).imp_right ?_
    rintro ⟨missing, hfault, hnone, hw⟩
    exact ⟨missing, hfault, hnone, hw.mono (List.subset_cons_self label rest)⟩
  | case4 path done label rest hc hm hl =>
    cases h
    exact .inr ⟨label, rfl, hl, .of_mem List.mem_cons_self⟩
  | case5 path done label rest hc hm f hl ihTemplates ihRest =>
    have hfresh : label ∉ path := by simpa using hc
    rcases bind_eq_error_iff.1 h with h | ⟨inner, -, h⟩
    · -- The templates of a label are expanded with that label at the end of the path.
      have hnamed : pool.named face label = some f := by
        rw [named, if_neg fun ho => hfresh (hown label ho), hl]
      have hwalk := hlisted label List.mem_cons_self
      refine (ihTemplates ?_ ?_ ?_ h).imp_right ?_
      · exact fun own ho => List.mem_append_left _ (hown own ho)
      · exact hpath.append (List.nodup_singleton label) (List.disjoint_singleton.2 hfresh)
      · exact fun l hm => hwalk.snoc ⟨f, hnamed, hm⟩
      · rintro ⟨missing, hfault, hnone, hw⟩
        have hr := (within_templates_iff hl).1 hw
        exact ⟨missing, hfault, hnone, label, List.mem_cons_self, hr.to_reflTransGen⟩
    · refine (ihRest inner hown hpath ?_ h).imp_right ?_
      · exact fun l hm => hlisted l (List.mem_cons_of_mem _ hm)
      · rintro ⟨missing, hfault, hnone, hw⟩
        exact ⟨missing, hfault, hnone, hw.mono (List.subset_cons_self label rest)⟩

/-- What a face lists comes first on a way from it, after its own label if it has one. -/
theorem walk_of_mem_templates {label : String} (h : label ∈ face.templates) :
    pool.Walk face (face.label.toList ++ [label]) := by
  cases hlabel : face.label with
  | none => exact ⟨⟨label, rfl, by rwa [Starts, hlabel]⟩, .singleton label⟩
  | some own =>
    have hwalk : pool.Walk face ([] ++ [own]) :=
      ⟨⟨own, rfl, by rw [Starts, hlabel]⟩, .singleton own⟩
    exact hwalk.snoc ⟨face, if_pos hlabel, h⟩

/-- A composition fails because of a cycle or a missing label. The chain of a cycle starts with the
face's label, or with a label that it lists if it has none; each label is followed by one that is
listed by the face it stands for, and the last one is the first to come again. A missing label is
under no face of the pool, and the face reaches it. -/
theorem compose_fault {fault : Fault} (h : pool.compose face = .error fault) :
    (∃ chain, fault = .templateCycle chain ∧ pool.ReturningWalk face chain) ∨
      ∃ label, fault = .unknownTemplate label ∧ pool.lookup label = none ∧
        pool.Within face.templates label := by
  rcases bind_eq_error_iff.1 h with h | ⟨done, -, h⟩
  · refine fault_of_expand (fun own ho => by simp [ho]) ?_ (fun l => walk_of_mem_templates) h
    cases face.label <;> simp
  · cases h

/-- Two faces that list each other besides a common one, and a face that lists what is not there. -/
def knot : TemplatePool :=
  (((empty.insert "frame" (labelled 0 "frame" []) rfl).insert
    "left" (labelled 1 "left" ["frame", "right"]) rfl).insert
    "right" (labelled 2 "right" ["frame", "left"]) rfl).insert
    "stray" (labelled 3 "stray" ["frame", "nowhere"]) rfl

def caught : CardFace := labelled 4 "card" ["frame", "left"]

def lost : CardFace := { CardFace.empty 5 with templates := ["frame", "stray"] }

theorem compose_fault_knot :
    (knot.compose caught = .error (.templateCycle ["card", "left", "right", "left"]) ∧
      knot.ReturningWalk caught ["card", "left", "right", "left"]) ∧
    knot.compose lost = .error (.unknownTemplate "nowhere") ∧
      knot.lookup "nowhere" = none ∧ knot.Within lost.templates "nowhere" := by
  have hcaught : knot.compose caught =
      .error (.templateCycle ["card", "left", "right", "left"]) := by cbv
  have hlost : knot.compose lost = .error (.unknownTemplate "nowhere") := by cbv
  refine ⟨⟨hcaught, ?_⟩, hlost, ?_⟩
  · obtain ⟨chain, hchain, hwalk⟩ | ⟨label, hlabel, -⟩ := compose_fault hcaught
    · cases hchain
      exact hwalk
    · cases hlabel
  · obtain ⟨chain, hchain, -⟩ | ⟨label, hlabel, hnone, hwithin⟩ := compose_fault hlost
    · cases hchain
    · cases hlabel
      exact ⟨hnone, hwithin⟩

end CardPress.TemplatePool
