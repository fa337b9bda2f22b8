import CardPress.Proofs.Capabilities

/-!
# Capabilities with extensions

Extensions go together with some capabilities, and with one another, exactly if no tag comes twice
among the expressions and none among the steps. The two registries are filled in turn, extension by
extension; what becomes of each is as if it were filled by itself.

## Main definitions

* `Registry.Sorted`, `Capabilities.Sorted` — what registering keeps: entries in the order of their
  tags.
* `Registry.Gains` — a registry is another one with some more entries.

## Main results

* `Registry.exists_registerAll_iff` — when entries can be registered.
* `Registry.Sorted.registerAll_perm` — in whatever order.
* `Capabilities.compose_eq_ok_iff` — the two registries are filled independently.
* `Capabilities.compose_laws` — when extensions go together, what they give, and that neither their
  order nor their grouping matters.
-/

namespace CardPress

variable {α : Type}

/-! ## One registry -/

namespace Registry

variable {r s : Registry α} {entries others : List (String × α)} {tag : String} {entry : α}
  {fault : Fault}

/-- The entries are in the order of their tags. -/
def Sorted (r : Registry α) : Prop :=
  r.entries.Sorted

instance (r : Registry α) : Decidable r.Sorted :=
  inferInstanceAs (Decidable (r.entries.entries.Pairwise (·.1 < ·.1)))

/-- The tags that are there, and those of more entries. -/
def tagsWith (r : Registry α) (entries : List (String × α)) : List String :=
  r.tags ++ entries.map (·.1)

/-- A fault that names a tag which would come twice with more entries. -/
def Repeats (r : Registry α) (entries : List (String × α)) (fault : Fault) : Prop :=
  ∃ tag, fault = .duplicateRegistration r.kind tag ∧ 1 < (r.tagsWith entries).count tag

theorem Sorted.replace (h : r.Sorted) (tag : String) (entry : α) : (r.replace tag entry).Sorted :=
  Dict.Sorted.insert h tag entry

theorem mem_tags_iff : tag ∈ r.tags ↔ r.get? tag ≠ none := by
  rw [tags, ← Dict.contains_iff, Dict.contains_eq_isSome, Option.isSome_iff_ne_none, get?]

theorem Sorted.nodup_tags (h : r.Sorted) : r.tags.Nodup :=
  Dict.nodup_keys h

/-- A tag is there once or not at all. -/
theorem Sorted.count_tags (h : r.Sorted) (tag : String) :
    r.tags.count tag = (r.get? tag).toList.length := by
  rw [h.nodup_tags.count]
  simp only [mem_tags_iff]
  cases r.get? tag <;> simp

theorem register_of_fresh (h : r.get? tag = none) :
    r.register tag entry = .ok (r.replace tag entry) := by
  have hfresh : r.contains tag = false := by simp [contains, show r.entries.get? tag = none from h]
  simp [register, hfresh, replace]

theorem register_of_taken (h : r.get? tag ≠ none) :
    r.register tag entry = .error (.duplicateRegistration r.kind tag) := by
  rw [register_eq_error_iff, contains, Dict.contains_eq_isSome, Option.isSome_iff_ne_none]
  exact h

theorem registerAll_cons (r : Registry α) (tag : String) (entry : α) (rest : List (String × α)) :
    r.registerAll ((tag, entry) :: rest) = r.register tag entry >>= fun r => r.registerAll rest :=
  List.foldlM_cons

theorem registerAll_append (r : Registry α) (entries others : List (String × α)) :
    r.registerAll (entries ++ others) = r.registerAll entries >>= fun r => r.registerAll others :=
  List.foldlM_append

/-- Entries can be registered exactly if their tags differ and are free. -/
theorem exists_registerAll_iff :
    (∃ s, r.registerAll entries = .ok s) ↔
      (entries.map (·.1)).Nodup ∧ ∀ tag ∈ entries.map (·.1), r.get? tag = none := by
  induction entries generalizing r with
  | nil => exact iff_of_true ⟨r, rfl⟩ (by simp)
  | cons e rest ih =>
    obtain ⟨tag, entry⟩ := e
    rw [registerAll_cons, List.map_cons, List.nodup_cons, List.forall_mem_cons]
    by_cases htag : r.get? tag = none
    · simp only [register_of_fresh htag, bind, Except.bind, ih, get?_replace]
      grind
    · simp [register_of_taken htag, bind, Except.bind, htag]

/-- Then no tag comes twice among those that are there and the new ones. -/
theorem Sorted.exists_registerAll_iff (h : r.Sorted) :
    (∃ s, r.registerAll entries = .ok s) ↔ (r.tagsWith entries).Nodup := by
  rw [Registry.exists_registerAll_iff, tagsWith, List.nodup_append]
  simp only [h.nodup_tags, true_and]
  refine and_congr_right fun _ =>
    ⟨fun hfresh tag htag tag' htag' heq => ?_, fun hfresh tag htag => ?_⟩
  · exact mem_tags_iff.1 htag (heq ▸ hfresh tag' htag')
  · by_contra htaken
    exact hfresh tag (mem_tags_iff.2 htaken) tag htag rfl

theorem duplicate_of_registerAll (h : r.registerAll entries = .error fault) :
    ∃ tag, fault = .duplicateRegistration r.kind tag ∧
      1 < (r.get? tag).toList.length + (entries.map (·.1)).count tag := by
  induction entries generalizing r with
  | nil => cases h
  | cons e rest ih =>
    obtain ⟨own, entry⟩ := e
    rw [registerAll_cons] at h
    by_cases hown : r.get? own = none
    · rw [register_of_fresh hown] at h
      obtain ⟨tag, hfault, hcount⟩ := ih h
      refine ⟨tag, hfault, ?_⟩
      rw [get?_replace] at hcount
      by_cases heq : tag = own
      · subst heq
        simpa [hown, Nat.add_comm] using hcount
      · rw [if_neg heq] at hcount
        rwa [List.map_cons, List.count_cons_of_ne (Ne.symm heq)]
    · rw [register_of_taken hown] at h
      cases h
      obtain ⟨first, hfirst⟩ := Option.ne_none_iff_exists'.1 hown
      exact ⟨own, rfl, by simp [hfirst]⟩

/-- Entries that cannot be registered have a tag that comes twice. -/
theorem Sorted.repeats (hr : r.Sorted) (h : r.registerAll entries = .error fault) :
    r.Repeats entries fault := by
  obtain ⟨tag, hfault, hcount⟩ := duplicate_of_registerAll h
  refine ⟨tag, hfault, ?_⟩
  rwa [tagsWith, List.count_append, hr.count_tags]

/-- A registry is another one with some more entries, each of them under its own tag. -/
structure Gains (r : Registry α) (entries : List (String × α)) (s : Registry α) : Prop where
  kind : s.kind = r.kind
  sorted : s.Sorted
  get?_iff : ∀ tag entry, s.get? tag = some entry ↔ r.get? tag = some entry ∨ (tag, entry) ∈ entries

/-- Registering changes neither what the registry is for nor that it is sorted. -/
theorem Sorted.registerAll (hr : r.Sorted) (h : r.registerAll entries = .ok s) :
    s.kind = r.kind ∧ s.Sorted := by
  induction entries generalizing r with
  | nil =>
    cases h
    exact ⟨rfl, hr⟩
  | cons e rest ih =>
    obtain ⟨tag, entry⟩ := e
    rw [registerAll_cons] at h
    by_cases htag : r.get? tag = none
    · rw [register_of_fresh htag] at h
      have hrest := ih (hr.replace tag entry) h
      exact hrest
    · rw [register_of_taken htag] at h
      cases h

theorem Sorted.gains (hr : r.Sorted) (h : r.registerAll entries = .ok s) : r.Gains entries s := by
  obtain ⟨hkind, hsorted⟩ := hr.registerAll h
  obtain ⟨hnodup, hfresh⟩ := Registry.exists_registerAll_iff.1 ⟨s, h⟩
  refine ⟨hkind, hsorted, fun tag entry => ?_⟩
  rw [get?_registerAll h hnodup, Option.or_eq_some_iff, Dict.lookup_eq_some_iff hnodup]
  constructor
  · rintro (hnew | ⟨-, hold⟩)
    · exact .inr hnew
    · exact .inl hold
  · rintro (hold | hnew)
    · refine .inr ⟨Option.eq_none_iff_forall_ne_some.2 fun new hnew => ?_, hold⟩
      have hmem := List.mem_map_of_mem (f := (·.1)) (mem_of_lookup_eq_some hnew)
      simp [hfresh tag hmem] at hold
    · exact .inl hnew

/-- There is only one such registry, and the order of the entries does not matter for it. -/
theorem Gains.unique {s' : Registry α} (h : r.Gains entries s) (h' : r.Gains others s')
    (hmem : ∀ e, e ∈ entries ↔ e ∈ others) : s = s' := by
  have hentries : s.entries = s'.entries := by
    refine Dict.ext_of_sorted h.sorted h'.sorted fun tag => Option.ext fun entry => ?_
    rw [← get?, ← get?, h.get?_iff, h'.get?_iff, hmem]
  have hkind : s.kind = s'.kind := h.kind.trans h'.kind.symm
  cases s
  cases s'
  cases hentries
  cases hkind
  rfl

theorem Sorted.registerAll_of_perm (hr : r.Sorted) (hperm : entries.Perm others)
    (h : r.registerAll entries = .ok s) : r.registerAll others = .ok s := by
  have hnodup : (r.tagsWith others).Nodup :=
    ((hperm.map _).append_left _).nodup_iff.1 (hr.exists_registerAll_iff.1 ⟨s, h⟩)
  obtain ⟨s', h'⟩ := hr.exists_registerAll_iff.2 hnodup
  rw [h', (hr.gains h).unique (hr.gains h') fun e => hperm.mem_iff]

/-- Entries may be registered in any order. -/
theorem Sorted.registerAll_perm (hr : r.Sorted) (hperm : entries.Perm others) :
    r.registerAll entries = .ok s ↔ r.registerAll others = .ok s :=
  ⟨hr.registerAll_of_perm hperm, hr.registerAll_of_perm hperm.symm⟩

end Registry

/-! ## Both registries -/

namespace Extension

/-- All expressions that extensions contribute, in order. -/
def allResolvers (extensions : List Extension) : List (String × Resolver) :=
  extensions.flatMap (·.resolvers)

/-- All steps that extensions contribute, in order. -/
def allSteps (extensions : List Extension) : List (String × StepHandler) :=
  extensions.flatMap (·.steps)

end Extension

namespace Capabilities

open Extension

variable {base c : Capabilities} {e : Extension} {extensions others : List Extension}
  {fault : Fault}

/-- Both registries have their entries in the order of their tags. -/
structure Sorted (c : Capabilities) : Prop where
  resolvers : c.resolvers.Sorted
  steps : c.steps.Sorted

theorem extend_eq_ok_iff :
    extend base e = .ok c ↔ base.resolvers.registerAll e.resolvers = .ok c.resolvers ∧
      base.steps.registerAll e.steps = .ok c.steps := by
  simp only [extend, bind_eq_ok_iff]
  constructor
  · rintro ⟨resolvers, hresolvers, steps, hsteps, h⟩
    cases h
    exact ⟨hresolvers, hsteps⟩
  · rintro ⟨hresolvers, hsteps⟩
    exact ⟨_, hresolvers, _, hsteps, rfl⟩

theorem compose_cons (base : Capabilities) (e : Extension) (rest : List Extension) :
    compose base (e :: rest) = extend base e >>= fun c => compose c rest :=
  List.foldlM_cons

theorem compose_append (base : Capabilities) (extensions more : List Extension) :
    compose base (extensions ++ more) = compose base extensions >>= fun c => compose c more :=
  List.foldlM_append

/-- Although they are filled in turn, each registry becomes what it becomes by itself. -/
theorem compose_eq_ok_iff :
    compose base extensions = .ok c ↔
      base.resolvers.registerAll (allResolvers extensions) = .ok c.resolvers ∧
        base.steps.registerAll (allSteps extensions) = .ok c.steps := by
  induction extensions generalizing base with
  | nil =>
    constructor
    · intro h
      cases h
      exact ⟨rfl, rfl⟩
    · rintro ⟨hresolvers, hsteps⟩
      cases base
      cases c
      cases hresolvers
      cases hsteps
      rfl
  | cons e rest ih =>
    simp only [compose_cons, bind_eq_ok_iff, extend_eq_ok_iff, ih, allResolvers, allSteps,
      List.flatMap_cons, Registry.registerAll_append]
    constructor
    · rintro ⟨next, ⟨hresolvers, hsteps⟩, hresolvers', hsteps'⟩
      exact ⟨⟨_, hresolvers, hresolvers'⟩, _, hsteps, hsteps'⟩
    · rintro ⟨⟨resolvers, hresolvers, hresolvers'⟩, steps, hsteps, hsteps'⟩
      exact ⟨⟨resolvers, steps⟩, ⟨hresolvers, hsteps⟩, hresolvers', hsteps'⟩

theorem exists_compose_iff :
    (∃ c, compose base extensions = .ok c) ↔
      (∃ r, base.resolvers.registerAll (allResolvers extensions) = .ok r) ∧
        ∃ s, base.steps.registerAll (allSteps extensions) = .ok s := by
  simp only [compose_eq_ok_iff]
  constructor
  · rintro ⟨c, hresolvers, hsteps⟩
    exact ⟨⟨_, hresolvers⟩, _, hsteps⟩
  · rintro ⟨⟨r, hresolvers⟩, s, hsteps⟩
    exact ⟨⟨r, s⟩, hresolvers, hsteps⟩

/-- The first fault is one of the two registries. -/
theorem error_of_compose (h : compose base extensions = .error fault) :
    base.resolvers.registerAll (allResolvers extensions) = .error fault ∨
      base.steps.registerAll (allSteps extensions) = .error fault := by
  induction extensions generalizing base with
  | nil => cases h
  | cons e rest ih =>
    simp only [allResolvers, allSteps, List.flatMap_cons, Registry.registerAll_append,
      bind_eq_error_iff]
    rcases bind_eq_error_iff.1 (compose_cons base e rest ▸ h) with h | ⟨next, hnext, h⟩
    · rcases bind_eq_error_iff.1 h with h | ⟨r, -, h⟩
      · exact .inl (.inl h)
      · rcases bind_eq_error_iff.1 h with h | ⟨s, -, h⟩
        · exact .inr (.inl h)
        · cases h
    · obtain ⟨hresolvers, hsteps⟩ := extend_eq_ok_iff.1 hnext
      exact (ih h).imp (fun h => .inr ⟨_, hresolvers, h⟩) fun h => .inr ⟨_, hsteps, h⟩

/-- Extensions go with sorted capabilities exactly if no tag comes twice among all expressions nor
among all steps, and otherwise the fault names one that does. Then both registries have what they
had and every contribution under its tag, and nothing else. The extensions may come in any order,
and some of them may be added later. -/
theorem compose_laws (h : base.Sorted) (extensions : List Extension) :
    ((∃ c, compose base extensions = .ok c) ↔
      (base.resolvers.tagsWith (allResolvers extensions)).Nodup ∧
        (base.steps.tagsWith (allSteps extensions)).Nodup) ∧
    (∀ c, compose base extensions = .ok c →
      base.resolvers.Gains (allResolvers extensions) c.resolvers ∧
        base.steps.Gains (allSteps extensions) c.steps) ∧
    (∀ fault, compose base extensions = .error fault →
      base.resolvers.Repeats (allResolvers extensions) fault ∨
        base.steps.Repeats (allSteps extensions) fault) ∧
    (∀ others, extensions.Perm others → ∀ c,
      compose base extensions = .ok c ↔ compose base others = .ok c) ∧
    ∀ more, compose base (extensions ++ more) =
      compose base extensions >>= fun c => compose c more := by
  refine ⟨?_, fun c hc => ?_, fun fault hfault => ?_, fun others hperm c => ?_,
    compose_append base extensions⟩
  · rw [exists_compose_iff, h.resolvers.exists_registerAll_iff, h.steps.exists_registerAll_iff]
  · obtain ⟨hresolvers, hsteps⟩ := compose_eq_ok_iff.1 hc
    exact ⟨h.resolvers.gains hresolvers, h.steps.gains hsteps⟩
  · exact (error_of_compose hfault).imp h.resolvers.repeats h.steps.repeats
  · have hresolvers : (allResolvers extensions).Perm (allResolvers others) := hperm.flatMap_right _
    have hsteps : (allSteps extensions).Perm (allSteps others) := hperm.flatMap_right _
    rw [compose_eq_ok_iff, compose_eq_ok_iff, h.resolvers.registerAll_perm hresolvers,
      h.steps.registerAll_perm hsteps]

/-- An extension with an expression and a step of one name. -/
def answering (answer : Resolver) : Extension where
  resolvers := [("answer", answer)]
  steps := [("answer", Step.stop)]

theorem compose_laws_answering :
    let answer : Resolver := fun _ _ => return .number 42.0
    let quiet : Extension := ⟨[], []⟩
    table.Sorted ∧
      (∃ c, compose table [answering answer, quiet] = .ok c ∧
        compose table [quiet, answering answer] = .ok c ∧
        c.resolvers.get? "answer" = some answer ∧ c.steps.get? "answer" = some Step.stop) ∧
      ¬ ∃ c, compose table [answering answer, quiet, answering answer] = .ok c := by
  intro answer quiet
  have hsorted : table.Sorted := by constructor <;> decide
  obtain ⟨hexists, hgains, -, hperm, -⟩ := compose_laws hsorted [answering answer, quiet]
  obtain ⟨c, hc⟩ := hexists.2 (by decide)
  obtain ⟨hresolvers, hsteps⟩ := hgains c hc
  refine ⟨hsorted, ⟨c, hc, (hperm _ (.swap ..) c).1 hc, ?_, ?_⟩, ?_⟩
  · exact (hresolvers.get?_iff _ _).2 (.inr (List.mem_singleton_self _))
  · exact (hsteps.get?_iff _ _).2 (.inr (List.mem_singleton_self _))
  · rw [(compose_laws hsorted _).1]
    decide

end Capabilities

end CardPress
