import CardPress.Press
import CardPress.Proofs.Dict
import CardPress.Proofs.Outcome

/-!
# What the standard capabilities are

Registering entries one after the other gives a registry that finds each of them under its tag, so
the standard capabilities are the tables of standard expressions and steps.
-/

namespace CardPress

variable {α : Type}

theorem Registry.get?_registerAll {r r' : Registry α} {entries : List (String × α)}
    (h : r.registerAll entries = .ok r') (hd : (entries.map (·.1)).Nodup) (tag : String) :
    r'.get? tag = (entries.lookup tag).or (r.get? tag) := by
  induction entries generalizing r with
  | nil =>
    cases h
    simp
  | cons e rest ih =>
    obtain ⟨k, entry⟩ := e
    obtain ⟨first, hfirst, hrest⟩ := bind_eq_ok_iff.1 h
    obtain ⟨hfresh, hd⟩ := List.nodup_cons.1 hd
    rw [ih hrest hd, get?_register hfirst]
    by_cases ht : tag = k
    · subst ht
      have hnone : rest.lookup tag = none := by
        refine List.lookup_eq_none_iff.2 fun p hp => ?_
        have hne : tag ≠ p.1 := fun heq => hfresh (List.mem_map.2 ⟨p, hp, heq.symm⟩)
        simpa using hne
      simp [hnone]
    · simp [ht, List.lookup_cons, beq_eq_false_iff_ne.2 ht]

/-- The registry with another entry under a tag. -/
def Registry.replace (r : Registry α) (tag : String) (entry : α) : Registry α :=
  { r with entries := r.entries.insert tag entry }

theorem Registry.get?_replace (r : Registry α) (tag : String) (entry : α) (k : String) :
    (r.replace tag entry).get? k = if k = tag then some entry else r.get? k :=
  Dict.get?_insert r.entries tag k entry

theorem Dict.get?_erase (d : Dict α) (key k : String) :
    (d.erase key).get? k = if k = key then none else d.get? k := by
  obtain ⟨entries⟩ := d
  simp only [erase, get?]
  induction entries with
  | nil => simp
  | cons e rest ih =>
    obtain ⟨own, value⟩ := e
    grind

/-- A dictionary without keys is empty. -/
theorem Dict.eq_empty_of_contains {α : Type} {d : Dict α} (h : ∀ key, d.contains key = false) :
    d = ∅ := by
  obtain ⟨entries⟩ := d
  cases entries with
  | nil => rfl
  | cons e rest =>
    have hfirst := h e.1
    simp [get?] at hfirst

/-- The registry without what it has under a tag. -/
def Registry.remove (r : Registry α) (tag : String) : Registry α :=
  { r with entries := r.entries.erase tag }

theorem Registry.get?_remove (r : Registry α) (tag k : String) :
    (r.remove tag).get? k = if k = tag then none else r.get? k :=
  Dict.get?_erase r.entries tag k

namespace Capabilities

/-- The standard capabilities go together, and are found by their tags. -/
theorem standard_get? {c : Capabilities} (h : standard = .ok c) :
    (∀ tag, c.resolvers.get? tag = Expression.standard.resolvers.lookup tag) ∧
      ∀ tag, c.steps.get? tag = Step.standard.steps.lookup tag := by
  obtain ⟨c₁, h₁, h⟩ := bind_eq_ok_iff.1 h
  obtain ⟨c₂, h₂, h⟩ := bind_eq_ok_iff.1 h
  cases h
  obtain ⟨r₁, hr₁, h₁⟩ := bind_eq_ok_iff.1 h₁
  obtain ⟨s₁, hs₁, h₁⟩ := bind_eq_ok_iff.1 h₁
  cases h₁
  obtain ⟨r₂, hr₂, h₂⟩ := bind_eq_ok_iff.1 h₂
  obtain ⟨s₂, hs₂, h₂⟩ := bind_eq_ok_iff.1 h₂
  cases h₂
  cases hs₁
  cases hr₂
  constructor
  · intro tag
    rw [Registry.get?_registerAll hr₁ (by decide)]
    simp [empty, Registry.new, Registry.get?]
  · intro tag
    rw [Registry.get?_registerAll hs₂ (by decide)]
    simp [empty, Registry.new, Registry.get?]

theorem mem_standard_resolvers {c : Capabilities} (h : standard = .ok c) {tag : String}
    {resolver : Resolver} (hget : c.resolvers.get? tag = some resolver) :
    (tag, resolver) ∈ Expression.standard.resolvers :=
  mem_of_lookup_eq_some (((standard_get? h).1 tag).symm.trans hget)

theorem mem_standard_steps {c : Capabilities} (h : standard = .ok c) {tag : String}
    {handler : StepHandler} (hget : c.steps.get? tag = some handler) :
    (tag, handler) ∈ Step.standard.steps :=
  mem_of_lookup_eq_some (((standard_get? h).2 tag).symm.trans hget)

open Expression Step in
/-- The standard capabilities, written out. -/
def table : Capabilities where
  resolvers := ⟨"resolver", ⟨[
    ("blank_image", blankImage), ("cached", cached), ("calc", calculation),
    ("card_dim", cardDimension), ("config", config), ("font", font),
    ("image_from_file", imageFromFile), ("image_from_template", imageFromTemplate),
    ("mapped", mapped), ("parent", parent), ("seeded", seeded), ("self", self),
    ("text_bbox", textBox), ("text_length", textLength), ("working_image", workingImage)]⟩⟩
  steps := ⟨"step handler", ⟨[
    ("cancel", cancel), ("paste_image", pasteImage), ("save", save), ("stop", stop),
    ("write_text", writeText), ("write_to_cache", writeToCache)]⟩⟩

theorem standard_eq_table : standard = .ok table := rfl

end Capabilities

/-- A press with the standard capabilities and the standard configuration. -/
def Press.ofPool (pool : TemplatePool) : Press :=
  ⟨Capabilities.table, pool, .standard⟩

end CardPress
