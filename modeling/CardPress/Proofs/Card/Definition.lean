import CardPress.Deck
import CardPress.Proofs.Json.Reader
import CardPress.Proofs.Value.Loaded

/-!
# Card definitions and their canonical texts

A definition that comes from a file can be told by its canonical text: definitions have one such
text exactly if they are equal, field by field. Equal definitions declare equal faces.

## Main definitions

* `CardDefinition.Identical`, `CardFace.Identical` — equality field by field.
* `CardDefinition.Loaded` — steps and sizes are such as a file gives.

## Main results

* `CardDefinition.loaded_of_parse` — the definitions of a deck are such.
* `CardDefinition.canonicalText_eq_canonicalText_iff` — canonical texts are equal for equal
  definitions and no others.
-/

namespace CardPress

/-- Equality of faces, of steps by value. -/
structure CardFace.Identical (f g : CardFace) : Prop where
  serial : f.serial = g.serial
  label : f.label = g.label
  templates : f.templates = g.templates
  steps : Value.equalItemsBy Value.numberOnly? f.steps g.steps = true
  size : f.size = g.size
  isTemplate : f.isTemplate = g.isTemplate
  skipsGeneration : f.skipsGeneration = g.skipsGeneration

namespace CardDefinition

/-- Equality of definitions, of steps by value. -/
structure Identical (d e : CardDefinition) : Prop where
  label : d.label = e.label
  size : d.size = e.size
  templates : d.templates = e.templates
  template : d.template = e.template
  steps : Value.equalItemsBy Value.numberOnly? d.steps e.steps = true
  isTemplate : d.isTemplate = e.isTemplate
  skipsGeneration : d.skipsGeneration = e.skipsGeneration

/-- Equal definitions declare equal faces. -/
theorem Identical.face {d e : CardDefinition} (h : d.Identical e) (serial : ℕ) :
    (d.face serial).Identical (e.face serial) where
  serial := rfl
  label := h.label
  templates := by rw [CardDefinition.face, CardDefinition.face, h.templates, h.template]
  steps := h.steps
  size := h.size
  isTemplate := h.isTemplate
  skipsGeneration := h.skipsGeneration

/-! ## Loading -/

/-- Steps are values of documents, and sizes have 32 bits. -/
structure Loaded (d : CardDefinition) : Prop where
  steps : ∀ v ∈ d.steps, v.Loaded
  size : ∀ s, d.size = some s → s.width < 2 ^ 32 ∧ s.height < 2 ^ 32

section

variable {α : Type} {j : Json}

theorem exists_of_decodeList {item : Json → Except Mismatch α} {xs : List α}
    (h : decodeList item j = .ok xs) {x : α} (hx : x ∈ xs) :
    ∃ items j', j = .array items ∧ j' ∈ items ∧ item j' = .ok x := by
  cases j with
  | array items =>
    have hmap : items.mapM item = .ok xs := h
    clear h
    suffices ∃ j' ∈ items, item j' = .ok x by
      obtain ⟨j', hj', hok⟩ := this
      exact ⟨items, j', rfl, hj', hok⟩
    induction items generalizing xs with
    | nil =>
      cases hmap
      cases hx
    | cons k rest ih =>
      rw [List.mapM_cons] at hmap
      obtain ⟨y, hy, hmap⟩ := bind_eq_ok_iff.1 hmap
      obtain ⟨ys, hys, hmap⟩ := bind_eq_ok_iff.1 hmap
      cases hmap
      rcases List.mem_cons.1 hx with rfl | hx
      · exact ⟨k, List.mem_cons_self, hy⟩
      · obtain ⟨j', hj', hok⟩ := ih hx hys
        exact ⟨j', List.mem_cons_of_mem _ hj', hok⟩
  | _ => cases h

theorem lt_of_decodeNatural {n : ℕ} (h : decodeNatural j = .ok n) : n < 2 ^ 32 := by
  cases j with
  | int m =>
    simp only [decodeNatural, Nat.pow_eq] at h
    split_ifs at h with hm
    · cases h
      omega
    · cases h
  | _ => cases h

theorem lt_of_decodeSize {s : Size} (h : decodeSize j = .ok s) :
    s.width < 2 ^ 32 ∧ s.height < 2 ^ 32 := by
  obtain ⟨ns, hns, h⟩ := bind_eq_ok_iff.1 h
  have hlt : ∀ n ∈ ns, n < 2 ^ 32 := by
    intro n hn
    obtain ⟨-, j', -, -, hj'⟩ := exists_of_decodeList hns hn
    exact lt_of_decodeNatural hj'
  split at h
  · next w h' =>
    cases h
    simpa using hlt
  · cases h

theorem lt_of_decodeOption {s : Size} (h : decodeOption decodeSize j = .ok (some s)) :
    s.width < 2 ^ 32 ∧ s.height < 2 ^ 32 := by
  rw [decodeOption.eq_def] at h
  split at h
  · cases h
  · obtain ⟨t, ht, hst⟩ := bind_eq_ok_iff.1 ((map_eq_pure_bind some _).symm.trans h)
    cases hst
    exact lt_of_decodeSize ht

/-- Reading a field keeps what is known of the others. -/
theorem loaded_of_field {d d' : CardDefinition}
    {field : String × (CardDefinition → Json → Except Mismatch CardDefinition)}
    (hfield : field ∈ fields) (hd : d.Loaded) (hj : j.NumbersFit) (h : field.2 d j = .ok d') :
    d'.Loaded := by
  simp only [fields, List.mem_cons, List.not_mem_nil, or_false] at hfield
  rcases hfield with rfl | rfl | rfl | rfl | rfl | rfl | rfl <;>
    obtain ⟨x, hx, h⟩ := bind_eq_ok_iff.1 h <;> cases h
  · exact ⟨hd.steps, hd.size⟩
  · refine ⟨hd.steps, fun s hs => ?_⟩
    subst hs
    exact lt_of_decodeOption hx
  · exact ⟨hd.steps, hd.size⟩
  · exact ⟨hd.steps, hd.size⟩
  · refine ⟨fun v hv => ?_, hd.size⟩
    obtain ⟨items, j', rfl, hj', hok⟩ := exists_of_decodeList hx hv
    cases hok
    exact Value.loaded_ofJson (Json.numbersFit_array.1 hj _ hj')
  · exact ⟨hd.steps, hd.size⟩
  · exact ⟨hd.steps, hd.size⟩

theorem loaded_empty : empty.Loaded where
  steps := by simp [empty]
  size := by simp [empty]

theorem loaded_of_decodeMembers {d d' : CardDefinition} {seen : List String}
    {members : List (String × Json)} (hd : d.Loaded) (hmembers : ∀ m ∈ members, m.2.NumbersFit)
    (h : decodeMembers d seen members = .ok d') : d'.Loaded := by
  induction members generalizing d seen with
  | nil =>
    cases h
    exact hd
  | cons m rest ih =>
    obtain ⟨key, j⟩ := m
    obtain ⟨hj, hrest⟩ := List.forall_mem_cons.1 hmembers
    rw [decodeMembers] at h
    split at h
    · exact ih hd hrest h
    · next field hlookup =>
      split at h
      · cases h
      · obtain ⟨e, he, h⟩ := bind_eq_ok_iff.1 h
        exact ih (loaded_of_field (mem_of_lookup_eq_some hlookup) hd hj he) hrest h

theorem loaded_of_decodeItems {d d' : CardDefinition}
    {fs : List (String × (CardDefinition → Json → Except Mismatch CardDefinition))}
    {items : List Json} (hfs : ∀ f ∈ fs, f ∈ fields) (hd : d.Loaded)
    (hitems : ∀ j ∈ items, j.NumbersFit) (h : decodeItems d fs items = .ok d') : d'.Loaded := by
  induction items generalizing d fs with
  | nil =>
    rw [decodeItems] at h
    cases h
    exact hd
  | cons j rest ih =>
    obtain ⟨hj, hrest⟩ := List.forall_mem_cons.1 hitems
    cases fs with
    | nil => cases h
    | cons field fs =>
      obtain ⟨hfield, hfs⟩ := List.forall_mem_cons.1 hfs
      obtain ⟨e, he, h⟩ := bind_eq_ok_iff.1 h
      exact ih hfs (loaded_of_field hfield hd hj he) hrest h

theorem loaded_of_decode {d : CardDefinition} (hj : j.NumbersFit) (h : decode j = .ok d) :
    d.Loaded := by
  cases j with
  | object members => exact loaded_of_decodeMembers loaded_empty (Json.numbersFit_object.1 hj) h
  | array items =>
    exact loaded_of_decodeItems (fun _ => id) loaded_empty (Json.numbersFit_array.1 hj) h
  | _ => cases h

/-- The definitions of a deck are such as a file gives. -/
theorem loaded_of_parse {text : String} {deck : Deck} (h : Deck.parse text = .ok deck)
    {d : CardDefinition} (hd : d ∈ deck.definitions) : d.Loaded := by
  obtain ⟨j, hread, h⟩ := bind_eq_ok_iff.1 h
  obtain ⟨definitions, hdecode, h⟩ := bind_eq_ok_iff.1 h
  cases h
  have hread := mapError_eq_ok_iff.1 hread
  have hdecode := mapError_eq_ok_iff.1 hdecode
  obtain ⟨items, j', rfl, hj', hok⟩ := exists_of_decodeList hdecode hd
  exact loaded_of_decode (Json.numbersFit_array.1 (Json.numbersFit_of_readKnown hread) _ hj') hok

end

/-! ## Documents of definitions -/

variable {d e : CardDefinition}

def optional (s : Option String) : Json :=
  (s.map Json.string).getD .null

def sizeJson : Option Size → Json
  | some s => .array [.int s.width, .int s.height]
  | none => .null

theorem toJson_eq (d : CardDefinition) : d.toJson =
    .object ([("label", optional d.label), ("size", sizeJson d.size),
      ("templates", .array (d.templates.map .string))] ++
      (d.template.map fun t => ("template", Json.string t)).toList ++
      [("steps", .array (d.steps.map Value.toJson)), ("is_template", .bool d.isTemplate),
        ("do_skip_generation", .bool d.skipsGeneration)]) := by
  obtain ⟨label, size, templates, template, steps, isTemplate, skipsGeneration⟩ := d
  cases size <;> cases template <;> rfl

/-- What the document of a definition binds keys to. -/
theorem member?_toJson (d : CardDefinition) (k : String) : d.toJson.member? k =
    if k = "label" then some (optional d.label)
    else if k = "size" then some (sizeJson d.size)
    else if k = "templates" then some (.array (d.templates.map .string))
    else if k = "template" then d.template.map .string
    else if k = "steps" then some (.array (d.steps.map Value.toJson))
    else if k = "is_template" then some (.bool d.isTemplate)
    else if k = "do_skip_generation" then some (.bool d.skipsGeneration)
    else none := by
  rw [toJson_eq, Json.member?]
  cases d.template <;>
    simp only [Option.map_none, Option.map_some, Option.toList_none, Option.toList_some,
      List.cons_append, List.nil_append, List.append_nil, List.reverse_cons, List.reverse_nil,
      Dict.lookup_cons, List.lookup_nil] <;>
    split_ifs <;> simp_all

theorem numbersFit_optional (s : Option String) : (optional s).NumbersFit := by
  cases s with
  | none => exact .null
  | some s => exact .string s

theorem numbersFit_sizeJson {s : Option Size}
    (h : ∀ t, s = some t → t.width < 2 ^ 32 ∧ t.height < 2 ^ 32) : (sizeJson s).NumbersFit := by
  cases s with
  | none => exact .null
  | some t =>
    obtain ⟨hwidth, hheight⟩ := h t rfl
    simp only [sizeJson, Json.numbersFit_array, List.forall_mem_cons, Json.numbersFit_int,
      Json.holdsInt, Nat.pow_eq, Bool.and_eq_true, decide_eq_true_eq]
    refine ⟨by omega, by omega, by simp⟩

theorem numbersFit_toJson (hd : d.Loaded) : d.toJson.NumbersFit := by
  have htemplates : ∀ j ∈ d.templates.map Json.string, j.NumbersFit :=
    List.forall_mem_map.2 fun t _ => .string t
  have hsteps : ∀ j ∈ d.steps.map Value.toJson, j.NumbersFit :=
    List.forall_mem_map.2 fun v hv => Value.numbersFit_toJson (hd.steps v hv)
  rw [toJson_eq, Json.numbersFit_object]
  simp only [List.forall_mem_append, List.forall_mem_cons]
  refine ⟨⟨⟨numbersFit_optional _, numbersFit_sizeJson hd.size, .array htemplates, by simp⟩, ?_⟩,
    .array hsteps, .bool _, .bool _, by simp⟩
  cases d.template with
  | none => simp
  | some t => simpa using Json.NumbersFit.string t

theorem canonical_optional (s : Option String) : (optional s).canonical = optional s := by
  cases s <;> rfl

theorem optional_injective : Function.Injective optional := by
  rintro (_ | s) (_ | t) h <;> simp_all [optional]

theorem canonical_sizeJson (s : Option Size) : (sizeJson s).canonical = sizeJson s := by
  cases s <;> rfl

theorem sizeJson_injective : Function.Injective sizeJson := by
  rintro (_ | ⟨w, h⟩) (_ | ⟨w', h'⟩) heq <;> simp_all [sizeJson]

theorem map_toJson_eq_iff (hd : d.Loaded) (he : e.Loaded) :
    d.steps.map Value.toJson = e.steps.map Value.toJson ↔
      Value.equalItemsBy Value.numberOnly? d.steps e.steps = true :=
  (Value.equalItemsBy_iff fun v hv w hw =>
    Value.identical_iff_toJson_eq (hd.steps v hv) (he.steps w hw)).symm

theorem canonical_steps (hd : d.Loaded) :
    (Json.array (d.steps.map Value.toJson)).canonical = .array (d.steps.map Value.toJson) := by
  rw [Json.canonical_array, List.map_map]
  congr 1
  exact List.map_congr_left fun v hv => Value.canonical_toJson (hd.steps v hv).ordered

theorem canonical_templates (ts : List String) :
    (Json.array (ts.map .string)).canonical = .array (ts.map .string) := by
  rw [Json.canonical_array, List.map_map]
  rfl

/-- Canonical texts are equal for equal definitions and no others. -/
theorem canonicalText_eq_canonicalText_iff (hd : d.Loaded) (he : e.Loaded) :
    d.canonicalText = e.canonicalText ↔ d.Identical e := by
  constructor
  · intro h
    have hcanonical := (Json.canonicalText_eq_canonicalText_iff (numbersFit_toJson hd)
      (numbersFit_toJson he)).1 h
    have hbind : ∀ k, (d.toJson.member? k).map Json.canonical =
        (e.toJson.member? k).map Json.canonical :=
      Json.canonical_object_eq_iff.1 hcanonical
    have hlabel := hbind "label"
    have hsize := hbind "size"
    have htemplates := hbind "templates"
    have htemplate := hbind "template"
    have hsteps := hbind "steps"
    have hisTemplate := hbind "is_template"
    have hskips := hbind "do_skip_generation"
    simp only [member?_toJson, String.reduceEq, ↓reduceIte, Option.map_some, Option.map_map,
      Option.some.injEq, canonical_optional, canonical_sizeJson, canonical_templates,
      canonical_steps hd, canonical_steps he,
      Json.array.injEq] at hlabel hsize htemplates htemplate hsteps hisTemplate hskips
    exact {
      label := optional_injective hlabel
      size := sizeJson_injective hsize
      templates := List.map_injective_iff.2 (fun _ _ => Json.string.inj) htemplates
      template := Option.map_injective (fun _ _ => Json.string.inj) htemplate
      steps := (map_toJson_eq_iff hd he).1 hsteps
      isTemplate := Json.bool.inj hisTemplate
      skipsGeneration := Json.bool.inj hskips }
  · intro h
    have hsteps := (map_toJson_eq_iff hd he).2 h.steps
    rw [canonicalText, canonicalText, toJson, toJson, h.label, h.size, h.templates,
      h.template, hsteps, h.isTemplate, h.skipsGeneration]

end CardDefinition

end CardPress
