import CardPress.Digest
import CardPress.Proofs.Dict
import CardPress.Proofs.Json.Documents

/-!
# Canonical texts

Two documents have one canonical text exactly if one is the other with the members of its objects in
another order. Canonical texts are read as documents that are canonical already.

## Main definitions

* `Json.KeysApart` — every object has each of its keys once.
* `Json.Reordered` — equality up to the order of members.

## Main results

* `Json.canonical_eq_iff` — canonical forms are equal for reordered documents and no others.
* `Json.canonicalText_eq_iff` — the same for canonical texts.
* `Json.canonical_canonical` — a canonical form is its own.
-/

namespace CardPress.Json

/-- Every object has each of its keys once, at every level. -/
inductive KeysApart : Json → Prop
  | null : KeysApart .null
  | bool (b : Bool) : KeysApart (.bool b)
  | int (n : ℤ) : KeysApart (.int n)
  | float (x : Float) : KeysApart (.float x)
  | string (s : String) : KeysApart (.string s)
  | array {items : List Json} (h : ∀ j ∈ items, KeysApart j) : KeysApart (.array items)
  | object {members : List (String × Json)} (hkeys : (members.map (·.1)).Nodup)
      (h : ∀ m ∈ members, KeysApart m.2) : KeysApart (.object members)

/-- What a document can be that is held as a value: numbers fit, and keys do not repeat. -/
structure Valid (j : Json) : Prop where
  numbersFit : j.NumbersFit
  keysApart : j.KeysApart

/-- Equality up to the order of members, at every level: objects have the same keys and alike values
for each of them. -/
inductive Reordered : Json → Json → Prop
  | null : Reordered .null .null
  | bool (b : Bool) : Reordered (.bool b) (.bool b)
  | int (n : ℤ) : Reordered (.int n) (.int n)
  | float (x : Float) : Reordered (.float x) (.float x)
  | string (s : String) : Reordered (.string s) (.string s)
  | array {xs ys : List Json} (hlength : xs.length = ys.length)
      (hitems : ∀ p ∈ xs.zip ys, Reordered p.1 p.2) : Reordered (.array xs) (.array ys)
  | object {ms ns : List (String × Json)} (hkeys : (ms.map (·.1)).Perm (ns.map (·.1)))
      (hvalues : ∀ k a b, (k, a) ∈ ms → (k, b) ∈ ns → Reordered a b) :
      Reordered (.object ms) (.object ns)

variable {a b j : Json} {items xs ys : List Json} {members ms ns : List (String × Json)}

theorem keysApart_array : KeysApart (.array items) ↔ ∀ j ∈ items, KeysApart j :=
  ⟨fun h => by cases h; assumption, .array⟩

theorem keysApart_object : KeysApart (.object members) ↔
    (members.map (·.1)).Nodup ∧ ∀ m ∈ members, KeysApart m.2 :=
  ⟨fun h => by cases h; exact ⟨by assumption, by assumption⟩, fun h => .object h.1 h.2⟩

/-! ## Canonical forms -/

def canonicalMember (m : String × Json) : String × Json :=
  (m.1, m.2.canonical)

theorem canonical_array (items : List Json) :
    canonical (.array items) = .array (items.map canonical) := by
  rw [canonical]
  congr 1
  induction items with
  | nil => rfl
  | cons j rest ih => rw [canonicalItems, ih, List.map_cons]

theorem canonical_object (members : List (String × Json)) :
    canonical (.object members) = .object (Dict.ofList (members.map canonicalMember)).entries := by
  have hmembers : canonicalMembers members = members.map canonicalMember := by
    induction members with
    | nil => rfl
    | cons m rest ih => rw [canonicalMembers, ih, List.map_cons, canonicalMember]
  rw [canonical, hmembers]

/-- What is in a canonical object has been a member of the object. -/
theorem exists_of_mem_canonical {m : String × Json}
    (h : m ∈ (Dict.ofList (members.map canonicalMember)).entries) :
    ∃ m' ∈ members, m = canonicalMember m' := by
  obtain ⟨m', hm', rfl⟩ := List.mem_map.1 (Dict.mem_entries_ofList h)
  exact ⟨m', hm', rfl⟩

theorem member?_eq_some_iff (hkeys : (members.map (·.1)).Nodup) {k : String} :
    member? (.object members) k = some j ↔ (k, j) ∈ members := by
  rw [member?, Dict.lookup_eq_some_iff (by rw [List.map_reverse]; exact List.nodup_reverse.2 hkeys),
    List.mem_reverse]

/-- A canonical object binds a key to the canonical form of what the object binds it to. -/
theorem get?_canonical (members : List (String × Json)) (k : String) :
    (Dict.ofList (members.map canonicalMember)).get? k =
      (member? (.object members) k).map canonical := by
  rw [Dict.get?_ofList, member?, ← List.map_reverse]
  induction members.reverse with
  | nil => rfl
  | cons m rest ih =>
    rw [List.map_cons, canonicalMember, Dict.lookup_cons, Dict.lookup_cons, ih]
    split <;> rfl

/-- Canonical objects are equal if they bind each key to the same. -/
theorem canonical_object_eq_iff : canonical (.object ms) = canonical (.object ns) ↔
    ∀ k, (member? (.object ms) k).map canonical = (member? (.object ns) k).map canonical := by
  rw [canonical_object, canonical_object, Json.object.injEq]
  constructor
  · intro h k
    rw [← get?_canonical, ← get?_canonical, Dict.get?, Dict.get?, h]
  · intro h
    refine congrArg Dict.entries (Dict.ext_of_sorted (Dict.sorted_ofList _) (Dict.sorted_ofList _)
      fun k => ?_)
    rw [get?_canonical, get?_canonical, h]

theorem canonical_eq_of_reordered (h : Reordered a b) (ha : a.KeysApart) (hb : b.KeysApart) :
    a.canonical = b.canonical := by
  induction h with
  | null | bool | int | float | string => rfl
  | @array xs ys hlength hitems ih =>
    have ha := keysApart_array.1 ha
    have hb := keysApart_array.1 hb
    rw [canonical_array, canonical_array]
    congr 1
    refine List.ext_getElem (by simpa using hlength) fun i hx hy => ?_
    rw [List.length_map] at hx hy
    rw [List.getElem_map, List.getElem_map]
    have hmem : (xs[i], ys[i]) ∈ xs.zip ys := by
      rw [← List.getElem_zip (h := by simp [hx, hy])]
      exact List.getElem_mem _
    exact ih _ hmem (ha _ (List.getElem_mem hx)) (hb _ (List.getElem_mem hy))
  | @object ms ns hkeys hvalues ih =>
    obtain ⟨hms, ha⟩ := keysApart_object.1 ha
    obtain ⟨hns, hb⟩ := keysApart_object.1 hb
    refine canonical_object_eq_iff.2 fun k => Option.ext fun v => ?_
    simp only [Option.map_eq_some_iff, member?_eq_some_iff hms, member?_eq_some_iff hns]
    have hother : ∀ {k}, (∃ a, (k, a) ∈ ms) ↔ ∃ b, (k, b) ∈ ns := by
      intro k
      simpa using hkeys.mem_iff (a := k)
    constructor
    · rintro ⟨a, hm, rfl⟩
      obtain ⟨b, hn⟩ := hother.1 ⟨a, hm⟩
      exact ⟨b, hn, (ih k a b hm hn (ha _ hm) (hb _ hn)).symm⟩
    · rintro ⟨b, hn, rfl⟩
      obtain ⟨a, hm⟩ := hother.2 ⟨b, hn⟩
      exact ⟨a, hm, ih k a b hm hn (ha _ hm) (hb _ hn)⟩

section

variable (hms : (ms.map (·.1)).Nodup) (hns : (ns.map (·.1)).Nodup)
  (h : canonical (.object ms) = canonical (.object ns))

include hms hns h

/-- Objects with one canonical form have members with the same keys and canonical forms. -/
theorem exists_mem_iff_of_canonical_eq (k : String) (v : Json) :
    (∃ a, (k, a) ∈ ms ∧ a.canonical = v) ↔ ∃ b, (k, b) ∈ ns ∧ b.canonical = v := by
  simp only [← member?_eq_some_iff hms, ← member?_eq_some_iff hns, ← Option.map_eq_some_iff,
    canonical_object_eq_iff.1 h k]

theorem perm_keys_of_canonical_eq : (ms.map (·.1)).Perm (ns.map (·.1)) := by
  have hmembers := exists_mem_iff_of_canonical_eq hms hns h
  refine (List.perm_ext_iff_of_nodup hms hns).2 fun k => ?_
  simp only [List.mem_map, Prod.exists, exists_and_right, exists_eq_right]
  constructor
  · rintro ⟨a, hm⟩
    obtain ⟨b, hn, -⟩ := (hmembers k _).1 ⟨a, hm, rfl⟩
    exact ⟨b, hn⟩
  · rintro ⟨b, hn⟩
    obtain ⟨a, hm, -⟩ := (hmembers k _).2 ⟨b, hn, rfl⟩
    exact ⟨a, hm⟩

theorem canonical_eq_of_mem {k : String} (hm : (k, a) ∈ ms) (hn : (k, b) ∈ ns) :
    a.canonical = b.canonical := by
  obtain ⟨b', hn', hcanonical⟩ := (exists_mem_iff_of_canonical_eq hms hns h k _).1 ⟨a, hm, rfl⟩
  cases ((member?_eq_some_iff hns).2 hn').symm.trans ((member?_eq_some_iff hns).2 hn)
  exact hcanonical.symm

end

/-- A canonical form tells what a document is. -/
theorem reordered_of_canonical_eq (h : a.canonical = b.canonical) (ha : a.KeysApart)
    (hb : b.KeysApart) : Reordered a b := by
  induction a generalizing b with
  | null =>
    cases b <;> simp [canonical] at h
    exact .null
  | bool x =>
    cases b <;> simp [canonical] at h
    exact h ▸ .bool x
  | int n =>
    cases b <;> simp [canonical] at h
    exact h ▸ .int n
  | float x =>
    cases b <;> simp [canonical] at h
    exact h ▸ .float x
  | string s =>
    cases b <;> simp [canonical] at h
    exact h ▸ .string s
  | array xs ih =>
    cases b with
    | array ys =>
      rw [canonical_array, canonical_array, Json.array.injEq] at h
      have hlength : xs.length = ys.length := by
        simpa using congrArg List.length h
      refine .array hlength fun p hp => ?_
      obtain ⟨i, hi, rfl⟩ := List.mem_iff_getElem.1 hp
      rw [List.length_zip, lt_min_iff] at hi
      have hitem : xs[i].canonical = ys[i].canonical := by
        simpa [hi.1, hi.2] using congrArg (fun items => items[i]?) h
      rw [List.getElem_zip]
      exact ih _ (List.getElem_mem hi.1) hitem (keysApart_array.1 ha _ (List.getElem_mem hi.1))
        (keysApart_array.1 hb _ (List.getElem_mem hi.2))
    | null | bool | int | float | string | object => simp [canonical] at h
  | object ms ih =>
    cases b with
    | object ns =>
      obtain ⟨hms, ha⟩ := keysApart_object.1 ha
      obtain ⟨hns, hb⟩ := keysApart_object.1 hb
      refine .object (perm_keys_of_canonical_eq hms hns h) fun k a b hm hn => ?_
      exact ih _ hm (canonical_eq_of_mem hms hns h hm hn) (ha _ hm) (hb _ hn)
    | null | bool | int | float | string | array => simp [canonical] at h

/-- Canonical forms are equal for reordered documents and no others. -/
theorem canonical_eq_iff (ha : a.KeysApart) (hb : b.KeysApart) :
    a.canonical = b.canonical ↔ Reordered a b :=
  ⟨fun h => reordered_of_canonical_eq h ha hb, fun h => canonical_eq_of_reordered h ha hb⟩

/-- Members in another order. -/
theorem reordered_of_perm (h : KeysApart (.object ms)) (hperm : ms.Perm ns) :
    Reordered (.object ms) (.object ns) := by
  obtain ⟨hms, hvalues⟩ := keysApart_object.1 h
  refine .object (hperm.map _) fun k a b hm hn => ?_
  have hsame := (member?_eq_some_iff hms).2 (hperm.mem_iff.2 hn)
  cases ((member?_eq_some_iff hms).2 hm).symm.trans hsame
  exact (canonical_eq_iff (hvalues _ hm) (hvalues _ hm)).1 rfl

/-- A canonical form is its own. -/
theorem canonical_canonical (j : Json) : j.canonical.canonical = j.canonical := by
  induction j with
  | null | bool | int | float | string => rfl
  | array items ih =>
    rw [canonical_array, canonical_array, List.map_map]
    congr 1
    exact List.map_congr_left ih
  | object members ih =>
    rw [canonical_object, canonical_object]
    have hmap : (Dict.ofList (members.map canonicalMember)).entries.map canonicalMember =
        (Dict.ofList (members.map canonicalMember)).entries := by
      refine (List.map_congr_left fun m hm => ?_).trans (List.map_id _)
      obtain ⟨m, hmem, rfl⟩ := exists_of_mem_canonical hm
      exact congrArg (Prod.mk m.1) (ih m hmem)
    rw [hmap, Dict.ofList_entries (Dict.sorted_ofList _)]

theorem numbersFit_canonical (h : j.NumbersFit) : j.canonical.NumbersFit := by
  induction j with
  | null | bool | int | float | string => exact h
  | array items ih =>
    rw [canonical_array, numbersFit_array, List.forall_mem_map]
    exact fun j hj => ih j hj (numbersFit_array.1 h j hj)
  | object members ih =>
    rw [canonical_object, numbersFit_object]
    intro m hm
    obtain ⟨m, hmem, rfl⟩ := exists_of_mem_canonical hm
    exact ih m hmem (numbersFit_object.1 h m hmem)

theorem nesting_canonical_le (j : Json) : j.canonical.nesting ≤ j.nesting := by
  induction j with
  | null | bool | int | float | string => exact le_rfl
  | array items ih =>
    rw [canonical_array]
    refine Nat.succ_le_succ (itemsNesting_le_iff.2 (List.forall_mem_map.2 fun j hj => ?_))
    exact (ih j hj).trans (itemsNesting_le_iff.1 le_rfl j hj)
  | object members ih =>
    rw [canonical_object]
    refine Nat.succ_le_succ (membersNesting_le_iff.2 fun m hm => ?_)
    obtain ⟨m, hmem, rfl⟩ := exists_of_mem_canonical hm
    exact (ih m hmem).trans (membersNesting_le_iff.1 le_rfl m hmem)

/-! ## Canonical texts -/

theorem canonicalText_eq_canonicalText_iff (ha : a.NumbersFit) (hb : b.NumbersFit) :
    a.canonicalText = b.canonicalText ↔ a.canonical = b.canonical :=
  ⟨text_injective (numbersFit_canonical ha) (numbersFit_canonical hb), congrArg text⟩

/-- Canonical texts are equal for reordered documents and no others. -/
theorem canonicalText_eq_iff (ha : a.Valid) (hb : b.Valid) :
    a.canonicalText = b.canonicalText ↔ Reordered a b := by
  rw [canonicalText_eq_canonicalText_iff ha.numbersFit hb.numbersFit,
    canonical_eq_iff ha.keysApart hb.keysApart]

/-- A canonical text is read as a document that has it for its canonical text. -/
theorem read_canonicalText (h : j.NumbersFit) (hdepth : j.nesting ≤ maxDepth) :
    read j.canonicalText = .ok j.canonical ∧ j.canonical.canonicalText = j.canonicalText :=
  ⟨read_text (numbersFit_canonical h) ((nesting_canonical_le j).trans hdepth),
    congrArg text (canonical_canonical j)⟩

end CardPress.Json
