import CardPress.Proofs.Json.Canonical
import CardPress.Proofs.Value.Parts
import CardPress.Value.Json
import CardPress.Value.Order

/-!
# Values from documents

A value that comes from a document has finite numbers, mappings in key order and no handles. Such
values are equal exactly if they become the same document, which is canonical as it is.

## Main definitions

* `Value.Loaded` — what a document is read as.

## Main results

* `Value.loaded_ofJson` — whatever numbers a document has that fit, its value is such.
* `Value.identical_iff_toJson_eq` — equality of values is equality of their documents.
-/

namespace CardPress.Value

/-- Finite numbers, mappings in key order and no handles, at every level. -/
inductive Loaded : Value → Prop
  | null : Loaded .null
  | bool (b : Bool) : Loaded (.bool b)
  | number {x : Float} (h : Double.isFinite x = true) : Loaded (.number x)
  | string (s : String) : Loaded (.string s)
  | sequence {items : List Value} (h : ∀ v ∈ items, Loaded v) : Loaded (.sequence items)
  | mapping {fields : Dict Value} (hsorted : fields.Sorted) (h : ∀ e ∈ fields.entries, Loaded e.2) :
      Loaded (.mapping fields)

variable {v w : Value}

theorem Loaded.inKeyOrder (h : v.Loaded) : v.Throughout InKeyOrder := by
  induction h with
  | sequence _ ih => exact throughout_sequence.2 ⟨trivial, ih⟩
  | mapping hsorted _ ih => exact throughout_mapping.2 ⟨hsorted, ih⟩
  | _ => exact throughout_of_atom rfl trivial

def Loaded.ordered (h : v.Loaded) : Ordered :=
  ⟨v, h.inKeyOrder⟩

/-! ## Documents of values -/

def entryToJson (e : String × Value) : String × Json :=
  (e.1, e.2.toJson)

theorem toJsonItems_eq_map (items : List Value) : toJsonItems items = items.map toJson := by
  induction items with
  | nil => rfl
  | cons v rest ih => rw [toJsonItems, ih, List.map_cons]

theorem toJsonEntries_eq_map (entries : List (String × Value)) :
    toJsonEntries entries = entries.map entryToJson := by
  induction entries with
  | nil => rfl
  | cons e rest ih => rw [toJsonEntries, ih, List.map_cons, entryToJson]

theorem toJson_sequence (items : List Value) :
    toJson (.sequence items) = .array (items.map toJson) := by
  rw [toJson, toJsonItems_eq_map]

theorem toJson_mapping (fields : Dict Value) :
    toJson (.mapping fields) = .object (fields.entries.map entryToJson) := by
  rw [toJson, toJsonEntries_eq_map]

/-- A number becomes a whole number or a fraction, either of which a document can hold. -/
theorem numberToJson_cases {x : Float} (h : Double.isFinite x = true) :
    (∃ n, Double.whole? x = some n ∧ n.natAbs < wholeNumberBound ∧ numberToJson x = .int n) ∨
      numberToJson x = .float x := by
  rw [numberToJson]
  cases Double.whole? x with
  | none => exact .inr (if_pos h)
  | some n =>
    by_cases hn : n.natAbs < wholeNumberBound
    · exact .inl ⟨n, rfl, hn, if_pos hn⟩
    · exact .inr (if_neg hn)

theorem numberToJson_of_not_finite {x : Float} (h : Double.isFinite x = false) :
    numberToJson x = .null := by
  have hdecode : Double.decode? x = none := by
    rw [Double.decode?, h, if_neg Bool.false_ne_true]
  rw [numberToJson, Double.whole?, hdecode, Option.bind_none, h]
  rfl

theorem ne_numberToJson {x : Float} (h : Double.isFinite x = true) {j : Json}
    (hint : ∀ n, j ≠ .int n) (hfloat : ∀ x, j ≠ .float x) : j ≠ numberToJson x := by
  obtain ⟨n, -, -, hjson⟩ | hjson := numberToJson_cases h
  · rw [hjson]
    exact hint n
  · rw [hjson]
    exact hfloat x

/-- Numbers are equal if they become the same. -/
theorem numberToJson_eq_iff {x y : Float} (hx : Double.isFinite x = true)
    (hy : Double.isFinite y = true) :
    numberToJson x = numberToJson y ↔ Double.equal x y = true := by
  rw [Double.equal_iff hx hy]
  constructor
  · intro h
    obtain ⟨n, hn, -, hxn⟩ | hxf := numberToJson_cases hx <;>
      obtain ⟨m, hm, -, hym⟩ | hyf := numberToJson_cases hy
    · rw [hxn, hym, Json.int.injEq] at h
      subst h
      obtain ⟨hmagnitude, hsame⟩ := Double.eq_of_whole hn hm
      by_cases hzero : n = 0
      · subst hzero
        exact .inr ⟨Double.whole?_eq_some_zero_iff.1 hn, Double.whole?_eq_some_zero_iff.1 hm⟩
      · exact .inl (hsame hzero)
    · rw [hxn, hyf] at h
      cases h
    · rw [hxf, hym] at h
      cases h
    · rw [hxf, hyf, Json.float.injEq] at h
      exact .inl h
  · rintro (rfl | ⟨hxzero, hyzero⟩)
    · rfl
    · have hjson : ∀ {z}, Double.magnitude z = 0 → numberToJson z = .int 0 := by
        intro z hz
        rw [numberToJson, Double.whole?_eq_some_zero_iff.2 hz]
        rfl
      rw [hjson hxzero, hjson hyzero]

theorem numbersFit_toJson (h : v.Loaded) : v.toJson.NumbersFit := by
  induction h with
  | null => exact .null
  | bool b => exact .bool b
  | @number x hx =>
    rw [toJson]
    obtain ⟨n, -, hn, hjson⟩ | hjson := numberToJson_cases hx
    · rw [hjson]
      refine .int ?_
      simp only [wholeNumberBound, Nat.pow_eq] at hn
      simp only [Json.holdsInt, Nat.pow_eq, Bool.and_eq_true, decide_eq_true_eq]
      omega
    · rw [hjson]
      exact .float hx
  | string s => exact .string s
  | sequence _ ih =>
    rw [toJson_sequence]
    exact .array (List.forall_mem_map.2 ih)
  | mapping _ _ ih =>
    rw [toJson_mapping]
    exact .object (List.forall_mem_map.2 ih)

theorem canonical_numberToJson (x : Float) : (numberToJson x).canonical = numberToJson x := by
  cases hx : Double.isFinite x with
  | false =>
    rw [numberToJson_of_not_finite hx]
    rfl
  | true =>
    obtain ⟨n, -, -, hjson⟩ | hjson := numberToJson_cases hx <;>
      · rw [hjson]
        rfl

/-- The document of a value in key order is canonical. -/
theorem canonical_toJson (v : Ordered) : v.value.toJson.canonical = v.value.toJson := by
  induction v using Ordered.induction with
  | holding v ih =>
    obtain ⟨v, hv⟩ := v
    cases v with
    | null | bool | string | image | font => rfl
    | number x => exact canonical_numberToJson x
    | sequence items =>
      rw [toJson_sequence, Json.canonical_array, List.map_map]
      congr 1
      exact List.map_congr_left ih
    | mapping fields =>
      have hmap : (fields.entries.map entryToJson).map Json.canonicalMember =
          fields.entries.map entryToJson := by
        rw [List.map_map]
        exact List.map_congr_left fun e he =>
          congrArg (Prod.mk e.1) (ih e.2 (List.mem_map_of_mem he))
      have hdict : Dict.Sorted ⟨fields.entries.map entryToJson⟩ :=
        List.Pairwise.map _ (fun _ _ => id) hv.self
      rw [toJson_mapping, Json.canonical_object, hmap, Dict.ofList_entries hdict]

/-! ## Equality -/

section

variable {vs ws : List Value} {es fs : List (String × Value)}

theorem equalItemsBy_iff
    (h : ∀ v ∈ vs, ∀ w ∈ ws, identical v w = true ↔ v.toJson = w.toJson) :
    equalItemsBy numberOnly? vs ws = true ↔ vs.map toJson = ws.map toJson := by
  induction vs generalizing ws with
  | nil => cases ws <;> simp [equalItemsBy]
  | cons v vs ih =>
    cases ws with
    | nil => simp [equalItemsBy]
    | cons w ws =>
      have hhead := h v List.mem_cons_self w List.mem_cons_self
      have htail :=
        ih fun v hv w hw => h v (List.mem_cons_of_mem _ hv) w (List.mem_cons_of_mem _ hw)
      rw [equalItemsBy, Bool.and_eq_true, htail, List.map_cons, List.map_cons, List.cons.injEq]
      exact and_congr_left fun _ => hhead

theorem equalEntriesBy_iff
    (h : ∀ e ∈ es, ∀ f ∈ fs, identical e.2 f.2 = true ↔ e.2.toJson = f.2.toJson) :
    equalEntriesBy numberOnly? es fs = true ↔ es.map entryToJson = fs.map entryToJson := by
  induction es generalizing fs with
  | nil => cases fs <;> simp [equalEntriesBy]
  | cons e es ih =>
    cases fs with
    | nil => simp [equalEntriesBy]
    | cons f fs =>
      have hhead := h e List.mem_cons_self f List.mem_cons_self
      have htail :=
        ih fun e he f hf => h e (List.mem_cons_of_mem _ he) f (List.mem_cons_of_mem _ hf)
      rw [equalEntriesBy, Bool.and_eq_true, Bool.and_eq_true, htail, beq_iff_eq, List.map_cons,
        List.map_cons, List.cons.injEq, entryToJson, entryToJson, Prod.mk.injEq]
      exact and_congr_left fun _ => and_congr_right fun _ => hhead

end

/-- Equality of values is equality of their documents. -/
theorem identical_iff_toJson_eq (hv : v.Loaded) (hw : w.Loaded) :
    identical v w = true ↔ v.toJson = w.toJson := by
  induction hv generalizing w with
  | null =>
    cases hw with
    | number hy =>
      simpa [identical, equalBy, numberOnly?, toJson] using ne_numberToJson hy (by simp) (by simp)
    | _ => simp [identical, equalBy, numberOnly?, toJson]
  | bool b =>
    cases hw with
    | number hy =>
      simpa [identical, equalBy, numberOnly?, toJson] using ne_numberToJson hy (by simp) (by simp)
    | _ => simp [identical, equalBy, numberOnly?, toJson]
  | number hx =>
    cases hw with
    | number hy => simpa [identical, equalBy, numberOnly?, toJson] using
        (numberToJson_eq_iff hx hy).symm
    | _ => simpa [identical, equalBy, numberOnly?, toJson] using
        (ne_numberToJson hx (by simp) (by simp)).symm
  | string s =>
    cases hw with
    | number hy =>
      simpa [identical, equalBy, numberOnly?, toJson] using ne_numberToJson hy (by simp) (by simp)
    | _ => simp [identical, equalBy, numberOnly?, toJson]
  | @sequence items _ ih =>
    cases hw with
    | @sequence others hothers =>
      rw [toJson_sequence, toJson_sequence, Json.array.injEq,
        ← equalItemsBy_iff fun v hv w hw => ih v hv (hothers w hw)]
      simp [identical, equalBy, numberOnly?]
    | number hy =>
      simpa [identical, equalBy, numberOnly?, toJson] using ne_numberToJson hy (by simp) (by simp)
    | _ => simp [identical, equalBy, numberOnly?, toJson]
  | @mapping fields _ _ ih =>
    cases hw with
    | @mapping others _ hothers =>
      rw [toJson_mapping, toJson_mapping, Json.object.injEq,
        ← equalEntriesBy_iff fun e he f hf => ih e he (hothers f hf)]
      obtain ⟨entries⟩ := fields
      obtain ⟨entries'⟩ := others
      simp [identical, equalBy, numberOnly?]
    | number hy =>
      simpa [identical, equalBy, numberOnly?, toJson] using ne_numberToJson hy (by simp) (by simp)
    | _ => simp [identical, equalBy, numberOnly?, toJson]

/-! ## Reading -/

def memberOfJson (m : String × Json) : String × Value :=
  (m.1, ofJson m.2)

theorem ofJson_array (items : List Json) :
    ofJson (.array items) = .sequence (items.map ofJson) := by
  rw [ofJson]
  congr 1
  induction items with
  | nil => rfl
  | cons j rest ih => rw [ofJsonItems, ih, List.map_cons]

theorem ofJson_object (members : List (String × Json)) :
    ofJson (.object members) = .mapping (Dict.ofList (members.map memberOfJson)) := by
  have hmembers : ofJsonMembers members = members.map memberOfJson := by
    induction members with
    | nil => rfl
    | cons m rest ih => rw [ofJsonMembers, ih, List.map_cons, memberOfJson]
  rw [ofJson, hmembers]

/-- What a document is read as. -/
theorem loaded_ofJson {j : Json} (h : j.NumbersFit) : (ofJson j).Loaded := by
  induction h with
  | null => exact .null
  | bool b => exact .bool b
  | @int n hn =>
    simp only [Json.holdsInt, Nat.pow_eq, Bool.and_eq_true, decide_eq_true_eq] at hn
    exact .number (Double.isFinite_ofInt (by omega))
  | float hx => exact .number hx
  | string s => exact .string s
  | array _ ih =>
    rw [ofJson_array]
    exact .sequence (List.forall_mem_map.2 ih)
  | object _ ih =>
    rw [ofJson_object]
    refine .mapping (Dict.sorted_ofList _) fun e he => ?_
    obtain ⟨m, hm, rfl⟩ := List.mem_map.1 (Dict.mem_entries_ofList he)
    exact ih m hm

end CardPress.Value
