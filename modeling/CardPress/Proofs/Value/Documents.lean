import CardPress.Digest
import CardPress.Proofs.Value.Equality
import CardPress.Proofs.Value.Loaded

/-!
# Round trips of values

A value that is written as a document and read back is written as the same document again: what
could be lost has been lost the first time. Nothing is lost of a value without handles whose numbers
are finite. Equal values have one document, and with it one seed.

## Main definitions

* `Value.IsHandle`, `Value.IsNonFinite` — what a document cannot hold.

## Main results

* `Value.toJson_ofJson_toJson` — a document that has been read is written in canonical form.
* `Value.toJson_eq_of_identical` — equal values have one document.
* `Value.document_laws` — what a round trip keeps.
-/

namespace CardPress.Value

/-- An image or a font. -/
def IsHandle : Value → Prop
  | .image _ | .font _ => True
  | _ => False

/-- A number that is infinite or none. -/
def IsNonFinite : Value → Prop
  | .number x => Double.isFinite x = false
  | _ => False

variable {v w : Value}

/-! ## There and back -/

/-- Equal numbers become the same, also where they become null. -/
theorem numberToJson_eq_of_equal {x y : Float} (h : Double.equal x y = true) :
    numberToJson x = numberToJson y := by
  have hfinite : Double.isFinite x = Double.isFinite y := by
    rw [Double.isFinite, Double.magnitude_eq_of_equal h, Double.isFinite]
  cases hx : Double.isFinite x with
  | true => exact (numberToJson_eq_iff hx (hfinite ▸ hx)).2 h
  | false => rw [numberToJson_of_not_finite hx, numberToJson_of_not_finite (hfinite ▸ hx)]

theorem toJson_ofJson_numberToJson (x : Float) :
    (ofJson (numberToJson x)).toJson = numberToJson x := by
  cases hx : Double.isFinite x with
  | false =>
    rw [numberToJson_of_not_finite hx]
    rfl
  | true =>
    obtain ⟨n, hwhole, -, hjson⟩ | hjson := numberToJson_cases hx
    · -- The sign of a zero is lost here, and the document does not have it.
      have hback : numberToJson (Double.ofInt n) = numberToJson x :=
        numberToJson_eq_of_equal (Double.equal_ofInt hwhole)
      rw [hjson, ofJson, toJson, hback, hjson]
    · rw [hjson, ofJson, toJson, hjson]

/-- The document of what has been read from a document is the canonical form of that. -/
theorem toJson_ofJson_toJson (v : Value) : (ofJson v.toJson).toJson = v.toJson.canonical := by
  induction v using contents_induction with
  | holding v ih =>
    cases v with
    | null | bool | string | image | font => rfl
    | number x => exact (toJson_ofJson_numberToJson x).trans (canonical_numberToJson x).symm
    | sequence items =>
      rw [toJson_sequence, ofJson_array, toJson_sequence, Json.canonical_array, List.map_map,
        List.map_map, List.map_map]
      congr 1
      exact List.map_congr_left ih
    | mapping fields =>
      have hentries : (fields.entries.map entryToJson).map Json.canonicalMember =
          ((fields.entries.map entryToJson).map memberOfJson).map fun e => (e.1, e.2.toJson) := by
        rw [List.map_map, List.map_map, List.map_map]
        refine List.map_congr_left fun e he => congrArg (Prod.mk e.1) ?_
        exact (ih e.2 (List.mem_map_of_mem he)).symm
      rw [toJson_mapping, ofJson_object, toJson_mapping, Json.canonical_object, hentries,
        ← Dict.map_ofList]
      rfl

/-- A value that a document can hold. -/
theorem Ordered.loaded (v : Ordered) (hhandle : v.value.Throughout (¬ ·.IsHandle))
    (hfinite : v.value.Throughout (¬ ·.IsNonFinite)) : v.value.Loaded := by
  induction v using Ordered.induction with
  | holding v ih =>
    have hcontents : ∀ x ∈ v.value.contents, x.Loaded := fun x hx =>
      ih x hx (hhandle.of_mem_contents hx) (hfinite.of_mem_contents hx)
    obtain ⟨v, hv⟩ := v
    cases v with
    | null => exact .null
    | bool b => exact .bool b
    | number x => exact .number (Bool.not_eq_false _ ▸ hfinite.self)
    | string s => exact .string s
    | sequence items => exact .sequence hcontents
    | mapping fields => exact .mapping hv.self fun e he => hcontents e.2 (List.mem_map_of_mem he)
    | image i => exact absurd trivial hhandle.self
    | font f => exact absurd trivial hhandle.self

/-! ## Equal values -/

theorem map_eq_map_of_forall₂ {α β : Type} {f : α → β} {xs ys : List α}
    (h : List.Forall₂ (fun x y => f x = f y) xs ys) : xs.map f = ys.map f := by
  rw [← List.forall₂_eq_eq_eq, List.forall₂_map_left_iff, List.forall₂_map_right_iff]
  exact h

/-- Equal values have one document. -/
theorem toJson_eq_of_identical (h : identical v w = true) (hv : v.Throughout (¬ ·.IsHandle)) :
    v.toJson = w.toJson := by
  induction h using equalBy_induction with
  | number v w x y hvx hwy h =>
    cases v <;> cases hvx
    cases w <;> cases hwy
    exact numberToJson_eq_of_equal h
  | shape v w _ _ h =>
    have hcontents : SameShape (fun x y => x.toJson = y.toJson) v w :=
      h.mono fun x hx y _ hxy => hxy.choose_spec (hv.of_mem_contents hx)
    cases hcontents with
    | null | bool | string => rfl
    | sequence hitems => rw [toJson_sequence, toJson_sequence, map_eq_map_of_forall₂ hitems]
    | mapping hfields =>
      have hentries :=
        hfields.imp fun e f hef => (Prod.ext hef.1 hef.2 : entryToJson e = entryToJson f)
      rw [toJson_mapping, toJson_mapping, map_eq_map_of_forall₂ hentries]
    | image | font => exact absurd trivial hv.self

/-! ## Seeds -/

theorem seed_eq_of_canonical (h : v.toJson.canonical = w.toJson.canonical) : v.seed = w.seed := by
  rw [seed, seed, Json.canonicalText, Json.canonicalText, h]

/-- The seed of a value is kept, even of one that is not. -/
theorem seed_ofJson_toJson (v : Value) : (ofJson v.toJson).seed = v.seed := by
  refine seed_eq_of_canonical ?_
  rw [toJson_ofJson_toJson, Json.canonical_canonical]

/-- A document that was written is written again after reading; a value without handles and with
finite numbers equals what is read; equal values without handles have one document and one seed; and
no seed is changed by writing and reading. -/
theorem document_laws :
    (∀ v : Ordered, (ofJson v.value.toJson).toJson = v.value.toJson) ∧
    (∀ v : Ordered, v.value.Throughout (¬ ·.IsHandle) → v.value.Throughout (¬ ·.IsNonFinite) →
      identical (ofJson v.value.toJson) v.value = true) ∧
    (∀ v w : Value, v.Throughout (¬ ·.IsHandle) → identical v w = true →
      v.toJson = w.toJson ∧ v.seed = w.seed) ∧
    ∀ v : Value, (ofJson v.toJson).seed = v.seed := by
  have hagain (v : Ordered) : (ofJson v.value.toJson).toJson = v.value.toJson :=
    (toJson_ofJson_toJson v.value).trans (canonical_toJson v)
  refine ⟨hagain, fun v hhandle hfinite => ?_, fun v w hv h => ?_, seed_ofJson_toJson⟩
  · have hv := v.loaded hhandle hfinite
    exact (identical_iff_toJson_eq (loaded_ofJson (numbersFit_toJson hv)) hv).2 (hagain v)
  · have hjson := toJson_eq_of_identical h hv
    exact ⟨hjson, seed_eq_of_canonical (congrArg Json.canonical hjson)⟩

/-- A number before a list of others, the last of which is no longer written as a whole one. -/
def scores (x : Float) : Ordered :=
  .mapping [("best", .number x), ("rest", .sequence [.number 0.5, .number 9007199254740992.0])]

theorem document_laws_scores :
    (ofJson (scores Double.infinity).value.toJson).toJson = (scores Double.infinity).value.toJson ∧
    ((scores (-0.0)).value.Throughout (¬ ·.IsHandle) ∧
      (scores (-0.0)).value.Throughout (¬ ·.IsNonFinite) ∧
      identical (ofJson (scores (-0.0)).value.toJson) (scores (-0.0)).value = true) ∧
    (identical (scores (-0.0)).value (scores 0.0).value = true ∧
      (scores (-0.0)).value.toJson = (scores 0.0).value.toJson ∧
      (scores (-0.0)).value.seed = (scores 0.0).value.seed) ∧
    (ofJson (scores Double.infinity).value.toJson).seed = (scores Double.infinity).value.seed := by
  obtain ⟨hagain, hback, hsame, hseed⟩ := document_laws
  have hvalue (x : Float) : (scores x).value =
      .mapping
        ⟨[("best", .number x), ("rest", .sequence [.number 0.5, .number 9007199254740992.0])]⟩ :=
    Ordered.value_mapping (List.pairwise_pair.2 (by decide : "best" < "rest"))
  have hhandle (x : Float) : (scores x).value.Throughout (¬ ·.IsHandle) := by
    simp only [hvalue, throughout_mapping, throughout_sequence, List.forall_mem_cons]
    exact ⟨id, throughout_of_atom rfl id,
      ⟨id, throughout_of_atom rfl id, throughout_of_atom rfl id, by simp⟩, by simp⟩
  have hfinite : (scores (-0.0)).value.Throughout (¬ ·.IsNonFinite) := by
    have hnumber {x : Float} (h : ¬ Double.isFinite x = false) :
        (number x).Throughout (¬ ·.IsNonFinite) :=
      throughout_of_atom rfl h
    simp only [hvalue, throughout_mapping, throughout_sequence, List.forall_mem_cons]
    exact ⟨id, hnumber (by decide), ⟨id, hnumber (by decide), hnumber (by decide), by simp⟩,
      by simp⟩
  have hzeros : identical (scores (-0.0)).value (scores 0.0).value = true := by
    rw [hvalue, hvalue]
    decide
  exact ⟨hagain _, ⟨hhandle _, hfinite, hback _ (hhandle _) hfinite⟩,
    ⟨hzeros, hsame _ _ (hhandle _) hzeros⟩, hseed _⟩

end CardPress.Value
