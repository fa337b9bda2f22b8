import CardPress.Calc
import CardPress.Proofs.Value.Documents

/-!
# Round trips through JSON text

What a calculation writes as JSON text another one reads back. A text is read as the document that
was written if containers nest no deeper than the reader allows, and nothing is lost between a value
and its document but handles and numbers that are not finite.

## Main definitions

* `Value.nesting` — how deep the containers of a value nest.

## Main results

* `Value.nesting_toJson` — a value and its document nest alike.
* `Calc.loads_dumps` — the value that is read equals the one that was written.
-/

namespace CardPress

namespace Value

mutual

/-- How many containers contain one another. -/
def nesting : Value → ℕ
  | .sequence items => itemsNesting items + 1
  | .mapping ⟨entries⟩ => entriesNesting entries + 1
  | _ => 0

def itemsNesting : List Value → ℕ
  | [] => 0
  | v :: rest => max v.nesting (itemsNesting rest)

def entriesNesting : List (String × Value) → ℕ
  | [] => 0
  | (_, v) :: rest => max v.nesting (entriesNesting rest)

end

theorem nesting_numberToJson (x : Float) : (numberToJson x).nesting = 0 := by
  cases hx : Double.isFinite x with
  | false => simp [numberToJson_of_not_finite hx, Json.nesting]
  | true => obtain ⟨n, -, -, hjson⟩ | hjson := numberToJson_cases hx <;> simp [hjson, Json.nesting]

theorem itemsNesting_map_toJson {items : List Value}
    (h : ∀ v ∈ items, v.toJson.nesting = v.nesting) :
    Json.itemsNesting (items.map toJson) = itemsNesting items := by
  induction items with
  | nil => rfl
  | cons v rest ih =>
    rw [List.forall_mem_cons] at h
    rw [List.map_cons, Json.itemsNesting, itemsNesting, h.1, ih h.2]

theorem membersNesting_map_entryToJson {entries : List (String × Value)}
    (h : ∀ e ∈ entries, e.2.toJson.nesting = e.2.nesting) :
    Json.membersNesting (entries.map entryToJson) = entriesNesting entries := by
  induction entries with
  | nil => rfl
  | cons e rest ih =>
    rw [List.forall_mem_cons] at h
    rw [List.map_cons, entryToJson, Json.membersNesting, entriesNesting, h.1, ih h.2]

/-- The containers of a value are those of its document. -/
theorem nesting_toJson (v : Value) : v.toJson.nesting = v.nesting := by
  induction v using contents_induction with
  | holding v ih =>
    cases v with
    | null | bool | string | image | font => rfl
    | number x => exact nesting_numberToJson x
    | sequence items =>
      have hitems : Json.itemsNesting (items.map toJson) = itemsNesting items :=
        itemsNesting_map_toJson ih
      rw [toJson_sequence, Json.nesting, nesting, hitems]
    | mapping fields =>
      have hentries := membersNesting_map_entryToJson (List.forall_mem_map.1 ih)
      rw [toJson_mapping, Json.nesting, nesting, hentries]

/-- Nothing is lost of a value that a document can hold. -/
theorem identical_ofJson_toJson {v : Value} (h : v.Loaded) :
    identical (ofJson v.toJson) v = true := by
  rw [identical_iff_toJson_eq (loaded_ofJson (numbersFit_toJson h)) h, toJson_ofJson_toJson]
  exact canonical_toJson h.ordered

/-- The text of such a value is read as its document. -/
theorem read_text_toJson {v : Value} (h : v.Loaded) (hnesting : v.nesting ≤ Json.maxDepth) :
    Json.read v.toJson.text = .ok v.toJson :=
  Json.read_text (numbersFit_toJson h) (by rwa [nesting_toJson])

end Value

namespace Calc

theorem calculate_dumps (v : Value) :
    calculate "json.dumps" [v] = .ok (.string v.toJson.text) :=
  rfl

theorem calculate_loads {t : String} {j : Json} (h : Json.read t = .ok j) :
    calculate "json.loads" [.string t] = .ok (Value.ofJson j) := by
  have hload : loadJson (.string t) = .ok (Value.ofJson j) := by
    have hstring : (Value.string t).readString "json.loads" = .ok t := rfl
    simp only [loadJson, hstring, bind, Except.bind, h]
    rfl
  show (loadJson (.string t)).mapError (named "json.loads") = _
  rw [hload]
  rfl

/-- A value without handles, with finite numbers and with containers at most 127 deep is written as
a text, the text is read, and what is read equals the value. -/
theorem loads_dumps (v : Value.Ordered) (hhandle : v.value.Throughout (¬ ·.IsHandle))
    (hfinite : v.value.Throughout (¬ ·.IsNonFinite)) (hnesting : v.value.nesting ≤ 127) :
    ∃ t w, calculate "json.dumps" [v.value] = .ok (.string t) ∧
      calculate "json.loads" [.string t] = .ok w ∧ Value.identical w v.value = true := by
  have hloaded := v.loaded hhandle hfinite
  refine ⟨v.value.toJson.text, Value.ofJson v.value.toJson, calculate_dumps v.value, ?_, ?_⟩
  · exact calculate_loads (Value.read_text_toJson hloaded hnesting)
  · exact Value.identical_ofJson_toJson hloaded

/-! ### A value that nests as deep as is allowed -/

open Value (Ordered)

/-- A value within as many sequences. -/
def wrapped (v : Ordered) : ℕ → Ordered
  | 0 => v
  | n + 1 => .sequence [wrapped v n]

theorem value_wrapped_succ (v : Ordered) (n : ℕ) :
    (wrapped v (n + 1)).value = .sequence [(wrapped v n).value] :=
  rfl

theorem nesting_wrapped (v : Ordered) (n : ℕ) :
    (wrapped v n).value.nesting = n + v.value.nesting := by
  induction n with
  | zero => exact (Nat.zero_add _).symm
  | succ n ih =>
    rw [value_wrapped_succ, Value.nesting, Value.itemsNesting, Value.itemsNesting, ih]
    omega

theorem throughout_wrapped {p : Value → Prop} {v : Ordered} (h : v.value.Throughout p)
    (hsequence : ∀ items, p (.sequence items)) (n : ℕ) : (wrapped v n).value.Throughout p := by
  induction n with
  | zero => exact h
  | succ n ih =>
    rw [value_wrapped_succ, Value.throughout_sequence]
    exact ⟨hsequence _, by simpa using ih⟩

/-- A control character, a quote and a character beyond the first plane in a key and a string, the
first whole number that is written as a fraction, a negative zero and a number with an exponent. -/
def motto : Ordered :=
  .mapping [("", .sequence [.number 9007199254740992.0, .number (-0.0), .number 1e-7]),
    ("\x01\"😀", .string "\x7f\\😀\n")]

/-- What holds of mappings and of the kinds of parts that the motto has holds throughout. -/
theorem throughout_wrapped_motto {p : Value → Prop} (hmapping : ∀ fields, p (.mapping fields))
    (hsequence : ∀ items, p (.sequence items)) (hstring : ∀ s, p (.string s))
    (hnumber : ∀ x, Double.isFinite x = true → p (.number x)) (n : ℕ) :
    (wrapped motto n).value.Throughout p := by
  have hatom {x : Float} (h : Double.isFinite x = true) : (Value.number x).Throughout p :=
    Value.throughout_of_atom rfl (hnumber x h)
  have hvalue : motto.value =
      .mapping ⟨[("", .sequence [.number 9007199254740992.0, .number (-0.0), .number 1e-7]),
        ("\x01\"😀", .string "\x7f\\😀\n")]⟩ :=
    Ordered.value_mapping (List.pairwise_pair.2 (by decide : "" < "\x01\"😀"))
  have hmembers : motto.value.Throughout p := by
    rw [hvalue, Value.throughout_mapping]
    refine ⟨hmapping _, ?_⟩
    simp only [List.forall_mem_cons, Value.throughout_sequence]
    exact ⟨⟨hsequence _, hatom rfl, hatom rfl, hatom rfl, by simp⟩,
      Value.throughout_of_atom rfl (hstring _), by simp⟩
  exact throughout_wrapped hmembers hsequence n

theorem loads_dumps_wrapped :
    ((wrapped motto 125).value.Throughout (¬ ·.IsHandle) ∧
      (wrapped motto 125).value.Throughout (¬ ·.IsNonFinite) ∧
      (wrapped motto 125).value.nesting ≤ 127) ∧
    ∃ t w, calculate "json.dumps" [(wrapped motto 125).value] = .ok (.string t) ∧
      calculate "json.loads" [.string t] = .ok w ∧
      Value.identical w (wrapped motto 125).value = true := by
  have hhandle : (wrapped motto 125).value.Throughout (¬ ·.IsHandle) :=
    throughout_wrapped_motto (fun _ => id) (fun _ => id) (fun _ => id) (fun _ _ => id) 125
  have hfinite : (wrapped motto 125).value.Throughout (¬ ·.IsNonFinite) := by
    refine throughout_wrapped_motto (fun _ => id) (fun _ => id) (fun _ => id) (fun x hx => ?_) 125
    show ¬ Double.isFinite x = false
    rw [hx]
    decide
  have hnesting : (wrapped motto 125).value.nesting ≤ 127 := by
    rw [nesting_wrapped]
    decide
  exact ⟨⟨hhandle, hfinite, hnesting⟩, loads_dumps _ hhandle hfinite hnesting⟩

end Calc

end CardPress
