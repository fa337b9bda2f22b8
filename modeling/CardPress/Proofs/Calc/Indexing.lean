import CardPress.Proofs.Calc.Comparisons
import CardPress.Proofs.Calc.Integers

/-!
# Indexing and looking up

A sequence and a string are indexed by whole numbers, from the front or from the end; a mapping is
looked up by strings. What is contained in a sequence is what equals one of the items that indexing
gives, and what is contained in a mapping is what looking up gives something for.

## Main definitions

* `Value.parts?` — what an index picks from.
* `Calc.Indexed`, `Calc.LookedUp` — what the operations on containers give for one key.

## Main results

* `Calc.placeWith_eq_place` — the numbers that a place is looked for with fit.
* `Calc.getItem_eq_ok_iff` — which item an index picks.
* `Calc.containers_agree` — what the operations have to do with each other.
-/

namespace CardPress

/-- The items of a sequence, or the characters of a string. -/
def Value.parts? : Value → Option (List Value)
  | .sequence items => some items
  | .string s => some (s.toList.map fun c => .string (String.singleton c))
  | _ => none

namespace Calc

open Machine

variable {c key v item : Value} {parts items : List Value} {length i : ℕ} {n z : ℤ}

/-! ## Places -/

/-- A key stands for a place of so many, counted from the front or from the end. -/
def Names (key : Value) (length i : ℕ) : Prop :=
  key.whole? = some (i : ℤ) ∨ key.whole? = some (i - length : ℤ)

theorem wrapped_length (hlength : length < 2 ^ 63) : (wrapped 64 length).run = length :=
  wrapped_of_fits (by decide) (fits_64_iff.2 ⟨by omega, by omega⟩)

theorem confirms_place (length : ℕ) (n : ℤ) :
    Confirms (placeWith (checked 64) length n) (placeWith (wrapped 64) length n) := by
  unfold placeWith
  split
  · exact (checked_confirms_wrapped (by decide) _).bind fun _ => .pure _
  · exact .pure _

/-- The sum that a place is looked for with fits. -/
theorem placeWith_checked (hlength : length < 2 ^ 63) (hn : Fits 64 n) :
    placeWith (checked 64) length n =
      let i := if n < 0 then length + n else n
      some (if i < 0 ∨ length ≤ i then fail (.indexOutOfRange n length) else .ok i.toNat) := by
  have hsum (hneg : n < 0) : Fits 64 (length + n) := by
    rw [fits_64_iff] at hn ⊢
    omega
  rw [placeWith, wrapped_length hlength]
  split
  · next hneg => simp [checked_of_fits (hsum hneg)]
  · simp

theorem placeWith_eq_place (hlength : length < 2 ^ 63) (hn : Fits 64 n) :
    placeWith (checked 64) length n = some (place length n) := by
  have hplace := placeWith_checked hlength hn
  rw [hplace]
  exact congrArg some (confirms_place length n _ hplace).symm

theorem place_eq_ok_iff (hlength : length < 2 ^ 63) (hn : Fits 64 n) :
    place length n = .ok i ↔ i < length ∧ (n = i ∨ n = i - length) := by
  rw [← Option.some_inj, ← placeWith_eq_place hlength hn, placeWith_checked hlength hn,
    Option.some_inj]
  split_ifs <;> simp [fail] <;> omega

/-- A number that has to be clamped has no place, before and after. -/
theorem clamped_names (hlength : length < 2 ^ 63) (hi : i < length) :
    (clamped z = i ∨ clamped z = i - length) ↔ (z = i ∨ z = i - length) := by
  simp only [clamped, Double.leastInt64, Double.greatestInt64, Nat.pow_eq]
  omega

theorem integer_place_iff (hlength : length < 2 ^ 63) :
    (∃ n, integer key = .ok n ∧ place length n = .ok i) ↔ i < length ∧ Names key length i := by
  simp only [integer_eq_ok_iff, Names]
  constructor
  · rintro ⟨_, ⟨z, hz, rfl⟩, hplace⟩
    obtain ⟨hi, h⟩ := (place_eq_ok_iff hlength (fits_clamped z)).1 hplace
    rw [clamped_names hlength hi] at h
    simp only [hz, Option.some.injEq]
    exact ⟨hi, h⟩
  · have hplace {z : ℤ} (hi : i < length) (h : z = i ∨ z = i - length) :
        place length (clamped z) = .ok i :=
      (place_eq_ok_iff hlength (fits_clamped z)).2 ⟨hi, (clamped_names hlength hi).2 h⟩
    rintro ⟨hi, hz | hz⟩
    · exact ⟨_, ⟨_, hz, rfl⟩, hplace hi (.inl rfl)⟩
    · exact ⟨_, ⟨_, hz, rfl⟩, hplace hi (.inr rfl)⟩

/-- A double that stands for a place, from the end if the place is far from the front. -/
def indexOf (length i : ℕ) : Value :=
  .number (Double.ofInt (if i ≤ 2 ^ 53 then i else i - length))

theorem names_indexOf (hlength : length ≤ 2 ^ 54) (hi : i < length) :
    Names (indexOf length i) length i := by
  have hwhole {z : ℤ} (h : z.natAbs ≤ 2 ^ 53) : (Value.number (Double.ofInt z)).whole? = some z :=
    Double.whole?_ofInt h
  unfold indexOf
  -- Past `2 ^ 53` doubles leave numbers out, but such a place is close enough to the end.
  split
  · exact .inl (hwhole (by omega))
  · exact .inr (hwhole (by omega))

/-! ## Picking an item -/

theorem calculate_getItem : calculate "getitem" [c, key] = .ok v ↔ getItem c key = .ok v := by
  have hnamed : calculate "getitem" [c, key] = (getItem c key).mapError (named "getitem") := rfl
  rw [hnamed, mapError_eq_ok_iff]

theorem ofList_take_one_drop {chars : List Char} (h : i < chars.length) :
    String.ofList ((chars.drop i).take 1) = String.singleton chars[i] := by
  rw [List.drop_eq_getElem_cons h, List.take_succ_cons, List.take_zero, String.singleton_eq_ofList]

theorem lt_of_place (hlength : length < 2 ^ 63) (hn : integer key = .ok n)
    (hi : place length n = .ok i) : i < length := by
  obtain ⟨z, -, rfl⟩ := integer_eq_ok_iff.1 hn
  exact ((place_eq_ok_iff hlength (fits_clamped z)).1 hi).1

theorem getItem_eq_ok_iff_place (h : c.parts? = some parts) (hlength : parts.length < 2 ^ 63) :
    getItem c key = .ok v ↔
      ∃ n, integer key = .ok n ∧ ∃ i, place parts.length n = .ok i ∧ parts[i]? = some v := by
  cases c with
  | sequence items =>
    cases h
    simp only [getItem, bind_eq_ok_iff]
    refine exists_congr fun n => and_congr_right fun hn =>
      exists_congr fun i => and_congr_right fun hi => ?_
    have hlt := lt_of_place hlength hn hi
    simp [pure, Except.pure, List.getElem?_eq_getElem hlt]
  | string s =>
    cases h
    simp only [getItem, bind_eq_ok_iff]
    rw [List.length_map] at hlength ⊢
    refine exists_congr fun n => and_congr_right fun hn =>
      exists_congr fun i => and_congr_right fun hi => ?_
    have hlt := lt_of_place hlength hn hi
    rw [ofList_take_one_drop hlt]
    simp [pure, Except.pure, List.getElem?_eq_getElem hlt]
  | _ => cases h

/-- An index picks the item whose place it names. -/
theorem getItem_eq_ok_iff (h : c.parts? = some parts) (hlength : parts.length < 2 ^ 63) :
    calculate "getitem" [c, key] = .ok v ↔ ∃ i, Names key parts.length i ∧ parts[i]? = some v := by
  rw [calculate_getItem, getItem_eq_ok_iff_place h hlength]
  constructor
  · rintro ⟨n, hn, i, hi, hv⟩
    exact ⟨i, ((integer_place_iff hlength).1 ⟨n, hn, hi⟩).2, hv⟩
  · rintro ⟨i, hi, hv⟩
    have hlt := (List.getElem?_eq_some_iff.1 hv).1
    obtain ⟨n, hn, hplace⟩ := (integer_place_iff hlength).2 ⟨hlt, hi⟩
    exact ⟨n, hn, i, hplace, hv⟩

/-- What indexing with a key gives, which is never out of range nor in need of more than 64 bits. -/
structure Indexed (c : Value) (parts : List Value) (key : Value) : Prop where
  succeeds : (∃ v, calculate "getitem" [c, key] = .ok v) ↔
    ∃ n, key.whole? = some n ∧ -(parts.length : ℤ) ≤ n ∧ n < parts.length
  picks : ∀ i v, parts[i]? = some v → Names key parts.length i →
    calculate "getitem" [c, key] = .ok v
  fits : ∀ n, integer key = .ok n → (Fits 64 n ∧ Fits 64 parts.length) ∧
    placeWith (checked 64) parts.length n = some (place parts.length n) ∧
    ∀ i, place parts.length n = .ok i → i < parts.length

theorem exists_names_iff :
    (∃ i < length, Names key length i) ↔
      ∃ n, key.whole? = some n ∧ -(length : ℤ) ≤ n ∧ n < length := by
  constructor
  · rintro ⟨i, hi, hn | hn⟩
    · exact ⟨_, hn, by omega, by omega⟩
    · exact ⟨_, hn, by omega, by omega⟩
  · rintro ⟨n, hn, hlow, hhigh⟩
    rcases lt_or_ge n 0 with hneg | hpos
    · refine ⟨(n + length).toNat, by omega, .inr ?_⟩
      rw [hn, Option.some.injEq]
      omega
    · refine ⟨n.toNat, by omega, .inl ?_⟩
      rw [hn, Option.some.injEq]
      omega

theorem indexed (h : c.parts? = some parts) (hlength : parts.length < 2 ^ 63) (key : Value) :
    Indexed c parts key where
  succeeds := by
    simp only [getItem_eq_ok_iff h hlength, ← exists_names_iff]
    constructor
    · rintro ⟨v, i, hi, hv⟩
      exact ⟨i, (List.getElem?_eq_some_iff.1 hv).1, hi⟩
    · rintro ⟨i, hlt, hi⟩
      exact ⟨parts[i], i, hi, List.getElem?_eq_getElem hlt⟩
  picks i v hv hi := (getItem_eq_ok_iff h hlength).2 ⟨i, hi, hv⟩
  fits n hn := by
    obtain ⟨z, -, rfl⟩ := integer_eq_ok_iff.1 hn
    exact ⟨⟨fits_clamped z, fits_64_iff.2 ⟨by omega, by omega⟩⟩,
      placeWith_eq_place hlength (fits_clamped z), fun i hi => lt_of_place hlength hn hi⟩

theorem join_singletons (chars : List Char) :
    String.join (chars.map String.singleton) = String.ofList chars := by
  induction chars with
  | nil => rfl
  | cons c rest ih => rw [List.map_cons, String.join_cons, ih, String.ofList_cons]

/-- The characters of a string, picked one after the other, are the string. -/
theorem join_items {s : String} (hlength : s.length < 2 ^ 63) {keys : ℕ → Value}
    (hkeys : ∀ i < s.length, Names (keys i) s.length i) :
    ∃ picked : ℕ → String,
      (∀ i < s.length, calculate "getitem" [.string s, keys i] = .ok (.string (picked i))) ∧
      String.join ((List.range s.length).map picked) = s := by
  have hsame : s.toList.length = s.length := String.length_toList
  refine ⟨fun i => (s.toList.map String.singleton).getD i "", fun i hi => ?_, ?_⟩
  · have hparts : (Value.string s).parts? =
        some (s.toList.map fun c => .string (String.singleton c)) := rfl
    have hcount : (s.toList.map fun c => Value.string (String.singleton c)).length = s.length := by
      rw [List.length_map, hsame]
    refine (getItem_eq_ok_iff hparts (hcount ▸ hlength)).2 ⟨i, hcount ▸ hkeys i hi, ?_⟩
    rw [← hsame] at hi
    simp [hi]
  · have hchars : (List.range s.length).map (fun i => (s.toList.map String.singleton).getD i "") =
        s.toList.map String.singleton := by
      apply List.ext_getElem
      · simp [hsame]
      · intro i _ hi
        simp [List.getElem?_eq_getElem (List.length_map _ ▸ hi)]
    rw [hchars, join_singletons, String.ofList_toList]

/-! ## What is contained -/

theorem answers_contains {answer : Bool} (h : contains c item = .ok answer) :
    Answers "contains" c item answer := by
  have hnamed : calculate "contains" [c, item] =
      (contains c item >>= fun answer => .ok (.bool answer)).mapError (named "contains") := rfl
  rw [Answers, hnamed, h]
  rfl

theorem answers_eq_iff {a b : Value} {answer : Bool} :
    Answers "eq" a b answer ↔ Value.alike a b = answer := by
  have hnamed : calculate "eq" [a, b] = .ok (.bool (Value.alike a b)) := rfl
  rw [Answers, hnamed, Except.ok.injEq, Value.bool.injEq]

/-- A sequence contains what equals one of the items that an index picks. -/
theorem contains_sequence (hlength : items.length ≤ 2 ^ 54) (item : Value) :
    ∃ answer, Answers "contains" (.sequence items) item answer ∧
      (answer = true ↔ ∃ key v, calculate "getitem" [.sequence items, key] = .ok v ∧
        Answers "eq" v item true) := by
  refine ⟨_, answers_contains rfl, ?_⟩
  have hpicked (key v : Value) : calculate "getitem" [.sequence items, key] = .ok v ↔
      ∃ i, Names key items.length i ∧ items[i]? = some v := getItem_eq_ok_iff rfl (by omega)
  simp only [List.any_eq_true, hpicked, answers_eq_iff]
  constructor
  · rintro ⟨v, hv, heq⟩
    obtain ⟨i, hi, rfl⟩ := List.mem_iff_getElem.1 hv
    exact ⟨_, _, ⟨i, names_indexOf hlength hi, List.getElem?_eq_getElem hi⟩, heq⟩
  · rintro ⟨key, v, ⟨i, -, hv⟩, heq⟩
    exact ⟨v, List.mem_of_getElem? hv, heq⟩

/-! ## Looking up -/

theorem getItem_mapping_eq_ok_iff {fields : Mapping} :
    calculate "getitem" [.mapping fields, key] = .ok v ↔
      ∃ k, key.string? = some k ∧ fields.get? k = some v := by
  rw [calculate_getItem, getItem]
  cases key.string? with
  | none => simp [fail]
  | some k =>
    dsimp only
    cases hget : fields.get? k <;> simp [fail, hget]

/-- With a default for what is missing or without one. -/
theorem dictGet_eq {fields : Mapping} {rest : List Value} (hrest : rest.length ≤ 1) :
    calculate "dict.get" (.mapping fields :: key :: rest) =
      match key.string? with
      | some k => .ok ((fields.get? k).getD (rest.headD .null))
      | none => .error (.invalidParameter "dict.get" "string" key.kind.name) := by
  match rest with
  | [] | [_] =>
    have hnamed (args : List Value) :
        calculate "dict.get" args = (dictGet args).mapError (named "dict.get") :=
      rfl
    rw [hnamed]
    cases hkey : key.string? <;>
      simp [dictGet, arity, Value.readMapping, Value.readString, hkey, Value.invalid, bind,
        Except.bind, pure, Except.pure, Except.mapError, named]
  | _ :: _ :: _ => simp at hrest

/-- What containing and the two ways of looking up say of a key, the second way with or without a
value for what is missing. -/
structure LookedUp (fields : Mapping) (key : Value) (rest : List Value) : Prop where
  contains : ∃ answer, Answers "contains" (.mapping fields) key answer ∧
    (answer = true ↔ ∃ v, calculate "getitem" [.mapping fields, key] = .ok v)
  found : ∀ v, calculate "getitem" [.mapping fields, key] = .ok v →
    calculate "dict.get" (.mapping fields :: key :: rest) = .ok v
  missing : key.string?.isSome → (∀ v, calculate "getitem" [.mapping fields, key] ≠ .ok v) →
    calculate "dict.get" (.mapping fields :: key :: rest) = .ok (rest.headD .null)
  refused : key.string? = none → calculate "dict.get" (.mapping fields :: key :: rest) =
    .error (.invalidParameter "dict.get" "string" key.kind.name)

theorem lookedUp (fields : Mapping) (key : Value) {rest : List Value} (hrest : rest.length ≤ 1) :
    LookedUp fields key rest where
  contains := by
    refine ⟨_, answers_contains rfl, ?_⟩
    simp only [getItem_mapping_eq_ok_iff]
    cases key.string? <;> simp [Option.isSome_iff_exists]
  found v hv := by
    obtain ⟨k, hkey, hget⟩ := getItem_mapping_eq_ok_iff.1 hv
    rw [dictGet_eq hrest, hkey]
    simp only [hget, Option.getD_some]
  missing hkey hnever := by
    obtain ⟨k, hkey⟩ := Option.isSome_iff_exists.1 hkey
    rw [dictGet_eq hrest, hkey]
    cases hget : fields.get? k with
    | none => simp only [hget, Option.getD_none]
    | some v => exact absurd (getItem_mapping_eq_ok_iff.2 ⟨k, hkey, hget⟩) (hnever v)
  refused hkey := by rw [dictGet_eq hrest, hkey]

/-- A number picks from a sequence or a string if it is whole and in range, counted from the front
or from the end, and the characters of a string in their order are the string. A sequence contains
what equals one of the items that are picked; up to `2 ^ 54` items each has a double that picks it.
A mapping contains the keys that something is got for. Looking such a key up gives the same, another
key that is a string gives what is to stand for it, and a key that is no string is refused. -/
theorem containers_agree :
    (∀ (c : Value) (parts : List Value) (key : Value), c.parts? = some parts →
      parts.length < 2 ^ 63 → Indexed c parts key) ∧
    (∀ (s : String) (keys : ℕ → Value), s.length < 2 ^ 63 →
      (∀ i < s.length, Names (keys i) s.length i) →
      ∃ picked : ℕ → String,
        (∀ i < s.length, calculate "getitem" [.string s, keys i] = .ok (.string (picked i))) ∧
        String.join ((List.range s.length).map picked) = s) ∧
    (∀ (items : List Value) (item : Value), items.length ≤ 2 ^ 54 →
      ∃ answer, Answers "contains" (.sequence items) item answer ∧
        (answer = true ↔ ∃ key v, calculate "getitem" [.sequence items, key] = .ok v ∧
          Answers "eq" v item true)) ∧
    ∀ (fields : Mapping) (key : Value) (rest : List Value), rest.length ≤ 1 →
      LookedUp fields key rest :=
  ⟨fun _ _ key h hlength => indexed h hlength key, fun _ _ hlength => join_items hlength,
    fun _ item hlength => contains_sequence hlength item, fun fields key _ => lookedUp fields key⟩

/-- One field, whose name looks like a number. -/
def oneField : Mapping := ⟨[("1", .bool true)]⟩

theorem containers_agree_examples :
    (calculate "getitem" [.string "aé", .number (-1.0)] = .ok (.string "é") ∧
      calculate "getitem" [.string "aé", .number 1.0] = .ok (.string "é")) ∧
    (∀ x ∈ [0.5, 2.0, -3.0, Double.infinity, Double.ofInt (2 ^ 70)], ∀ v,
      calculate "getitem" [.string "aé", .number x] ≠ .ok v) ∧
    (∃ picked : ℕ → String,
      (∀ i < 2, calculate "getitem" [.string "aé", indexOf 2 i] = .ok (.string (picked i))) ∧
      String.join ((List.range 2).map picked) = "aé") ∧
    (∃ key v, calculate "getitem" [.sequence [.null, .bool true], key] = .ok v ∧
      Answers "eq" v (.number 1.0) true) ∧
    calculate "dict.get" [.mapping oneField, .string "1", .null] = .ok (.bool true) ∧
    calculate "dict.get" [.mapping oneField, .string "2", .number 2.0] = .ok (.number 2.0) ∧
    calculate "dict.get" [.mapping oneField, .bool true] =
      .error (.invalidParameter "dict.get" "string" "bool") := by
  obtain ⟨hindexed, hjoin, hsequence, hmapping⟩ := containers_agree
  have hpicks (x : Float) := hindexed (.string "aé") _ (.number x) rfl (by decide)
  refine ⟨⟨?_, ?_⟩, ?_, ?_, ?_, ?_, ?_, ?_⟩
  · exact (hpicks (-1.0)).picks 1 _ rfl (.inr (by decide))
  · exact (hpicks 1.0).picks 1 _ rfl (.inl (by decide))
  · intro x hx v hv
    obtain ⟨n, hn, hlow, hhigh⟩ := (hpicks x).succeeds.1 ⟨v, hv⟩
    have houtside : ∀ x ∈ [0.5, 2.0, -3.0, Double.infinity, Double.ofInt (2 ^ 70)],
        ∀ n ∈ Double.whole? x, n < -2 ∨ 2 ≤ n := by decide
    have hn' := houtside x hx n hn
    change -2 ≤ n at hlow
    change n < 2 at hhigh
    omega
  · exact hjoin "aé" (indexOf 2) (by decide) fun i hi => names_indexOf (by decide) hi
  · obtain ⟨answer, hanswer, h⟩ := hsequence [.null, .bool true] (.number 1.0) (by decide)
    have htrue : Answers "contains" (.sequence [.null, .bool true]) (.number 1.0) true :=
      answers_contains (congrArg Except.ok (by decide))
    cases hanswer.symm.trans htrue
    exact h.1 rfl
  · exact (hmapping oneField (.string "1") [.null] (by decide)).found _
      (getItem_mapping_eq_ok_iff.2 ⟨"1", rfl, rfl⟩)
  · refine (hmapping oneField (.string "2") [.number 2.0] (by decide)).missing rfl ?_
    intro v hv
    obtain ⟨k, hk, hget⟩ := getItem_mapping_eq_ok_iff.1 hv
    cases hk
    cases hget
  · exact (hmapping oneField (.bool true) [] (by decide)).refused rfl

/-- A key that is not contained is refused, although there is something that was to stand for it. -/
theorem dictGet_number :
    Answers "contains" (.mapping oneField) (.number 1.0) false ∧
      (∀ v, calculate "getitem" [.mapping oneField, .number 1.0] ≠ .ok v) ∧
      calculate "dict.get" [.mapping oneField, .number 1.0, .number 2.0] ≠ .ok (.number 2.0) ∧
      calculate "dict.get" [.mapping oneField, .number 1.0, .number 2.0] =
        .error (.invalidParameter "dict.get" "string" "number") := by
  have hrefused :=
    (lookedUp oneField (.number 1.0) (Nat.le_refl [Value.number 2.0].length)).refused rfl
  refine ⟨answers_contains rfl, ?_, ?_, hrefused⟩
  · intro v hv
    obtain ⟨k, hk, -⟩ := getItem_mapping_eq_ok_iff.1 hv
    cases hk
  · rw [hrefused]
    simp

end Calc

end CardPress
