import CardPress.Proofs.Calc.Integers
import CardPress.Proofs.Number.Literals
import CardPress.Proofs.Text.Trimming

/-!
# Whole numbers and their text

A whole number below `2 ^ 53` is written with digits alone, and a text of digits is read as the
number. From there on a whole number is written like a fraction, with a point or a power of ten, and
no such text is read as a whole number.

## Main results

* `Calc.exists_mark_text` — from `2 ^ 53` on there is a point or a power of ten.
* `Calc.int_str` — what reading the text of a whole number gives.
-/

namespace CardPress

variable {x : Float} {n : ℤ} {t : String}

/-- What has places or a power of ten shows it. -/
theorem Json.Spells.exists_mark {s : Json.Spelling} {d : Decimal} (h : Json.Spells s d) :
    ∃ c ∈ s.chars, c = '.' ∨ c = 'e' := by
  obtain ⟨whole, fraction, exponent⟩ := s
  cases fraction with
  | some ds => exact ⟨'.', by simp [Json.Spelling.chars, Json.Spelling.fractionChars], .inl rfl⟩
  | none =>
    cases exponent with
    | some e => exact ⟨'e', by simp [Json.Spelling.chars, Json.Spelling.exponentChars], .inr rfl⟩
    | none => cases h.fractional

namespace Calc

/-! ## Writing -/

theorem calculate_str (v : Value) : calculate "str" [v] = .ok (.string v.text) := rfl

theorem text_of_small (hx : Double.whole? x = some n) (hn : n.natAbs < 2 ^ 53) :
    (Value.number x).text = toString n := by
  have hbound : n.natAbs < wholeNumberBound := hn
  rw [Value.text, Value.toJson, Value.numberToJson, hx]
  dsimp only
  rw [if_pos hbound, Json.text]
  all_goals simp

theorem text_of_large (hx : Double.whole? x = some n) (hn : 2 ^ 53 ≤ n.natAbs) :
    (Value.number x).text = Json.floatText x := by
  have hbound : ¬ n.natAbs < wholeNumberBound := Nat.not_lt.2 hn
  rw [Value.text, Value.toJson, Value.numberToJson, hx]
  dsimp only
  rw [if_neg hbound, Json.text]
  all_goals simp

/-- From `2 ^ 53` on there is a point or a power of ten. -/
theorem exists_mark_text (hx : Double.whole? x = some n) (hn : 2 ^ 53 ≤ n.natAbs) :
    ∃ c ∈ (Value.number x).text.toList, c = '.' ∨ c = 'e' := by
  obtain ⟨b, hdecode, -⟩ := Option.bind_eq_some_iff.1 hx
  have hshortest : Double.shortest? x = some (Decimal.shortest .double b.mantissa b.exponent) := by
    rw [Double.shortest?, hdecode, Option.map_some]
  obtain ⟨s, hs, hchars⟩ := Json.exists_spelling (Decimal.shortest .double b.mantissa b.exponent)
  obtain ⟨c, hc, hmark⟩ := hs.exists_mark
  refine ⟨c, ?_, hmark⟩
  rw [text_of_large hx hn, Json.floatText_eq hshortest]
  split
  · rw [String.toList_append, hchars]
    exact List.mem_append_right _ hc
  · rwa [hchars]

/-! ## Reading -/

theorem calculate_int (v : Value) :
    calculate "int" [v] = (toInteger v).mapError (named "int") :=
  rfl

theorem calculate_int_string (t : String) :
    calculate "int" [.string t] =
      match Literal.integer? (Text.trim t) with
      | some n => .ok (.number (Double.ofInt n))
      | none => .error (.calculation "int" (.badInteger t)) := by
  rw [calculate_int, toInteger]
  cases Literal.integer? (Text.trim t) <;> rfl

theorem trim_toString (n : ℤ) : Text.trim (toString n) = toString n := by
  refine Text.trim_of_forall fun c hc => ?_
  rw [Json.toList_toString, List.mem_append] at hc
  rcases hc with hc | hc
  · split at hc
    · cases List.mem_singleton.1 hc
      rfl
    · cases hc
  · exact Text.isBlank_of_isDigit ((Json.areDigits_toDigits _).isDigit c hc)

/-- The digits of a number that fits are read as it. -/
theorem int_toString (hn : n.natAbs < 2 ^ 53) :
    calculate "int" [.string (toString n)] = .ok (.number (Double.ofInt n)) := by
  have hread : Literal.integer? (toString n) = some n := by
    apply Literal.integer?_toString <;>
      simp only [Double.leastInt64, Double.greatestInt64, Nat.pow_eq] <;> omega
  rw [calculate_int_string, trim_toString, hread]

/-- A point or a power of ten is no part of a whole number. -/
theorem int_of_mark {c : Char} (hc : c ∈ t.toList) (hmark : c = '.' ∨ c = 'e') :
    calculate "int" [.string t] = .error (.calculation "int" (.badInteger t)) := by
  have hblank : Text.isBlank c = false := by
    rcases hmark with rfl | rfl <;> rfl
  have htrim : c ∈ (Text.trim t).toList := by
    rw [Text.trim, String.toList_ofList]
    exact Text.mem_trimChars hc hblank
  have hread : Literal.integer? (Text.trim t) = none := by
    apply Literal.integer?_eq_none htrim <;> rcases hmark with rfl | rfl <;> decide
  rw [calculate_int_string, hread]

/-! ## Both -/

/-- The text of a whole number below `2 ^ 53` is read as the number. The text of a larger one is
refused, for the point or the power of ten in it. -/
theorem int_str (hx : Double.whole? x = some n) :
    ∃ t, calculate "str" [.number x] = .ok (.string t) ∧
      (n.natAbs < 2 ^ 53 → calculate "int" [.string t] = .ok (.number (Double.ofInt n)) ∧
        Double.whole? (Double.ofInt n) = some n) ∧
      (2 ^ 53 ≤ n.natAbs → (∃ c ∈ t.toList, c = '.' ∨ c = 'e') ∧
        calculate "int" [.string t] = .error (.calculation "int" (.badInteger t))) := by
  refine ⟨(Value.number x).text, calculate_str _, fun hn => ?_, fun hn => ?_⟩
  · rw [text_of_small hx hn]
    exact ⟨int_toString hn, Double.whole?_ofInt hn.le⟩
  · obtain ⟨c, hc, hmark⟩ := exists_mark_text hx hn
    exact ⟨⟨c, hc, hmark⟩, int_of_mark hc hmark⟩

/-- The greatest number that is read back, and the first below zero that is not. -/
theorem int_str_edges :
    Double.whole? 9007199254740991.0 = some 9007199254740991 ∧
      (∃ t, calculate "str" [.number 9007199254740991.0] = .ok (.string t) ∧
        calculate "int" [.string t] = .ok (.number (Double.ofInt 9007199254740991))) ∧
      Double.whole? (-9007199254740992.0) = some (-9007199254740992) ∧
      ∃ t, calculate "str" [.number (-9007199254740992.0)] = .ok (.string t) ∧
        calculate "int" [.string t] = .error (.calculation "int" (.badInteger t)) := by
  have hlast : Double.whole? 9007199254740991.0 = some 9007199254740991 := by decide
  have hnext : Double.whole? (-9007199254740992.0) = some (-9007199254740992) := by decide
  obtain ⟨t, ht, hsmall, -⟩ := int_str hlast
  obtain ⟨u, hu, -, hlarge⟩ := int_str hnext
  exact ⟨hlast, ⟨t, ht, (hsmall (by decide)).1⟩, hnext, u, hu, (hlarge (by decide)).2⟩

/-- A whole number of 64 bits that is not read back. -/
theorem int_of_str_two_pow_53 :
    Double.whole? 9007199254740992.0 = some (2 ^ 53) ∧ Machine.Fits 64 (2 ^ 53) ∧
      calculate "str" [.number 9007199254740992.0] = .ok (.string "9007199254740992.0") ∧
      calculate "int" [.string "9007199254740992.0"] =
        .error (.calculation "int" (.badInteger "9007199254740992.0")) := by
  have hwhole : Double.whole? 9007199254740992.0 = some (2 ^ 53) := by decide
  have htext : Json.floatText 9007199254740992.0 = "9007199254740992.0" := by decide +kernel
  refine ⟨hwhole, by decide, ?_, int_of_mark (show '.' ∈ _ by decide) (.inl rfl)⟩
  rw [calculate_str, text_of_large hwhole (by decide), htext]

end Calc

end CardPress
