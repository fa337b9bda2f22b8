import CardPress.Proofs.Calc.Integers

/-!
# Rounding to places

Rounding scales by a power of ten. Its exponent is the count of places, clamped to 64 bits and then
cut to 32. So it is the count as long as that fits into 32 bits. From there on counts that differ by
a multiple of `2 ^ 32` are taken for the same, and the counts that were clamped for `-1` and `0`.

## Main definitions

* `Calc.scaleExponent` — the exponent that a count selects.
* `Calc.roundedAt` — a number rounded by the power of ten with an exponent.

## Main results

* `Calc.roundingExponent_eq_iff` — cutting gives the congruent number of 32 bits.
* `Calc.round_places` — which counts are accepted, and which exponents they select.
-/

namespace CardPress.Calc

variable {u v : Value} {x : Float} {z z' d e : ℤ}

/-! ## The exponent -/

/-- The power of ten that a count of places scales by. -/
def scaleExponent (z : ℤ) : ℤ :=
  roundingExponent (clamped z)

/-- Cutting gives the one number of 32 bits that is congruent to the count. -/
theorem roundingExponent_eq_iff :
    roundingExponent d = e ↔ e ∈ Set.Ico (-2 ^ 31) (2 ^ 31) ∧ e ≡ d [ZMOD 2 ^ 32] := by
  simp only [roundingExponent, Nat.pow_eq, Int.bmod_def, Set.mem_Ico, Int.ModEq]
  split <;> omega

theorem roundingExponent_modEq (d : ℤ) : roundingExponent d ≡ d [ZMOD 2 ^ 32] :=
  (roundingExponent_eq_iff.1 rfl).2

theorem roundingExponent_eq_roundingExponent_iff :
    roundingExponent d = roundingExponent e ↔ d ≡ e [ZMOD 2 ^ 32] := by
  rw [roundingExponent_eq_iff]
  constructor
  · rintro ⟨-, h⟩
    exact h.symm.trans (roundingExponent_modEq e)
  · intro h
    exact ⟨(roundingExponent_eq_iff.1 rfl).1, (roundingExponent_modEq e).trans h.symm⟩

theorem scaleExponent_mem (z : ℤ) : scaleExponent z ∈ Set.Ico (-2 ^ 31) (2 ^ 31) :=
  (roundingExponent_eq_iff.1 rfl).1

theorem scaleExponent_of_fits (h : Machine.Fits 64 z) : scaleExponent z = roundingExponent z := by
  rw [scaleExponent, clamped_of_fits h]

/-- The exponent is the count itself exactly if that has 32 bits. -/
theorem scaleExponent_eq_self_iff : scaleExponent z = z ↔ z ∈ Set.Ico (-2 ^ 31) (2 ^ 31) := by
  constructor
  · intro h
    exact h ▸ scaleExponent_mem z
  · intro h
    have hfits : Machine.Fits 64 z := by
      obtain ⟨hlow, hhigh⟩ := h
      exact Machine.fits_64_iff.2 ⟨by omega, by omega⟩
    rw [scaleExponent_of_fits hfits, roundingExponent_eq_iff]
    exact ⟨h, rfl⟩

/-- Counts of 64 bits select one exponent if they differ by a multiple of `2 ^ 32`. -/
theorem scaleExponent_eq_iff (h : Machine.Fits 64 z) (h' : Machine.Fits 64 z') :
    scaleExponent z = scaleExponent z' ↔ z ≡ z' [ZMOD 2 ^ 32] := by
  rw [scaleExponent_of_fits h, scaleExponent_of_fits h', roundingExponent_eq_roundingExponent_iff]

/-- The greatest number of 64 bits is cut to `-1`. -/
theorem scaleExponent_of_large (h : 2 ^ 63 ≤ z) : scaleExponent z = -1 := by
  have hclamped : clamped z = 2 ^ 63 - 1 := by
    simp only [clamped, Double.leastInt64, Double.greatestInt64, Nat.pow_eq]
    omega
  rw [scaleExponent, hclamped]
  decide

/-- The least number of 64 bits is cut to `0`. -/
theorem scaleExponent_of_small (h : z ≤ -2 ^ 63) : scaleExponent z = 0 := by
  have hclamped : clamped z = -2 ^ 63 := by
    simp only [clamped, Double.leastInt64, Double.greatestInt64, Nat.pow_eq]
    omega
  rw [scaleExponent, hclamped]
  decide

/-! ## Rounding -/

/-- A number rounded by the power of ten with an exponent. -/
def roundedAt (x : Float) (exponent : ℤ) : Float :=
  let scale := Double.powInt 10.0 exponent
  Double.roundEven (x * scale) / scale

theorem calculate_round_eq (args : List Value) :
    calculate "round" args = (round args).mapError (named "round") := rfl

/-- Without a count, or with a null in its place, there are no places. -/
theorem calculate_round_without (hu : u.number? = some x) :
    calculate "round" [u] = .ok (.number (roundedAt x 0)) ∧
      calculate "round" [u, .null] = .ok (.number (roundedAt x 0)) := by
  have hround (args : List Value) (hargs : args = [u] ∨ args = [u, .null]) :
      round args = .ok (.number (roundedAt x 0)) := by
    rcases hargs with rfl | rfl <;>
      simp [round, arity, number, hu, roundedAt, roundingExponent, bind, Except.bind, pure,
        Except.pure]
  rw [calculate_round_eq, calculate_round_eq, hround _ (.inl rfl), hround _ (.inr rfl)]
  exact ⟨rfl, rfl⟩

theorem calculate_round_of_ne_null (hu : u.number? = some x) (hv : v ≠ .null) :
    calculate "round" [u, v] =
      ((integer v).map fun digits => .number (roundedAt x (roundingExponent digits))).mapError
        (named "round") := by
  rw [calculate_round_eq]
  congr 1
  cases v with
  | null => exact absurd rfl hv
  | _ =>
    simp only [round, arity, number, List.headD_cons, hu, bind, Except.bind]
    rfl

/-- A count that stands for a whole number selects an exponent. -/
theorem calculate_round_of_whole (hu : u.number? = some x) (hv : v.whole? = some z) :
    calculate "round" [u, v] = .ok (.number (roundedAt x (scaleExponent z))) := by
  have hnull : v ≠ .null := by
    rintro rfl
    cases hv
  rw [calculate_round_of_ne_null hu hnull, integer_of_whole hv]
  rfl

/-- No other count is accepted. -/
theorem exists_calculate_round_iff (hu : u.number? = some x) :
    (∃ w, calculate "round" [u, v] = .ok w) ↔ v = .null ∨ ∃ z, v.whole? = some z := by
  constructor
  · rintro ⟨w, hw⟩
    by_cases hnull : v = .null
    · exact .inl hnull
    · rw [calculate_round_of_ne_null hu hnull, mapError_eq_ok_iff] at hw
      cases hinteger : integer v with
      | error fault =>
        rw [hinteger] at hw
        cases hw
      | ok digits =>
        obtain ⟨z, hz, -⟩ := integer_eq_ok_iff.1 hinteger
        exact .inr ⟨z, hz⟩
  · rintro (rfl | ⟨z, hz⟩)
    · exact ⟨_, (calculate_round_without hu).2⟩
    · exact ⟨_, calculate_round_of_whole hu hz⟩

/-- The counts that are accepted are null, which is no places, and whatever stands for a whole
number. Such a count scales by the power of ten with the exponent that it selects. That has 32 bits,
and is the count itself exactly if this has no more. Counts below `2 ^ 53` that differ by a multiple
of `2 ^ 32` select the same one, and of counts with more than 64 bits those above zero select `-1`
and those below it `0`. -/
theorem round_places (hu : u.number? = some x) :
    (calculate "round" [u] = .ok (.number (roundedAt x 0)) ∧
      calculate "round" [u, .null] = .ok (.number (roundedAt x 0))) ∧
    (∀ v, (∃ w, calculate "round" [u, v] = .ok w) ↔ v = .null ∨ ∃ z, v.whole? = some z) ∧
    (∀ v z, v.whole? = some z →
      calculate "round" [u, v] = .ok (.number (roundedAt x (scaleExponent z))) ∧
      scaleExponent z ∈ Set.Ico (-2 ^ 31) (2 ^ 31) ∧
      (scaleExponent z = z ↔ z ∈ Set.Ico (-2 ^ 31) (2 ^ 31)) ∧
      (2 ^ 63 ≤ z → scaleExponent z = -1) ∧ (z ≤ -2 ^ 63 → scaleExponent z = 0)) ∧
    ∀ z z' : ℤ, z.natAbs < 2 ^ 53 → z'.natAbs < 2 ^ 53 →
      (scaleExponent z = scaleExponent z' ↔ z ≡ z' [ZMOD 2 ^ 32]) := by
  refine ⟨calculate_round_without hu, fun v => exists_calculate_round_iff hu, fun v z hv => ?_, ?_⟩
  · exact ⟨calculate_round_of_whole hu hv, scaleExponent_mem z, scaleExponent_eq_self_iff,
      scaleExponent_of_large, scaleExponent_of_small⟩
  · intro z z' hz hz'
    apply scaleExponent_eq_iff <;> rw [Machine.fits_64_iff] <;> omega

theorem round_places_two :
    (Value.number 1.234).number? = some 1.234 ∧ (Value.number 2.0).whole? = some 2 ∧
      scaleExponent 2 = 2 ∧ calculate "round" [.number 1.234, .number 2.0] = .ok (.number 1.23) ∧
      ¬ ∃ w, calculate "round" [.number 1.234, .number 0.5] = .ok w := by
  have htwo : (Value.number 2.0).whole? = some 2 := by decide
  obtain ⟨-, haccepted, hcounts, -⟩ :=
    round_places (show (Value.number 1.234).number? = some 1.234 from rfl)
  obtain ⟨hround, -, hself, -⟩ := hcounts _ 2 htwo
  have hexponent : scaleExponent 2 = 2 := hself.2 (by decide)
  have hvalue : roundedAt 1.234 2 = 1.23 := by decide +kernel
  rw [hexponent, hvalue] at hround
  refine ⟨rfl, htwo, hexponent, hround, ?_⟩
  rw [haccepted]
  rintro (hnull | ⟨z, hz⟩)
  · cases hnull
  · have hhalf : (Value.number 0.5).whole? = none := by decide
    rw [hhalf] at hz
    cases hz

/-- `2 ^ 32` places are taken for none, and `2 ^ 63` places for the tens. By powers of ten with
these exponents there would be no number left. -/
theorem round_two_pow_32 :
    (Value.number 4294967296.0).whole? = some (2 ^ 32) ∧ scaleExponent (2 ^ 32) = 0 ∧
      calculate "round" [.number 1234.5, .number 4294967296.0] = .ok (.number 1234.0) ∧
      Double.isNaN (roundedAt 1234.5 (2 ^ 32)) = true ∧
      (Value.number 9223372036854775808.0).whole? = some (2 ^ 63) ∧ scaleExponent (2 ^ 63) = -1 ∧
      calculate "round" [.number 1234.5, .number 9223372036854775808.0] = .ok (.number 1230.0) := by
  have hmiddle : (Value.number 4294967296.0).whole? = some (2 ^ 32) := by decide
  have hlarge : (Value.number 9223372036854775808.0).whole? = some (2 ^ 63) := by decide
  have hzero : scaleExponent (2 ^ 32) = 0 := by decide
  have htens : scaleExponent (2 ^ 63) = -1 := scaleExponent_of_large le_rfl
  have hnumber : (Value.number 1234.5).number? = some 1234.5 := rfl
  have hwhole : roundedAt 1234.5 0 = 1234.0 := by decide +kernel
  have hten : roundedAt 1234.5 (-1) = 1230.0 := by decide +kernel
  have hnan : Double.isNaN (roundedAt 1234.5 (2 ^ 32)) = true := by decide +kernel
  refine ⟨hmiddle, hzero, ?_, hnan, hlarge, htens, ?_⟩
  · rw [calculate_round_of_whole hnumber hmiddle, hzero, hwhole]
  · rw [calculate_round_of_whole hnumber hlarge, htens, hten]

end CardPress.Calc
