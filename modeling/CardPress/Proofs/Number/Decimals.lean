import CardPress.Number.Decimal
import CardPress.Proofs.Number.Doubles

/-!
# Decimals that read back

The shortest decimal of a double is one that rounding takes back to the double, as the search for it
stops at nothing else and the exact expansion, which stands in, is not changed by rounding. Rounding
only looks at the value, so any other way of writing that decimal reads back as well.

## Main definitions

* `Decimal.value` — the number that a decimal stands for.

## Main results

* `Decimal.nearest_shortest` — the shortest decimal of a number is rounded to it.
* `Double.toDouble_of_shortest` — what has the value of a double's shortest decimal is read as the
  double.
-/

namespace CardPress

namespace Decimal

variable {d d' : Decimal}

/-- The number that a decimal stands for. -/
def value (d : Decimal) : ℚ :=
  d.digits * 10 ^ d.exponent

theorem fraction_pos (d : Decimal) : 0 < d.fraction.2 := by
  obtain ⟨digits, exponent⟩ := d
  cases exponent with
  | ofNat e => exact one_pos
  | negSucc e => exact Nat.pow_pos (by norm_num)

theorem fraction_div (d : Decimal) : (d.fraction.1 : ℚ) / d.fraction.2 = d.value := by
  obtain ⟨digits, exponent⟩ := d
  cases exponent with
  | ofNat e =>
    simp only [fraction, value, Nat.pow_eq, Int.ofNat_eq_natCast, zpow_natCast]
    push_cast
    ring
  | negSucc e =>
    simp only [fraction, value, Nat.pow_eq, zpow_negSucc]
    push_cast
    rw [div_eq_mul_inv]

theorem value_eq_zero_iff : d.value = 0 ↔ d.digits = 0 := by
  rw [value, mul_eq_zero, or_iff_left (by positivity), Nat.cast_eq_zero]

/-- Decimals of one value are rounded alike. -/
theorem nearest_congr (format : BinaryFormat) (h : d.value = d'.value) :
    format.nearest d.fraction.1 d.fraction.2 = format.nearest d'.fraction.1 d'.fraction.2 := by
  refine BinaryFormat.nearest_congr d.fraction_pos d'.fraction_pos ?_
  rw [fraction_div, fraction_div, h]

theorem digits_ne_zero {format : BinaryFormat} {mantissa : ℕ} {exponent : ℤ}
    (h : format.nearest d.fraction.1 d.fraction.2 = some (mantissa, exponent))
    (hmantissa : mantissa ≠ 0) : d.digits ≠ 0 := by
  intro hzero
  have hnum : d.fraction.1 = 0 := by
    have hvalue := d.fraction_div
    rw [value_eq_zero_iff.2 hzero, div_eq_zero_iff] at hvalue
    have hden : (d.fraction.2 : ℚ) ≠ 0 := by exact_mod_cast d.fraction_pos.ne'
    exact_mod_cast hvalue.resolve_right hden
  rw [BinaryFormat.nearest, if_pos hnum] at h
  cases h
  exact hmantissa rfl

/-- The powers of ten around a decimal. -/
theorem leadingExponent_bounds (h : d.digits ≠ 0) :
    (10 : ℚ) ^ d.leadingExponent ≤ d.value ∧ d.value < 10 ^ (d.leadingExponent + 1) := by
  have hpos : 0 < d.text.length := Nat.length_repr_pos
  have hexponent : d.leadingExponent = ((d.text.length - 1 : ℕ) : ℤ) + d.exponent := by
    rw [leadingExponent]
    omega
  have hupper : d.digits < 10 ^ d.text.length := (Nat.length_repr_le_iff hpos).1 le_rfl
  have hlower : 10 ^ (d.text.length - 1) ≤ d.digits := by
    rcases Nat.eq_zero_or_pos (d.text.length - 1) with hone | hmore
    · rw [hone]
      exact Nat.one_le_iff_ne_zero.2 h
    · by_contra hlt
      have hlength := (Nat.length_repr_le_iff hmore).2 (not_le.1 hlt)
      have hlength : d.text.length ≤ d.text.length - 1 := hlength
      omega
  constructor
  · rw [hexponent, zpow_add₀ (by norm_num), zpow_natCast, value]
    gcongr
    exact_mod_cast hlower
  · have hsucc : d.leadingExponent + 1 = (d.text.length : ℤ) + d.exponent := by
      rw [leadingExponent]
      ring
    rw [hsucc, zpow_add₀ (by norm_num), zpow_natCast, value]
    gcongr
    exact_mod_cast hupper

/-! ## Shortest digits -/

/-- Dropping zeros at the end does not change the value. -/
theorem value_strip (fuel : ℕ) (d : Decimal) : (d.strip fuel).value = d.value := by
  induction fuel generalizing d with
  | zero => rfl
  | succ fuel ih =>
    rw [strip]
    split
    · next h =>
      rw [ih]
      have hdigits : d.digits = 10 * (d.digits / 10) := by omega
      have hcast : (d.digits : ℚ) = 10 * ((d.digits / 10 : ℕ) : ℚ) := by exact_mod_cast hdigits
      simp only [value]
      rw [hcast, zpow_add₀ (by norm_num), zpow_one]
      ring
    · rfl

theorem value_exact (mantissa : ℕ) (exponent : ℤ) :
    (exact mantissa exponent).value = mantissa * 2 ^ exponent := by
  cases exponent with
  | ofNat e =>
    simp only [exact, value, Nat.pow_eq, Int.ofNat_eq_natCast, zpow_natCast, zpow_zero]
    push_cast
    ring
  | negSucc e =>
    have hten : (10 : ℚ) ^ (e + 1) = 5 ^ (e + 1) * 2 ^ (e + 1) := by
      rw [← mul_pow]
      norm_num
    simp only [exact, value, Nat.pow_eq, zpow_neg, zpow_natCast, zpow_negSucc, hten]
    push_cast
    field_simp

variable {format : BinaryFormat} {mantissa : ℕ} {exponent : ℤ}

theorem nearest_of_readsAs (h : readsAs format d mantissa exponent = true) :
    format.nearest d.fraction.1 d.fraction.2 = some (mantissa, exponent) :=
  eq_of_beq h

/-- Of two decimals next to each other only one that is rounded to the number is chosen. -/
theorem nearest_of_choice {n divisor : ℕ} {e : ℤ}
    (h : (match readsAs format ⟨n / divisor, e⟩ mantissa exponent,
        readsAs format ⟨n / divisor + 1, e⟩ mantissa exponent with
      | true, false => some ⟨n / divisor, e⟩
      | false, true => some ⟨n / divisor + 1, e⟩
      | true, true => some ⟨roundDivEven n divisor, e⟩
      | false, false => none) = some d) :
    format.nearest d.fraction.1 d.fraction.2 = some (mantissa, exponent) := by
  split at h
  · next hbelow _ =>
    cases h
    exact nearest_of_readsAs hbelow
  · next _ habove =>
    cases h
    exact nearest_of_readsAs habove
  · next hbelow habove =>
    cases h
    rcases roundDivEven_eq_or n divisor with hround | hround
    · rw [hround]
      exact nearest_of_readsAs hbelow
    · rw [hround]
      exact nearest_of_readsAs habove
  · cases h

theorem nearest_neighbour {num den count : ℕ}
    (h : neighbour? format mantissa exponent num den count = some d) :
    format.nearest d.fraction.1 d.fraction.2 = some (mantissa, exponent) := by
  simp only [neighbour?] at h
  exact nearest_of_choice h

/-- The shortest decimal of a number is rounded to it. -/
theorem nearest_shortest (h : format.Represents mantissa exponent) (hmantissa : mantissa ≠ 0) :
    format.nearest (shortest format mantissa exponent).fraction.1
      (shortest format mantissa exponent).fraction.2 = some (mantissa, exponent) := by
  have hfound {num den : ℕ} {found : Option Decimal}
      (heq : (List.range 17).findSome? (fun n =>
        neighbour? format mantissa exponent num den (n + 1)) = found) :
      format.nearest (found.getD (exact mantissa exponent)).fraction.1
        (found.getD (exact mantissa exponent)).fraction.2 = some (mantissa, exponent) := by
    cases found with
    | none =>
      refine BinaryFormat.nearest_exact h hmantissa (fraction_pos _) ?_
      rw [Option.getD_none, fraction_div, value_exact]
    | some d =>
      obtain ⟨n, -, hn⟩ := List.exists_of_findSome?_eq_some heq
      exact nearest_neighbour hn
  simp only [shortest, if_neg hmantissa]
  rw [nearest_congr format (value_strip _ _)]
  exact hfound rfl

/-! ## Reading -/

/-- A decimal that is rounded to a number other than zero is not so far from it that its leading
digit would settle it. -/
theorem toDouble_of_nearest (negative : Bool)
    (h : BinaryFormat.double.nearest d.fraction.1 d.fraction.2 = some (mantissa, exponent))
    (hmantissa : mantissa ≠ 0) :
    d.toDouble negative = Double.ofFraction negative d.fraction.1 d.fraction.2 := by
  have hdigits := digits_ne_zero h hmantissa
  obtain ⟨hlow, hhigh⟩ := leadingExponent_bounds hdigits
  obtain ⟨hleast, hgreatest⟩ := BinaryFormat.nearest_bounds d.fraction_pos h hmantissa
  rw [fraction_div] at hleast hgreatest
  simp only [BinaryFormat.double] at hleast hgreatest
  -- A power of ten is past the same power of eight.
  have height (k : ℕ) : (2 : ℚ) ^ (3 * k : ℤ) ≤ 10 ^ (k : ℤ) := by
    rw [zpow_mul, zpow_natCast, zpow_natCast]
    gcongr
    norm_num
  have hlarge : ¬400 < d.leadingExponent := by
    intro hlt
    have hten : (10 : ℚ) ^ (401 : ℤ) ≤ 10 ^ d.leadingExponent :=
      zpow_le_zpow_right₀ (by norm_num) (by omega)
    have htwo : (2 : ℚ) ^ (53 + 971 : ℤ) ≤ 2 ^ (3 * (401 : ℕ) : ℤ) :=
      zpow_le_zpow_right₀ (by norm_num) (by norm_num)
    have hpast := htwo.trans ((height 401).trans (hten.trans hlow))
    exact absurd (hpast.trans_lt hgreatest) (lt_irrefl _)
  have hsmall : ¬d.leadingExponent < -400 := by
    intro hlt
    have hten : (10 : ℚ) ^ (d.leadingExponent + 1) ≤ 10 ^ (-(400 : ℕ) : ℤ) :=
      zpow_le_zpow_right₀ (by norm_num) (by omega)
    have hinverse : (10 : ℚ) ^ (-(400 : ℕ) : ℤ) ≤ 2 ^ (-(3 * (400 : ℕ)) : ℤ) := by
      rw [zpow_neg, zpow_neg]
      exact inv_anti₀ (by positivity) (height 400)
    have htwo : (2 : ℚ) ^ (-(3 * (400 : ℕ)) : ℤ) ≤ 2 ^ (-1074 - 1 : ℤ) :=
      zpow_le_zpow_right₀ (by norm_num) (by norm_num)
    have hpast := hhigh.trans_le (hten.trans (hinverse.trans htwo))
    exact absurd (hpast.trans_le hleast) (lt_irrefl _)
  rw [toDouble, if_neg hdigits, if_neg hlarge, if_neg hsmall]

end Decimal

namespace Double

open Decimal

variable {x : Float} {d d' : Decimal}

/-- What has the value of a double's shortest decimal is read as the double. -/
theorem toDouble_of_shortest (h : shortest? x = some d) (hvalue : d'.value = d.value) :
    d'.toDouble (isNegative x) = x := by
  rw [shortest?, Option.map_eq_some_iff] at h
  obtain ⟨b, hdecode, rfl⟩ := h
  by_cases hmantissa : b.mantissa = 0
  · have hdigits : d'.digits = 0 := by
      rw [← value_eq_zero_iff, hvalue, value_eq_zero_iff, shortest, if_pos hmantissa]
    have hmagnitude : magnitude x = 0 := by
      obtain ⟨-, -, hcases⟩ := decode_cases hdecode
      omega
    rw [toDouble, if_pos hdigits, ← hmagnitude, ofMagnitude_magnitude]
  · have hshortest := nearest_shortest (represents_of_decode hdecode) hmantissa
    rw [← Decimal.nearest_congr .double hvalue] at hshortest
    rw [toDouble_of_nearest _ hshortest hmantissa]
    exact ofFraction_of_decode hdecode hshortest

end Double

end CardPress
