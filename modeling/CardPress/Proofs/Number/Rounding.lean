import CardPress.Number.Binary
import Mathlib

/-!
# Rounding to a binary format

Rounding a fraction depends on nothing but its value: it decides the unit in the last place, and how
many units there are, rounded to a whole number, is the mantissa. A value that the format has is
kept as it is.

## Main definitions

* `BinaryFormat.HasUnit` — the unit in the last place that a format has for a value.
* `BinaryFormat.roundAt` — rounding a fraction to a multiple of some unit.

## Main results

* `BinaryFormat.nearest_eq_roundAt` — rounding is rounding at the unit of the value.
* `BinaryFormat.nearest_congr` — equal values are rounded alike.
* `BinaryFormat.nearest_exact` — what can be represented is not changed.
* `BinaryFormat.nearest_bounds` — which values are rounded to something that is neither zero nor
  infinite.
-/

namespace CardPress

/-! ## Quotients -/

theorem scaleFraction_pos {num den : ℕ} (hden : 0 < den) (e : ℤ) :
    0 < (scaleFraction num den e).2 := by
  cases e with
  | ofNat e => exact hden
  | negSucc e => exact Nat.mul_pos hden (Nat.pow_pos (by norm_num))

theorem scaleFraction_div (num den : ℕ) (e : ℤ) :
    ((scaleFraction num den e).1 : ℚ) / (scaleFraction num den e).2 = num / den * 2 ^ e := by
  cases e with
  | ofNat e =>
    simp only [scaleFraction, Nat.pow_eq, Int.ofNat_eq_natCast, zpow_natCast]
    push_cast
    ring
  | negSucc e =>
    simp only [scaleFraction, Nat.pow_eq, zpow_negSucc]
    push_cast
    rw [div_mul_eq_div_div, div_eq_mul_inv ((num : ℚ) / den)]

/-- A quotient is rounded by its value. -/
theorem roundDivEven_mul {k : ℕ} (hk : 0 < k) (num den : ℕ) :
    roundDivEven (num * k) (den * k) = roundDivEven num den := by
  have hq : num * k / (den * k) = num / den := Nat.mul_div_mul_right num den hk
  have hr : num * k % (den * k) = num % den * k := Nat.mul_mod_mul_right k num den
  have hlt (a b : ℕ) : a * k < b * k ↔ a < b := Nat.mul_lt_mul_right hk
  simp only [roundDivEven, hq, hr, ← mul_assoc, hlt]

theorem roundDivEven_congr {n d n' d' : ℕ} (hd : 0 < d) (hd' : 0 < d')
    (h : (n : ℚ) / d = n' / d') : roundDivEven n d = roundDivEven n' d' := by
  have hcross : n * d' = n' * d := by
    rw [div_eq_div_iff (by positivity) (by positivity)] at h
    exact_mod_cast h
  calc roundDivEven n d = roundDivEven (n * d') (d * d') := (roundDivEven_mul hd' n d).symm
    _ = roundDivEven (n' * d) (d' * d) := by rw [hcross, mul_comm d d']
    _ = roundDivEven n' d' := roundDivEven_mul hd n' d'

theorem roundDivEven_exact {d : ℕ} (hd : 0 < d) (m : ℕ) : roundDivEven (m * d) d = m := by
  simp [roundDivEven, Nat.mul_div_cancel m hd, hd]

theorem roundDivEven_of_lt_half {n d : ℕ} (h : 2 * n < d) : roundDivEven n d = 0 := by
  have hn : n < d := by omega
  simp [roundDivEven, Nat.div_eq_of_lt hn, Nat.mod_eq_of_lt hn, h]

/-- It is one of the two whole numbers next to the quotient. -/
theorem roundDivEven_eq_or (n d : ℕ) :
    roundDivEven n d = n / d ∨ roundDivEven n d = n / d + 1 := by
  simp only [roundDivEven]
  split_ifs
  · exact .inl rfl
  · exact .inr rfl
  · exact .inl rfl
  · exact .inr rfl

namespace BinaryFormat

variable {format : BinaryFormat}

/-! ## Units in the last place -/

/-- A value is less than a full mantissa of units `2 ^ e`, and at least half of one unless there is
no smaller unit. -/
structure HasUnit (format : BinaryFormat) (v : ℚ) (e : ℤ) : Prop where
  least : format.leastExponent ≤ e
  lt : v < 2 ^ (format.precision + e)
  le : e ≠ format.leastExponent → (2 : ℚ) ^ (format.precision - 1 + e) ≤ v

theorem HasUnit.unique {v : ℚ} {e e' : ℤ} (h : format.HasUnit v e) (h' : format.HasUnit v e') :
    e = e' := by
  have aux {e e' : ℤ} (h : format.HasUnit v e) (h' : format.HasUnit v e') : ¬e < e' := by
    intro hlt
    have hne : e' ≠ format.leastExponent := by
      have := h.least
      omega
    have hpow : (2 : ℚ) ^ (format.precision + e) ≤ 2 ^ (format.precision - 1 + e') :=
      zpow_le_zpow_right₀ (by norm_num) (by omega)
    exact absurd (h.lt.trans_le (hpow.trans (h'.le hne))) (lt_irrefl v)
  exact le_antisymm (not_lt.1 (aux h' h)) (not_lt.1 (aux h h'))

/-- Round a fraction to a multiple of `2 ^ e`. A mantissa that has become one bit too long is
even. -/
def roundAt (format : BinaryFormat) (num den : ℕ) (e : ℤ) : Option (ℕ × ℤ) :=
  let (n, d) := scaleFraction num den (-e)
  let mantissa := roundDivEven n d
  let (mantissa, exponent) :=
    if mantissa < Nat.pow 2 format.precision then (mantissa, e) else (mantissa / 2, e + 1)
  if exponent ≤ format.greatestExponent then some (mantissa, exponent) else none

theorem roundAt_cases {num den : ℕ} {e : ℤ} {mantissa : ℕ} {exponent : ℤ}
    (h : format.roundAt num den e = some (mantissa, exponent)) :
    let units := roundDivEven (scaleFraction num den (-e)).1 (scaleFraction num den (-e)).2
    exponent ≤ format.greatestExponent ∧
      (units < 2 ^ format.precision ∧ mantissa = units ∧ exponent = e ∨
        2 ^ format.precision ≤ units ∧ mantissa = units / 2 ∧ exponent = e + 1) := by
  intro units
  simp only [roundAt, Nat.pow_eq] at h
  by_cases hunits : units < 2 ^ format.precision
  · rw [if_pos hunits] at h
    split at h
    · next hle =>
      cases h
      exact ⟨hle, .inl ⟨hunits, rfl, rfl⟩⟩
    · cases h
  · rw [if_neg hunits] at h
    split at h
    · next hle =>
      cases h
      exact ⟨hle, .inr ⟨not_lt.1 hunits, rfl, rfl⟩⟩
    · cases h

/-- The two powers of two around a fraction. -/
theorem fraction_bounds {num den : ℕ} (hnum : num ≠ 0) (hden : den ≠ 0) :
    (2 : ℚ) ^ ((num.log2 : ℤ) - den.log2 - 1) ≤ (num : ℚ) / den ∧
      (num : ℚ) / den < 2 ^ ((num.log2 : ℤ) - den.log2 + 1) := by
  have hlow (n : ℕ) (hn : n ≠ 0) : (2 : ℚ) ^ (n.log2 : ℤ) ≤ n := by
    rw [zpow_natCast]
    exact_mod_cast Nat.log2_self_le hn
  have hhigh (n : ℕ) : (n : ℚ) < 2 ^ ((n.log2 : ℤ) + 1) := by
    rw [← Nat.cast_succ, zpow_natCast]
    exact_mod_cast Nat.lt_log2_self
  have hpos : (0 : ℚ) < den := by positivity
  have hnum' : (0 : ℚ) < num := by positivity
  constructor
  · rw [le_div_iff₀ hpos]
    calc (2 : ℚ) ^ ((num.log2 : ℤ) - den.log2 - 1) * den
        ≤ 2 ^ ((num.log2 : ℤ) - den.log2 - 1) * 2 ^ ((den.log2 : ℤ) + 1) := by
          gcongr
          exact (hhigh den).le
      _ = 2 ^ (num.log2 : ℤ) := by
          rw [← zpow_add₀ (by norm_num)]
          congr 1
          ring
      _ ≤ num := hlow num hnum
  · rw [div_lt_iff₀ hpos]
    calc (num : ℚ) < 2 ^ ((num.log2 : ℤ) + 1) := hhigh num
      _ = 2 ^ ((num.log2 : ℤ) - den.log2 + 1) * 2 ^ (den.log2 : ℤ) := by
          rw [← zpow_add₀ (by norm_num)]
          congr 1
          ring
      _ ≤ 2 ^ ((num.log2 : ℤ) - den.log2 + 1) * den := by
          gcongr
          exact hlow den hden

/-- Whether a fraction has fewer than `2 ^ p` whole units. -/
theorem scaled_div_lt_iff {num den : ℕ} (hden : 0 < den) (p : ℕ) (e : ℤ) :
    (scaleFraction num den (-e)).1 / (scaleFraction num den (-e)).2 < Nat.pow 2 p ↔
      (num : ℚ) / den < 2 ^ (p + e) := by
  have hpos : 0 < (scaleFraction num den (-e)).2 := scaleFraction_pos hden _
  have hdiv := scaleFraction_div num den (-e)
  rw [Nat.div_lt_iff_lt_mul hpos, ← Nat.cast_lt (α := ℚ), Nat.cast_mul,
    ← div_lt_iff₀ (by positivity), hdiv, zpow_neg, ← div_eq_mul_inv, div_lt_iff₀ (by positivity),
    Nat.pow_eq, Nat.cast_pow, Nat.cast_ofNat, zpow_add₀ (by norm_num), zpow_natCast]

/-- Rounding is rounding at the unit of the value. -/
theorem exists_hasUnit {num den : ℕ} (hnum : num ≠ 0) (hden : 0 < den) :
    ∃ e, format.HasUnit ((num : ℚ) / den) e ∧
      format.nearest num den = format.roundAt num den e := by
  obtain ⟨hlow, hhigh⟩ := fraction_bounds hnum hden.ne'
  let low := max ((num.log2 : ℤ) - den.log2 - format.precision) format.leastExponent
  have hleast : format.leastExponent ≤ low := le_max_right _ _
  have hguess : (num.log2 : ℤ) - den.log2 - format.precision ≤ low := le_max_left _ _
  by_cases hfits : (num : ℚ) / den < 2 ^ (format.precision + low)
  · refine ⟨low, ⟨hleast, hfits, fun hne => ?_⟩, ?_⟩
    · have hlow' : low = (num.log2 : ℤ) - den.log2 - format.precision := by
        rcases max_choice ((num.log2 : ℤ) - den.log2 - format.precision) format.leastExponent with
          h | h
        · exact h
        · exact absurd h hne
      have hexponent : (format.precision : ℤ) - 1 + low = (num.log2 : ℤ) - den.log2 - 1 := by omega
      rwa [hexponent]
    · have hif := (scaled_div_lt_iff hden format.precision low).2 hfits
      simp only [nearest, if_neg hnum, roundAt]
      rw [if_pos hif]
  · refine ⟨low + 1, ⟨by omega, ?_, fun _ => ?_⟩, ?_⟩
    · exact hhigh.trans_le (zpow_le_zpow_right₀ (by norm_num) (by omega))
    · have hexponent : (format.precision : ℤ) - 1 + (low + 1) = format.precision + low := by ring
      rw [hexponent]
      exact not_lt.1 hfits
    · have hif := mt (scaled_div_lt_iff hden format.precision low).1 hfits
      simp only [nearest, if_neg hnum, roundAt]
      rw [if_neg hif]

theorem nearest_eq_roundAt {num den : ℕ} (hnum : num ≠ 0) (hden : 0 < den) {e : ℤ}
    (h : format.HasUnit ((num : ℚ) / den) e) :
    format.nearest num den = format.roundAt num den e := by
  obtain ⟨e', h', hnearest⟩ := exists_hasUnit hnum hden
  rw [hnearest, h.unique h']

/-- Equal values are rounded alike. -/
theorem nearest_congr {num den num' den' : ℕ} (hden : 0 < den) (hden' : 0 < den')
    (h : (num : ℚ) / den = num' / den') :
    format.nearest num den = format.nearest num' den' := by
  by_cases hnum : num = 0
  · have hnum' : num' = 0 := by
      have hzero : (num' : ℚ) / den' = 0 := by rw [← h, hnum, Nat.cast_zero, zero_div]
      have hne : (den' : ℚ) ≠ 0 := by positivity
      rw [div_eq_zero_iff] at hzero
      exact_mod_cast hzero.resolve_right hne
    rw [hnum, hnum', nearest, nearest, if_pos rfl, if_pos rfl]
  · have hnum' : num' ≠ 0 := by
      rintro rfl
      rw [Nat.cast_zero, zero_div, div_eq_zero_iff] at h
      have hne : (den : ℚ) ≠ 0 := by positivity
      exact hnum (by exact_mod_cast h.resolve_right hne)
    obtain ⟨e, hunit, hnearest⟩ := exists_hasUnit hnum hden
    rw [hnearest, nearest_eq_roundAt hnum' hden' (h ▸ hunit)]
    have hround : roundDivEven (scaleFraction num den (-e)).1 (scaleFraction num den (-e)).2 =
        roundDivEven (scaleFraction num' den' (-e)).1 (scaleFraction num' den' (-e)).2 :=
      roundDivEven_congr (scaleFraction_pos hden _) (scaleFraction_pos hden' _)
        (by rw [scaleFraction_div, scaleFraction_div, h])
    simp only [roundAt, hround]

/-- The mantissa and exponent of a number that the format has, written with a full mantissa or the
least exponent. -/
structure Represents (format : BinaryFormat) (mantissa : ℕ) (exponent : ℤ) : Prop where
  lt : mantissa < 2 ^ format.precision
  least : format.leastExponent ≤ exponent
  greatest : exponent ≤ format.greatestExponent
  full : exponent ≠ format.leastExponent → 2 ^ format.precision ≤ 2 * mantissa

/-- What the format has is not changed. -/
theorem nearest_exact {mantissa : ℕ} {exponent : ℤ} (h : format.Represents mantissa exponent)
    (hmantissa : mantissa ≠ 0) {num den : ℕ} (hden : 0 < den)
    (hvalue : (num : ℚ) / den = mantissa * 2 ^ exponent) :
    format.nearest num den = some (mantissa, exponent) := by
  have hpos : (0 : ℚ) < 2 ^ exponent := by positivity
  have hnum : num ≠ 0 := by
    rintro rfl
    rw [Nat.cast_zero, zero_div] at hvalue
    have hne : (mantissa : ℚ) * 2 ^ exponent ≠ 0 := by positivity
    exact hne hvalue.symm
  have hunit : format.HasUnit ((num : ℚ) / den) exponent := by
    refine ⟨h.least, ?_, fun hne => ?_⟩
    · rw [hvalue, zpow_add₀ (by norm_num), zpow_natCast]
      gcongr
      exact_mod_cast h.lt
    · rw [hvalue, zpow_add₀ (by norm_num), zpow_sub₀ (by norm_num), zpow_natCast, zpow_one]
      gcongr
      rw [div_le_iff₀ (by norm_num), mul_comm]
      exact_mod_cast h.full hne
  have hscaled :
      ((scaleFraction num den (-exponent)).1 : ℚ) / (scaleFraction num den (-exponent)).2 =
        ((mantissa * 1 : ℕ) : ℚ) / (1 : ℕ) := by
    rw [scaleFraction_div, hvalue, zpow_neg, mul_assoc, mul_inv_cancel₀ hpos.ne']
    push_cast
    ring
  have hround := roundDivEven_congr (scaleFraction_pos hden _) one_pos hscaled
  rw [roundDivEven_exact one_pos] at hround
  rw [nearest_eq_roundAt hnum hden hunit]
  simp only [roundAt, hround, Nat.pow_eq]
  rw [if_pos h.lt, if_pos h.greatest]

/-- What is rounded to a number other than zero is at least half the least one and not past the
greatest. -/
theorem nearest_bounds {num den : ℕ} (hden : 0 < den) {mantissa : ℕ} {exponent : ℤ}
    (h : format.nearest num den = some (mantissa, exponent)) (hmantissa : mantissa ≠ 0) :
    (2 : ℚ) ^ (format.leastExponent - 1) ≤ num / den ∧
      (num : ℚ) / den < 2 ^ (format.precision + format.greatestExponent) := by
  have hnum : num ≠ 0 := by
    rintro rfl
    rw [nearest, if_pos rfl] at h
    cases h
    exact hmantissa rfl
  obtain ⟨e, hunit, hnearest⟩ := exists_hasUnit hnum hden
  rw [hnearest] at h
  obtain ⟨hgreatest, hcases⟩ := roundAt_cases h
  constructor
  · by_contra hsmall
    have hsmall := not_le.1 hsmall
    have he : e = format.leastExponent := by
      by_contra hne
      have hpow : (2 : ℚ) ^ (format.leastExponent - 1) ≤ 2 ^ (format.precision - 1 + e) :=
        zpow_le_zpow_right₀ (by norm_num) (by have := hunit.least; omega)
      exact absurd (hsmall.trans_le (hpow.trans (hunit.le hne))) (lt_irrefl _)
    -- Less than half of the smallest unit is rounded to none.
    have hhalf : 2 * (scaleFraction num den (-e)).1 < (scaleFraction num den (-e)).2 := by
      have hpos : 0 < (scaleFraction num den (-e)).2 := scaleFraction_pos hden _
      have hscaled :
          ((scaleFraction num den (-e)).1 : ℚ) / (scaleFraction num den (-e)).2 < 1 / 2 := by
        rw [scaleFraction_div, zpow_neg, ← div_eq_mul_inv, div_lt_iff₀ (by positivity), he]
        rw [zpow_sub₀ (by norm_num), zpow_one] at hsmall
        linarith
      rw [div_lt_div_iff₀ (by positivity) (by norm_num)] at hscaled
      have hcast : 2 * ((scaleFraction num den (-e)).1 : ℚ) < (scaleFraction num den (-e)).2 := by
        linarith
      exact_mod_cast hcast
    rw [roundDivEven_of_lt_half hhalf] at hcases
    rcases hcases with ⟨-, hzero, -⟩ | ⟨hpow, -, -⟩
    · exact hmantissa hzero
    · exact absurd hpow (by simp)
  · have he : e ≤ format.greatestExponent := by
      rcases hcases with ⟨-, -, rfl⟩ | ⟨-, -, rfl⟩ <;> omega
    exact hunit.lt.trans_le (zpow_le_zpow_right₀ (by norm_num) (by omega))

/-- What does not come near the greatest number is rounded to one. -/
theorem exists_nearest (hformat : format.leastExponent < format.greatestExponent) {num den : ℕ}
    (hden : 0 < den)
    (hsmall : (num : ℚ) / den < 2 ^ (format.precision - 1 + format.greatestExponent)) :
    ∃ mantissa exponent, format.nearest num den = some (mantissa, exponent) := by
  by_cases hnum : num = 0
  · exact ⟨0, format.leastExponent, by rw [nearest, if_pos hnum]⟩
  · obtain ⟨e, hunit, hnearest⟩ := exists_hasUnit hnum hden
    have he : e < format.greatestExponent := by
      by_cases hne : e = format.leastExponent
      · omega
      · have hpow := (hunit.le hne).trans_lt hsmall
        rw [zpow_lt_zpow_iff_right₀ (by norm_num)] at hpow
        omega
    rw [hnearest]
    simp only [roundAt]
    split
    · exact ⟨_, _, if_pos he.le⟩
    · exact ⟨_, _, if_pos (by omega)⟩

/-- What a fraction is rounded to has a mantissa and an exponent of the format. -/
theorem nearest_lt {num den : ℕ} (hden : 0 < den) {mantissa : ℕ} {exponent : ℤ}
    (h : format.nearest num den = some (mantissa, exponent)) :
    mantissa < 2 ^ format.precision ∧ (mantissa ≠ 0 → exponent ≤ format.greatestExponent) := by
  have hpow : 0 < 2 ^ format.precision := by positivity
  by_cases hnum : num = 0
  · rw [nearest, if_pos hnum] at h
    cases h
    exact ⟨hpow, fun hne => absurd rfl hne⟩
  · obtain ⟨e, hunit, hnearest⟩ := exists_hasUnit hnum hden
    rw [hnearest] at h
    obtain ⟨hgreatest, hcases⟩ := roundAt_cases h
    refine ⟨?_, fun _ => hgreatest⟩
    have hquotient := (scaled_div_lt_iff hden format.precision e).2 hunit.lt
    rw [Nat.pow_eq] at hquotient
    have hunits := roundDivEven_eq_or (scaleFraction num den (-e)).1 (scaleFraction num den (-e)).2
    rcases hcases with ⟨hlt, rfl, -⟩ | ⟨-, rfl, -⟩
    · exact hlt
    · omega

end BinaryFormat

end CardPress
