import CardPress.Calc
import CardPress.Proofs.Number.Doubles
import CardPress.Proofs.Number.Machine
import CardPress.Proofs.Outcome

/-!
# Whole numbers as operands

A double is taken as a whole number if it stands for one, and is then clamped to 64 bits. Every
whole number of 53 bits has a double, larger ones have one here and there.

## Main definitions

* `Value.whole?` — the whole number that a value stands for.
* `Calc.clamped` — the number of 64 bits with sign that is next to a whole number.

## Main results

* `Double.whole?_ofInt` — up to `2 ^ 53` a whole number is what its closest double stands for.
* `Calc.integer_eq_ok_iff` — which operands are taken as whole numbers, and as which.
-/

namespace CardPress

/-- What has the value of a whole number is read as it. -/
theorem Binary.whole?_of_value {mantissa n : ℕ} {exponent : ℤ} (negative : Bool)
    (h : (mantissa : ℚ) * 2 ^ exponent = n) :
    Binary.whole? ⟨negative, mantissa, exponent⟩ = some (if negative then -(n : ℤ) else n) := by
  cases exponent with
  | ofNat e =>
    have hn : mantissa * 2 ^ e = n := by
      rw [Int.ofNat_eq_natCast, zpow_natCast] at h
      exact_mod_cast h
    simp [whole?, hn]
  | negSucc e =>
    have hmantissa : mantissa = n * 2 ^ (e + 1) := by
      rw [zpow_negSucc, ← div_eq_mul_inv, div_eq_iff (by positivity)] at h
      exact_mod_cast h
    simp [whole?, hmantissa]

namespace Double

/-- Up to `2 ^ 53` a number can be shifted to a full mantissa without a loss. -/
theorem exists_represents {n : ℕ} (hpos : 0 < n) (h : n ≤ 2 ^ 53) :
    ∃ mantissa exponent, BinaryFormat.double.Represents mantissa exponent ∧
      (mantissa : ℚ) * 2 ^ exponent = n := by
  obtain rfl | hlt := h.eq_or_lt
  · refine ⟨2 ^ 52, 1, ?_, by norm_num⟩
    constructor <;> norm_num [BinaryFormat.double]
  · let k := n.log2
    have hk : k < 53 := (Nat.log2_lt hpos.ne').2 hlt
    have hlow : 2 ^ k ≤ n := Nat.log2_self_le hpos.ne'
    have hhigh : n < 2 ^ (k + 1) := Nat.lt_log2_self
    have hbelow : n * 2 ^ (52 - k) < 2 ^ 53 := by
      calc n * 2 ^ (52 - k) < 2 ^ (k + 1) * 2 ^ (52 - k) := by gcongr
        _ = 2 ^ 53 := by rw [← pow_add, show k + 1 + (52 - k) = 53 by omega]
    have habove : 2 ^ 52 ≤ n * 2 ^ (52 - k) := by
      calc 2 ^ 52 = 2 ^ k * 2 ^ (52 - k) := by rw [← pow_add, show k + (52 - k) = 52 by omega]
        _ ≤ n * 2 ^ (52 - k) := by gcongr
    refine ⟨n * 2 ^ (52 - k), -((52 - k : ℕ) : ℤ), ⟨hbelow, ?_, ?_, fun _ => ?_⟩, ?_⟩
    · simp only [BinaryFormat.double]
      omega
    · simp only [BinaryFormat.double]
      omega
    · simp only [BinaryFormat.double]
      omega
    · rw [zpow_neg, zpow_natCast]
      push_cast
      field_simp

/-- The double closest to such a number stands for it. -/
theorem whole?_ofInt {n : ℤ} (h : n.natAbs ≤ 2 ^ 53) : whole? (ofInt n) = some n := by
  by_cases hn : n = 0
  · subst hn
    exact whole?_eq_some_zero_iff.2 (by decide)
  · obtain ⟨mantissa, exponent, hrepresents, hvalue⟩ := exists_represents (Int.natAbs_pos.2 hn) h
    have hmantissa : mantissa ≠ 0 := by
      rintro rfl
      rw [Nat.cast_zero, zero_mul] at hvalue
      exact hn (by simpa using hvalue.symm)
    have hfraction : (n.natAbs : ℚ) / (1 : ℕ) = mantissa * 2 ^ exponent := by
      rw [hvalue, Nat.cast_one, div_one]
    have hnearest := BinaryFormat.nearest_exact hrepresents hmantissa one_pos hfraction
    rw [whole?, ofInt, ofFraction_of_nearest _ hnearest, decode_ofMagnitude _ hrepresents,
      Option.bind_some, Binary.whole?_of_value _ hvalue]
    simp only [decide_eq_true_eq, Option.some.injEq]
    split <;> omega

end Double

/-- The whole number that a value stands for, if it does. -/
def Value.whole? (v : Value) : Option ℤ :=
  v.number?.bind Double.whole?

namespace Calc

open Machine

/-- The number of 64 bits next to a whole number. -/
def clamped (z : ℤ) : ℤ :=
  max Double.leastInt64 (min Double.greatestInt64 z)

theorem fits_clamped (z : ℤ) : Fits 64 (clamped z) := by
  simp only [fits_64_iff, clamped, Double.leastInt64, Double.greatestInt64, Nat.pow_eq]
  omega

theorem clamped_of_fits {z : ℤ} (h : Fits 64 z) : clamped z = z := by
  rw [fits_64_iff] at h
  simp only [clamped, Double.leastInt64, Double.greatestInt64, Nat.pow_eq]
  omega

theorem integer_of_whole {v : Value} {z : ℤ} (h : v.whole? = some z) :
    integer v = .ok (clamped z) := by
  obtain ⟨x, hx, hz⟩ := Option.bind_eq_some_iff.1 h
  simp [integer, number, hx, hz, clamped, bind, Except.bind, pure, Except.pure]

theorem integer_of_not_whole {v : Value} (h : v.whole? = none) :
    integer v = match v.number? with
      | some x => fail (.notInteger x)
      | none => fail (.notNumber v.kind) := by
  unfold Value.whole? at h
  cases hx : v.number? with
  | none => simp [integer, number, hx, fail, bind, Except.bind]
  | some x =>
    rw [hx, Option.bind_some] at h
    simp [integer, number, hx, h, fail, bind, Except.bind]

/-- Operands that stand for a whole number are taken as it, clamped. -/
theorem integer_eq_ok_iff {v : Value} {i : ℤ} :
    integer v = .ok i ↔ ∃ z, v.whole? = some z ∧ clamped z = i := by
  cases h : v.whole? with
  | some z => simp [integer_of_whole h]
  | none =>
    rw [integer_of_not_whole h]
    cases v.number? <;> simp [fail]

end Calc

end CardPress
