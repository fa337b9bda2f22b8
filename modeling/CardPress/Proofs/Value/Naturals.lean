import CardPress.Proofs.Number.Doubles
import CardPress.Proofs.Outcome
import CardPress.Value.Reading

/-!
# Natural numbers among the parameters

A parameter is read as a natural number by rounding. What is read has 32 bits, and every number of
32 bits can be read: as itself.

## Main results

* `Value.lt_of_naturalOf` — what is read is below `2 ^ 32`.
* `Value.naturalOf_ofInt` — numbers below `2 ^ 32` are read as they are.
* `Value.lt_of_readSize`, `Value.readSize_ofNat` — the same for both sides of a size.
-/

namespace CardPress.Value

variable {x : Float} {b : Binary} {n : ℕ}

/-- A double without sign is above the greatest number that is read if its bits are. -/
theorem compare_eq_gt_iff (h : Double.decode? x = some b) (hsign : b.negative = false) :
    Double.compare? x (Double.ofInt greatestNatural) = some .gt ↔
      0x41EFFFFFFFE00000 < Double.magnitude x := by
  have hfinite := Double.isFinite_iff.1 (Double.isFinite_of_decode h)
  have hnumber : Double.isNaN x = false := decide_eq_false (Nat.lt_asymm hfinite)
  have hkey : Double.key? x = some (Double.magnitude x : ℤ) := by
    rw [Double.key?, hnumber, ← (Double.decode_cases h).1, hsign]
    rfl
  have hgreatest : Double.key? (Double.ofInt greatestNatural) = some 0x41EFFFFFFFE00000 := by
    decide
  rw [Double.compare?, hkey, hgreatest, Option.some.injEq, Std.compare_eq_gt]
  omega

/-- A fraction rounds to below a number if it is by more than half below it. -/
theorem roundAway_lt_of_negSucc {mantissa e bound : ℕ}
    (h : 2 * mantissa < (2 * bound - 1) * 2 ^ (e + 1)) :
    (Binary.roundAway ⟨false, mantissa, .negSucc e⟩).toNat < bound := by
  have hquotient : 2 * mantissa / 2 ^ (e + 1) < 2 * bound - 1 :=
    (Nat.div_lt_iff_lt_mul (Nat.two_pow_pos _)).2 h
  show (2 * mantissa / 2 ^ (e + 1) + 1) / 2 < bound
  generalize 2 * mantissa / 2 ^ (e + 1) = quotient at hquotient ⊢
  omega

/-- Rounding a double up to the greatest number that is read stays below `2 ^ 32`. -/
theorem roundAway_lt (h : Double.decode? x = some b) (hsign : b.negative = false)
    (hmagnitude : Double.magnitude x ≤ 0x41EFFFFFFFE00000) : b.roundAway.toNat < 2 ^ 32 := by
  obtain ⟨-, -, hcases⟩ := Double.decode_cases h
  obtain ⟨negative, mantissa, exponent⟩ := b
  subst hsign
  dsimp only at hcases
  -- The exponent is negative for the numbers below `2 ^ 53`; `2 ^ 21` is the unit of the greatest.
  obtain ⟨e, rfl⟩ : ∃ e : ℕ, exponent = .negSucc (e + 20) := by
    refine ⟨(-exponent - 21).toNat, ?_⟩
    rw [Int.negSucc_eq]
    omega
  refine roundAway_lt_of_negSucc ?_
  rw [Int.negSucc_eq] at hcases
  rcases Nat.eq_zero_or_pos e with rfl | he
  · omega
  · have hunit : 2 ^ 22 ≤ 2 ^ (e + 20 + 1) := Nat.pow_le_pow_right two_pos (by omega)
    omega

theorem lt_of_naturalOf (h : naturalOf? x = some n) : n < 2 ^ 32 := by
  rw [naturalOf?] at h
  cases hdecode : Double.decode? x with
  | none =>
    rw [hdecode] at h
    cases h
  | some b =>
    simp only [hdecode] at h
    split at h
    · cases h
    split at h
    · cases h
    next hcompare =>
    cases h
    cases hsign : b.negative with
    | false =>
      rw [compare_eq_gt_iff hdecode hsign, Nat.not_lt] at hcompare
      exact roundAway_lt hdecode hsign hcompare
    | true =>
      rw [Binary.roundAway, if_pos hsign, Int.toNat_neg_natCast]
      exact Nat.two_pow_pos 32

/-! ## Numbers that are read as themselves -/

/-- A number in the format: shifted to 53 bits. -/
theorem represents_shifted {k : ℕ} (hk : k < 32) (hlow : 2 ^ k ≤ n) (hhigh : n < 2 ^ (k + 1)) :
    BinaryFormat.double.Represents (n * 2 ^ (52 - k)) (.negSucc (51 - k)) := by
  have hbelow : n * 2 ^ (52 - k) < 2 ^ (k + 1) * 2 ^ (52 - k) :=
    Nat.mul_lt_mul_of_pos_right hhigh (Nat.two_pow_pos _)
  have habove : 2 ^ k * 2 ^ (52 - k) ≤ n * 2 ^ (52 - k) := Nat.mul_le_mul_right _ hlow
  rw [← pow_add, show k + 1 + (52 - k) = 53 by omega] at hbelow
  rw [← pow_add, show k + (52 - k) = 52 by omega] at habove
  constructor
  · exact hbelow
  · simp only [BinaryFormat.double, Int.negSucc_eq]
    omega
  · simp only [BinaryFormat.double, Int.negSucc_eq]
    omega
  · intro _
    simp only [BinaryFormat.double]
    omega

theorem decode_ofInt {k : ℕ} (hk : k < 32) (hlow : 2 ^ k ≤ n) (hhigh : n < 2 ^ (k + 1)) :
    Double.decode? (Double.ofInt n) = some ⟨false, n * 2 ^ (52 - k), .negSucc (51 - k)⟩ := by
  have hrepresents := represents_shifted hk hlow hhigh
  have hvalue : ((n : ℕ) : ℚ) / (1 : ℕ) = (n * 2 ^ (52 - k) : ℕ) * 2 ^ (Int.negSucc (51 - k)) := by
    rw [zpow_negSucc, show 51 - k + 1 = 52 - k by omega]
    push_cast
    field_simp
  have hmantissa : n * 2 ^ (52 - k) ≠ 0 := by
    have hpos : 0 < n := (Nat.two_pow_pos k).trans_le hlow
    positivity
  have hnearest := BinaryFormat.nearest_exact hrepresents hmantissa one_pos hvalue
  have hofInt : Double.ofInt n = Double.ofFraction false n 1 := rfl
  rw [hofInt, Double.ofFraction_of_nearest _ hnearest, Double.decode_ofMagnitude _ hrepresents]

theorem roundAway_shifted {k : ℕ} (hk : k < 32) :
    Binary.roundAway ⟨false, n * 2 ^ (52 - k), .negSucc (51 - k)⟩ = n := by
  have hunit : 51 - k + 1 = 52 - k := by omega
  have hquotient : 2 * (n * 2 ^ (52 - k)) / Nat.pow 2 (51 - k + 1) = 2 * n := by
    rw [hunit, Nat.pow_eq, ← Nat.mul_assoc, Nat.mul_div_cancel _ (Nat.two_pow_pos _)]
  show (((2 * (n * 2 ^ (52 - k)) / Nat.pow 2 (51 - k + 1) + 1) / 2 : ℕ) : ℤ) = n
  rw [hquotient]
  omega

theorem magnitude_le_of_shifted {k : ℕ} (hk : k < 32)
    (hdecode : Double.decode? x = some ⟨false, n * 2 ^ (52 - k), .negSucc (51 - k)⟩) :
    Double.magnitude x ≤ 0x41EFFFFFFFE00000 := by
  obtain ⟨-, -, hcases⟩ := Double.decode_cases hdecode
  simp only [Int.negSucc_eq] at hcases
  -- Among the exponents, that of the greatest number is the only one where the mantissa matters.
  rcases Nat.lt_or_ge k 31 with hlow | hhigh
  · omega
  · obtain rfl : k = 31 := by omega
    omega

/-- Numbers of 32 bits are read as they are. -/
theorem naturalOf_ofInt (h : n < 2 ^ 32) : naturalOf? (Double.ofInt n) = some n := by
  rcases Nat.eq_zero_or_pos n with rfl | hpos
  · decide +kernel
  have hk : n.log2 < 32 := (Nat.log2_lt hpos.ne').2 h
  have hdecode := decode_ofInt hk (Nat.log2_self_le hpos.ne') Nat.lt_log2_self
  rw [naturalOf?, hdecode]
  dsimp only
  rw [if_neg (by simp), if_neg ?_, roundAway_shifted hk]
  · rw [Int.toNat_natCast]
  · rw [compare_eq_gt_iff hdecode rfl, Nat.not_lt]
    exact magnitude_le_of_shifted hk hdecode

/-! ## Parameters -/

section

variable {parameter : String} {v : Value} {width height : ℕ}

theorem lt_of_readNatural (h : v.readNatural parameter = .ok n) : n < 2 ^ 32 := by
  obtain ⟨x, -, h⟩ := bind_eq_ok_iff.1 h
  split at h
  · next hx =>
    cases h
    exact lt_of_naturalOf hx
  · cases h

theorem readNatural_ofNat (parameter : String) (h : n < 2 ^ 32) :
    (ofNat n).readNatural parameter = .ok n := by
  refine bind_eq_ok_iff.2 ⟨Double.ofInt n, rfl, ?_⟩
  rw [naturalOf_ofInt h]

theorem lt_of_readSize (h : v.readSize parameter = .ok (width, height)) :
    width < 2 ^ 32 ∧ height < 2 ^ 32 := by
  obtain ⟨items, -, h⟩ := bind_eq_ok_iff.1 h
  split at h
  · obtain ⟨w, hw, h⟩ := bind_eq_ok_iff.1 h
    obtain ⟨k, hk, h⟩ := bind_eq_ok_iff.1 h
    cases h
    exact ⟨lt_of_readNatural hw, lt_of_readNatural hk⟩
  · cases h

theorem readSize_ofNat (parameter : String) (hwidth : width < 2 ^ 32) (hheight : height < 2 ^ 32) :
    (sequence [ofNat width, ofNat height]).readSize parameter = .ok (width, height) := by
  refine bind_eq_ok_iff.2 ⟨[ofNat width, ofNat height], rfl, ?_⟩
  exact bind_eq_ok_iff.2 ⟨width, readNatural_ofNat parameter hwidth,
    bind_eq_ok_iff.2 ⟨height, readNatural_ofNat parameter hheight, rfl⟩⟩

end

end CardPress.Value
