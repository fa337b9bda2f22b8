import CardPress.Number.Double
import CardPress.Proofs.Number.Rounding

/-!
# Doubles and their bits

A double is its sign and its magnitude. A finite one is a mantissa and an exponent of the format,
and the double closest to its own value is the double itself.

## Main results

* `Double.ofMagnitude_magnitude` — a double is put together from its parts.
* `Double.magnitude_ofMagnitude` — what is put together has these parts, unless it is a NaN.
* `Double.ofFraction_of_decode` — a finite double is closest to its value.
* `Double.decode_ofMagnitude` — what is put together of a mantissa and an exponent is taken apart
  into them.
-/

namespace CardPress.Double

variable {x : Float} {b : Binary}

theorem toNat_eq (x : Float) :
    x.toBits.toNat = magnitude x + if isNegative x then Nat.pow 2 63 else 0 := by
  have hlt : x.toBits.toNat < 2 ^ 64 := x.toBits.toNat_lt
  simp only [magnitude, isNegative, Nat.pow_eq, decide_eq_true_eq]
  split <;> omega

/-- A double is put together from its sign and its magnitude. -/
theorem ofMagnitude_magnitude (x : Float) : ofMagnitude (isNegative x) (magnitude x) = x := by
  rw [ofMagnitude, ← toNat_eq, UInt64.ofNat_toNat, Float.ofBits_toBits]

/-- Doubles of one sign and one magnitude are the same. -/
theorem eq_of_magnitude {y : Float} (hsign : isNegative x = isNegative y)
    (hmagnitude : magnitude x = magnitude y) : x = y := by
  rw [← ofMagnitude_magnitude x, hsign, hmagnitude, ofMagnitude_magnitude]

/-- Bits that are not those of a NaN are kept. -/
theorem toBits_ofBits {bits : UInt64} (h : bits.toNat % 2 ^ 63 ≤ infiniteMagnitude) :
    (Float.ofBits bits).toBits = bits := by
  have hvalid : Float.Model.Format.binary64.Valid bits.toBitVec := by
    refine ⟨fun hexponent hmantissa => absurd ?_ hmantissa⟩
    have hexponent := congrArg BitVec.toNat hexponent
    apply BitVec.eq_of_toNat_eq
    simp [Float.Model.UnpackedFloat.unpackExponent, Float.Model.UnpackedFloat.unpackMantissa,
      BitVec.extractLsb_toNat, Nat.shiftRight_eq_div_pow, infiniteMagnitude] at hexponent h ⊢
    omega
  apply UInt64.toBitVec_inj.1
  exact Float.Model.UnpackedFloat.pack_unpack_of_valid hvalid

section

variable {negative : Bool} {k : ℕ} (h : k ≤ infiniteMagnitude)

include h

theorem toNat_ofMagnitude :
    (ofMagnitude negative k).toBits.toNat = k + if negative then Nat.pow 2 63 else 0 := by
  have hlt : k + (if negative then Nat.pow 2 63 else 0) < 2 ^ 64 := by
    simp only [infiniteMagnitude, Nat.pow_eq] at h ⊢
    split <;> omega
  have hnat : (UInt64.ofNat (k + if negative then Nat.pow 2 63 else 0)).toNat =
      k + if negative then Nat.pow 2 63 else 0 := by
    rw [UInt64.toNat_ofNat', Nat.mod_eq_of_lt hlt]
  rw [ofMagnitude, toBits_ofBits, hnat]
  rw [hnat]
  simp only [infiniteMagnitude, Nat.pow_eq] at h ⊢
  split <;> omega

/-- What is put together has these parts. -/
theorem magnitude_ofMagnitude : magnitude (ofMagnitude negative k) = k := by
  rw [magnitude, toNat_ofMagnitude h]
  simp only [infiniteMagnitude, Nat.pow_eq] at h ⊢
  split <;> omega

theorem isNegative_ofMagnitude : isNegative (ofMagnitude negative k) = negative := by
  rw [isNegative, toNat_ofMagnitude h]
  simp only [infiniteMagnitude, Nat.pow_eq] at h ⊢
  cases negative <;> simp <;> omega

end

/-! ## Mantissas and exponents -/

theorem isFinite_iff : isFinite x = true ↔ magnitude x < infiniteMagnitude := by
  rw [isFinite, decide_eq_true_eq]

theorem isFinite_of_decode (h : decode? x = some b) : isFinite x = true := by
  by_contra hinfinite
  rw [decode?, if_neg hinfinite] at h
  cases h

theorem exists_decode (h : isFinite x = true) : ∃ b, decode? x = some b := by
  rw [decode?, if_pos h]
  exact ⟨_, rfl⟩

/-- A finite double has the mantissa and the exponent of its magnitude. -/
theorem decode_cases (h : decode? x = some b) :
    b.negative = isNegative x ∧ magnitude x < 2047 * 2 ^ 52 ∧
      (magnitude x < 2 ^ 52 ∧ b.mantissa = magnitude x ∧ b.exponent = -1074 ∨
        2 ^ 52 ≤ magnitude x ∧ b.mantissa = magnitude x % 2 ^ 52 + 2 ^ 52 ∧
          b.exponent = (magnitude x / 2 ^ 52 : ℕ) - 1075) := by
  have hfinite := isFinite_of_decode h
  rw [decode?, if_pos hfinite] at h
  simp only [Option.some.injEq, Nat.pow_eq] at h
  rw [isFinite_iff, infiniteMagnitude] at hfinite
  split at h
  · next hfield =>
    subst h
    exact ⟨rfl, by omega, .inl ⟨by omega, by dsimp only; omega, rfl⟩⟩
  · next hfield =>
    subst h
    exact ⟨rfl, by omega, .inr ⟨by omega, rfl, rfl⟩⟩

theorem represents_of_decode (h : decode? x = some b) :
    BinaryFormat.double.Represents b.mantissa b.exponent := by
  obtain ⟨-, hfinite, hcases⟩ := decode_cases h
  constructor <;> simp only [BinaryFormat.double] <;> omega

/-- The magnitude that a mantissa and an exponent of the format give. -/
def magnitudeOf (mantissa : ℕ) (exponent : ℤ) : ℕ :=
  if mantissa < Nat.pow 2 52 then mantissa
  else (exponent + 1075).toNat * Nat.pow 2 52 + (mantissa - Nat.pow 2 52)

theorem ofFraction_of_nearest {num den mantissa : ℕ} {exponent : ℤ} (negative : Bool)
    (h : BinaryFormat.double.nearest num den = some (mantissa, exponent)) :
    ofFraction negative num den = ofMagnitude negative (magnitudeOf mantissa exponent) := by
  rw [ofFraction, h, magnitudeOf]
  dsimp only
  split <;> rfl

theorem magnitudeOf_decode (h : decode? x = some b) :
    magnitudeOf b.mantissa b.exponent = magnitude x := by
  obtain ⟨-, -, hcases⟩ := decode_cases h
  simp only [magnitudeOf, Nat.pow_eq]
  split <;> omega

theorem magnitudeOf_lt {mantissa : ℕ} {exponent : ℤ}
    (h : BinaryFormat.double.Represents mantissa exponent) :
    magnitudeOf mantissa exponent < infiniteMagnitude := by
  have hlt := h.lt
  have hgreatest := h.greatest
  simp only [BinaryFormat.double] at hlt hgreatest
  simp only [magnitudeOf, infiniteMagnitude, Nat.pow_eq]
  split <;> omega

/-- What the format has is taken apart into just that. -/
theorem decode_ofMagnitude {mantissa : ℕ} {exponent : ℤ} (negative : Bool)
    (h : BinaryFormat.double.Represents mantissa exponent) :
    decode? (ofMagnitude negative (magnitudeOf mantissa exponent)) =
      some ⟨negative, mantissa, exponent⟩ := by
  have hfinite := magnitudeOf_lt h
  have hmagnitude : magnitude (ofMagnitude negative (magnitudeOf mantissa exponent)) =
      magnitudeOf mantissa exponent := magnitude_ofMagnitude hfinite.le
  obtain ⟨b, hb⟩ := exists_decode (isFinite_iff.2 (hmagnitude ▸ hfinite))
  obtain ⟨hsign, -, hcases⟩ := decode_cases hb
  rw [isNegative_ofMagnitude hfinite.le] at hsign
  rw [hmagnitude] at hcases
  have hlt := h.lt
  have hleast := h.least
  have hfull := h.full
  simp only [BinaryFormat.double] at hlt hleast hfull
  simp only [magnitudeOf, Nat.pow_eq] at hcases
  have hparts : b.mantissa = mantissa ∧ b.exponent = exponent := by
    split at hcases <;> omega
  rw [hb]
  obtain ⟨own, _, _⟩ := b
  obtain ⟨rfl, rfl⟩ := hparts
  exact congrArg (fun sign => some (Binary.mk sign _ _)) hsign

/-- A finite double is what its mantissa and its exponent are read as. -/
theorem ofFraction_of_decode (h : decode? x = some b) {num den : ℕ}
    (hnearest : BinaryFormat.double.nearest num den = some (b.mantissa, b.exponent)) :
    ofFraction (isNegative x) num den = x := by
  rw [ofFraction_of_nearest _ hnearest, magnitudeOf_decode h, ofMagnitude_magnitude]

/-- What is closest to a fraction is finite unless the fraction is too large. -/
theorem isFinite_ofFraction {num den mantissa : ℕ} {exponent : ℤ} (hden : 0 < den) (negative : Bool)
    (h : BinaryFormat.double.nearest num den = some (mantissa, exponent)) :
    isFinite (ofFraction negative num den) = true := by
  obtain ⟨hlt, hgreatest⟩ := BinaryFormat.nearest_lt hden h
  have hmagnitude : magnitudeOf mantissa exponent < infiniteMagnitude := by
    simp only [magnitudeOf, BinaryFormat.double, infiniteMagnitude, Nat.pow_eq] at hlt hgreatest ⊢
    split <;> omega
  rw [ofFraction_of_nearest negative h, isFinite_iff, magnitude_ofMagnitude hmagnitude.le]
  exact hmagnitude

/-! ## Whole numbers -/

theorem isFinite_ofInt {n : ℤ} (h : n.natAbs ≤ 2 ^ 64) : isFinite (ofInt n) = true := by
  have hsmall : (n.natAbs : ℚ) / (1 : ℕ) <
      2 ^ ((BinaryFormat.double.precision : ℤ) - 1 + BinaryFormat.double.greatestExponent) := by
    have hcast : (n.natAbs : ℚ) ≤ 2 ^ 64 := by exact_mod_cast h
    have hlt : (2 : ℚ) ^ 64 < 2 ^ (1023 : ℤ) := by
      rw [← zpow_natCast]
      exact zpow_lt_zpow_right₀ (by norm_num) (by norm_num)
    simpa [BinaryFormat.double] using hcast.trans_lt hlt
  obtain ⟨mantissa, exponent, hnearest⟩ :=
    BinaryFormat.exists_nearest (by decide) one_pos hsmall
  exact isFinite_ofFraction one_pos _ hnearest

theorem whole?_cases {n : ℤ} (h : b.whole? = some n) :
    (b.mantissa : ℚ) * 2 ^ b.exponent = n.natAbs ∧ (n ≠ 0 → b.negative = decide (n < 0)) := by
  obtain ⟨negative, mantissa, exponent⟩ := b
  have hsigned : ∀ k : ℕ, (if negative = true then -(k : ℤ) else k) = n →
      k = n.natAbs ∧ (n ≠ 0 → negative = decide (n < 0)) := by
    rintro k rfl
    cases negative <;> simp
    omega
  cases exponent with
  | ofNat e =>
    have hinteger : some (if negative = true then -((mantissa * Nat.pow 2 e : ℕ) : ℤ)
        else (mantissa * Nat.pow 2 e : ℕ)) = some n := h
    obtain ⟨habs, hsign⟩ := hsigned _ (Option.some.inj hinteger)
    refine ⟨?_, hsign⟩
    rw [← habs, Int.ofNat_eq_natCast, zpow_natCast, Nat.pow_eq]
    push_cast
    ring
  | negSucc e =>
    by_cases hdvd : mantissa % Nat.pow 2 (e + 1) = 0
    · have hinteger : some (if negative = true then -((mantissa / Nat.pow 2 (e + 1) : ℕ) : ℤ)
          else (mantissa / Nat.pow 2 (e + 1) : ℕ)) = some n := by
        rw [← h, Binary.whole?]
        dsimp only
        rw [if_pos hdvd]
        rfl
      obtain ⟨habs, hsign⟩ := hsigned _ (Option.some.inj hinteger)
      refine ⟨?_, hsign⟩
      have hmul : mantissa = 2 ^ (e + 1) * n.natAbs := by
        rw [← habs, Nat.pow_eq]
        exact (Nat.mul_div_cancel' (Nat.dvd_of_mod_eq_zero hdvd)).symm
      rw [hmul, zpow_negSucc]
      push_cast
      field_simp
    · have hnone : Binary.whole? ⟨negative, mantissa, Int.negSucc e⟩ = none := by
        rw [Binary.whole?]
        dsimp only
        rw [if_neg hdvd]
        rfl
      rw [hnone] at h
      cases h

theorem magnitude_eq_zero_of_value (h : decode? x = some b)
    (hvalue : (b.mantissa : ℚ) * 2 ^ b.exponent = 0) : magnitude x = 0 := by
  have hmantissa : b.mantissa = 0 := by
    simpa [zpow_ne_zero] using hvalue
  obtain ⟨-, -, hcases⟩ := decode_cases h
  omega

theorem whole?_eq_some_zero_iff : whole? x = some 0 ↔ magnitude x = 0 := by
  constructor
  · intro h
    obtain ⟨b, hdecode, hwhole⟩ := Option.bind_eq_some_iff.1 h
    exact magnitude_eq_zero_of_value hdecode (by simpa using (whole?_cases hwhole).1)
  · intro h
    have hdecode : decode? x = some ⟨isNegative x, 0, Int.negSucc 1073⟩ := by
      rw [decode?, if_pos (by rw [isFinite_iff, h]; decide), h]
      rfl
    have hwhole : ∀ negative e, Binary.whole? ⟨negative, 0, Int.negSucc e⟩ = some 0 := by
      intro negative e
      rw [Binary.whole?]
      dsimp only
      rw [if_pos (Nat.zero_mod _), Nat.zero_div]
      cases negative <;> rfl
    rw [whole?, hdecode, Option.bind_some, hwhole]

/-- What stands for a whole number other than zero is the double closest to it. -/
theorem ofInt_of_whole {n : ℤ} (h : whole? x = some n) (hn : n ≠ 0) : ofInt n = x := by
  obtain ⟨b, hb, hbn⟩ := Option.bind_eq_some_iff.1 h
  obtain ⟨hvalue, hsign⟩ := whole?_cases hbn
  have hmantissa : b.mantissa ≠ 0 := by
    intro hzero
    rw [hzero, Nat.cast_zero, zero_mul] at hvalue
    exact hn (by simpa using hvalue.symm)
  have hnearest : BinaryFormat.double.nearest n.natAbs 1 = some (b.mantissa, b.exponent) :=
    BinaryFormat.nearest_exact (represents_of_decode hb) hmantissa one_pos
      (by simpa using hvalue.symm)
  have hnegative : isNegative x = decide (n < 0) := (decode_cases hb).1.symm.trans (hsign hn)
  rw [ofInt, ← hnegative, ofFraction_of_decode hb hnearest]

/-- A whole number is kept in at most one way but for the sign of zero. -/
theorem eq_of_whole {y : Float} {n : ℤ} (hx : whole? x = some n) (hy : whole? y = some n) :
    magnitude x = magnitude y ∧ (n ≠ 0 → x = y) := by
  by_cases hn : n = 0
  · subst hn
    rw [whole?_eq_some_zero_iff.1 hx, whole?_eq_some_zero_iff.1 hy]
    exact ⟨rfl, fun hne => absurd rfl hne⟩
  · have heq := (ofInt_of_whole hx hn).symm.trans (ofInt_of_whole hy hn)
    exact ⟨congrArg magnitude heq, fun _ => heq⟩

/-- Finite doubles are equal if they are the same or both zero. -/
theorem equal_iff {y : Float} (hx : isFinite x = true) (hy : isFinite y = true) :
    equal x y = true ↔ x = y ∨ magnitude x = 0 ∧ magnitude y = 0 := by
  have hkey : ∀ {z}, isFinite z = true →
      key? z = some (if isNegative z then -(magnitude z : ℤ) else magnitude z) := by
    intro z hz
    rw [key?, if_neg]
    rw [isFinite_iff] at hz
    rw [isNaN, decide_eq_true_eq]
    omega
  rw [equal, hkey hx, hkey hy]
  dsimp only
  rw [beq_iff_eq]
  constructor
  · intro h
    by_cases hsign : isNegative x = isNegative y
    · exact .inl (eq_of_magnitude hsign (by split_ifs at h <;> simp_all))
    · exact .inr (by cases hxs : isNegative x <;> cases hys : isNegative y <;> simp_all)
  · rintro (rfl | ⟨hx, hy⟩)
    · rfl
    · simp [hx, hy]

/-- The double closest to the whole number that a double stands for is equal to it. -/
theorem equal_ofInt {n : ℤ} (h : whole? x = some n) : equal (ofInt n) x = true := by
  obtain ⟨b, hb, -⟩ := Option.bind_eq_some_iff.1 h
  have hfinite := isFinite_of_decode hb
  by_cases hn : n = 0
  · subst hn
    exact (equal_iff (isFinite_ofInt (by decide)) hfinite).2
      (.inr ⟨by decide, whole?_eq_some_zero_iff.1 h⟩)
  · rw [ofInt_of_whole h hn]
    exact (equal_iff hfinite hfinite).2 (.inl rfl)

end CardPress.Double
