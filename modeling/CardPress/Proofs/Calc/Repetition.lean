import CardPress.Proofs.Calc.Integers

/-!
# Repeating strings and sequences

A string or a sequence times a whole number is repeated that often, and not at all for a negative
number. It must not become longer than a bound, which is exact although the number has been clamped
to 64 bits and the length is computed with numbers of 64 bits.

## Main definitions

* `Value.units?`, `Value.repeated` — how long something is that can be repeated, and what becomes of
  it.
* `Calc.Factors` — something to repeat and a number, in either order.

## Main results

* `Value.repeated_repeated` — repeating twice is repeating by the product.
* `Calc.multiply_eq_of_units` — the number may be on either side.
* `Calc.repetitions_eq_repetitionsWith` — the product of 64 bits that is checked decides rightly.
* `Calc.repetitions_of_whole` — the bound is exact.
* `Calc.multiply_repeats` — what repeating gives and when.
-/

namespace CardPress

/-! ## Repeated values -/

namespace Value

/-- The bytes of a string, the items of a sequence. -/
def units? : Value → Option ℕ
  | .string s => some s.utf8ByteSize
  | .sequence items => some items.length
  | _ => none

/-- A string or a sequence so many times in a row. -/
def repeated : Value → ℕ → Value
  | .string s, times => .string (String.join (List.replicate times s))
  | .sequence items, times => .sequence (List.replicate times items).flatten
  | v, _ => v

variable {v : Value} {length : ℕ}

theorem join_replicate_succ (s : String) (times : ℕ) :
    String.join (List.replicate (times + 1) s) = s ++ String.join (List.replicate times s) := by
  rw [List.replicate_succ, String.join_cons]

theorem join_replicate_add (s : String) (a b : ℕ) :
    String.join (List.replicate (a + b) s) =
      String.join (List.replicate a s) ++ String.join (List.replicate b s) := by
  induction a with
  | zero => simp
  | succ a ih =>
    rw [Nat.succ_add, join_replicate_succ, ih, join_replicate_succ, String.append_assoc]

theorem units?_repeated (h : v.units? = some length) (times : ℕ) :
    (v.repeated times).units? = some (length * times) := by
  cases v with
  | string s =>
    cases h
    induction times with
    | zero => rfl
    | succ times ih =>
      simp only [repeated, units?, Option.some.injEq] at ih ⊢
      rw [join_replicate_succ, String.utf8ByteSize_append, ih, Nat.mul_succ, Nat.add_comm]
  | sequence items =>
    cases h
    simp [repeated, units?, Nat.mul_comm]
  | _ => cases h

/-- What is empty stays so. -/
theorem repeated_of_units_zero (h : v.units? = some 0) (times : ℕ) : v.repeated times = v := by
  cases v with
  | string s =>
    have hs : s = "" := by simpa [units?] using h
    subst hs
    induction times with
    | zero => rfl
    | succ times ih =>
      simp only [repeated, string.injEq] at ih ⊢
      rw [join_replicate_succ, ih, String.empty_append]
  | sequence items =>
    have hitems : items = [] := by simpa [units?] using h
    subst hitems
    simp [repeated]
  | _ => cases h

/-- Repeating twice is repeating by the product. -/
theorem repeated_repeated (h : v.units? = some length) (a b : ℕ) :
    (v.repeated a).repeated b = v.repeated (a * b) := by
  cases v with
  | string s =>
    induction b with
    | zero => rfl
    | succ b ih =>
      simp only [repeated, string.injEq] at ih ⊢
      rw [join_replicate_succ, ih, Nat.mul_succ, Nat.add_comm, join_replicate_add]
  | sequence items =>
    induction b with
    | zero => rfl
    | succ b ih =>
      simp only [repeated, sequence.injEq] at ih ⊢
      rw [List.replicate_succ, List.flatten_cons, ih, Nat.mul_succ, Nat.add_comm,
        ← List.replicate_append_replicate, List.flatten_append]
  | _ => cases h

end Value

/-! ## Counts -/

namespace Calc

variable {v count : Value} {length : ℕ} {n : ℤ}

theorem maxRepeatedLength_eq : maxRepeatedLength = 16777216 := rfl

/-- A product that overflows is too large anyway. -/
theorem repetitions_eq_repetitionsWith (length : ℕ) (count : Value) :
    repetitions length count = repetitionsWith (fun a b => some (a * b)) length count := by
  unfold repetitions repetitionsWith
  refine bind_congr fun i => ?_
  simp only [Machine.product?, Nat.pow_eq]
  by_cases hfits : length * i.toNat < 2 ^ 64
  · rw [if_pos hfits]
  · have hlarge : ¬ length * i.toNat ≤ maxRepeatedLength := by
      rw [maxRepeatedLength_eq]
      omega
    simp only [if_neg hfits, if_neg hlarge]

/-- The bound is exact: a count that is clamped is past it before and after. -/
theorem repetitions_of_whole (h : count.whole? = some n) (length : ℕ) :
    repetitions length count =
      if length = 0 then .ok 0
      else if length * n.toNat ≤ maxRepeatedLength then .ok n.toNat
      else fail .repetitionTooLarge := by
  have hcases : (clamped n).toNat = n.toNat ∨ 2 ^ 62 ≤ (clamped n).toNat ∧ 2 ^ 62 ≤ n.toNat := by
    simp only [clamped, Double.leastInt64, Double.greatestInt64, Nat.pow_eq]
    omega
  rw [repetitions_eq_repetitionsWith, repetitionsWith, integer_of_whole h]
  simp only [bind, Except.bind, pure, Except.pure]
  split
  · rfl
  · next hlength =>
    obtain hsame | ⟨hclamped, hn⟩ := hcases
    · rw [hsame]
    · have hpast {k : ℕ} (hk : 2 ^ 62 ≤ k) : ¬ length * k ≤ maxRepeatedLength := by
        have := Nat.le_mul_of_pos_left k (Nat.pos_of_ne_zero hlength)
        rw [maxRepeatedLength_eq]
        omega
      rw [if_neg (hpast hclamped), if_neg (hpast hn)]

/-! ## Repeating -/

theorem multiply_eq_of_units (h : v.units? = some length) (x : Float) :
    multiply v (.number x) = (repetitions length (.number x)).map v.repeated ∧
      multiply (.number x) v = (repetitions length (.number x)).map v.repeated := by
  cases v with
  | string s =>
    cases h
    constructor <;>
      · simp only [multiply, repeatString, bind, Except.bind]
        cases repetitions s.utf8ByteSize (.number x) <;> rfl
  | sequence items =>
    cases h
    constructor <;>
      · simp only [multiply, repeatItems, bind, Except.bind]
        cases repetitions items.length (.number x) <;> rfl
  | _ => cases h

/-- Something that can be repeated and a whole number, on either side. -/
def Factors (v : Value) (x : Float) (args : List Value) : Prop :=
  args = [v, .number x] ∨ args = [.number x, v]

theorem calculate_repeat {x : Float} {args : List Value} (hv : v.units? = some length)
    (hx : Double.whole? x = some n) (hargs : Factors v x args) :
    calculate "*" args =
      if length = 0 ∨ length * n.toNat ≤ maxRepeatedLength then .ok (v.repeated n.toNat)
      else .error (.calculation "*" .repetitionTooLarge) := by
  have hmultiply : calculate "*" args =
      ((repetitions length (.number x)).map v.repeated).mapError (named "*") := by
    obtain ⟨hleft, hright⟩ := multiply_eq_of_units hv x
    rcases hargs with rfl | rfl
    · rw [← hleft]
      rfl
    · rw [← hright]
      rfl
  have hcount : (Value.number x).whole? = some n := hx
  rw [hmultiply, repetitions_of_whole hcount]
  by_cases hzero : length = 0
  · subst hzero
    rw [if_pos rfl, if_pos (.inl rfl), Value.repeated_of_units_zero hv]
    exact congrArg Except.ok (Value.repeated_of_units_zero hv 0)
  · by_cases hbound : length * n.toNat ≤ maxRepeatedLength
    · rw [if_neg hzero, if_pos hbound, if_pos (.inr hbound)]
      rfl
    · rw [if_neg hzero, if_neg hbound, if_neg (by tauto)]
      rfl

/-- Repeating by two counts in a row is repeating by their product. The product has a double unless
nothing is repeated, and then every count will do. -/
theorem calculate_repeat_repeat {x y : Float} {a b : ℕ} {w u : Value} {args args' : List Value}
    (hv : v.units? = some length) (hx : Double.whole? x = some (a : ℤ))
    (hy : Double.whole? y = some (b : ℤ)) (hargs : Factors v x args) (hargs' : Factors w y args')
    (hw : calculate "*" args = .ok w) (hu : calculate "*" args' = .ok u) :
    (length ≠ 0 → Double.whole? (Double.ofInt (a * b)) = some (a * b : ℤ)) ∧
      ∀ z k args'', Double.whole? z = some k → k = a * b ∨ length = 0 → Factors v z args'' →
        calculate "*" args'' = .ok u := by
  rw [calculate_repeat hv hx hargs] at hw
  split at hw
  case isFalse => cases hw
  cases hw
  rw [calculate_repeat (Value.units?_repeated hv _) hy hargs'] at hu
  split at hu
  case isFalse => cases hu
  next hsecond =>
  cases hu
  simp only [Int.toNat_natCast] at hsecond ⊢
  have hproduct : length = 0 ∨ length * (a * b) ≤ maxRepeatedLength := by
    rcases hsecond with hempty | hsecond
    · rcases Nat.mul_eq_zero.1 hempty with hlength | rfl
      · exact .inl hlength
      · simp
    · exact .inr (Nat.mul_assoc length a b ▸ hsecond)
  rw [Value.repeated_repeated hv]
  constructor
  · intro hlength
    apply Double.whole?_ofInt
    have hbound := hproduct.resolve_left hlength
    have hle := Nat.le_mul_of_pos_left (a * b) (Nat.pos_of_ne_zero hlength)
    rw [maxRepeatedLength_eq] at hbound
    rw [← Nat.cast_mul, Int.natAbs_natCast]
    omega
  · intro z k args'' hz hk hargs''
    rw [calculate_repeat hv hz hargs'']
    rcases hk with rfl | rfl
    · have hcast : (a * b : ℤ).toNat = a * b := by rw [← Nat.cast_mul, Int.toNat_natCast]
      rw [hcast, if_pos hproduct]
    · rw [if_pos (.inl rfl), Value.repeated_of_units_zero hv, Value.repeated_of_units_zero hv]

/-- Something with a length times a whole number is repeated that often, and not at all for a
negative number, if that does not take it past the bound; the product with 64 bits that is checked
for overflow decides this rightly. Repeating by two numbers in a row is repeating by their
product. -/
theorem multiply_repeats (hv : v.units? = some length) {x : Float} (hx : Double.whole? x = some n) :
    (∀ args, Factors v x args → calculate "*" args =
      if length = 0 ∨ length * n.toNat ≤ maxRepeatedLength then .ok (v.repeated n.toNat)
      else .error (.calculation "*" .repetitionTooLarge)) ∧
    (v.repeated n.toNat).units? = some (length * n.toNat) ∧
    repetitions length (.number x) =
      repetitionsWith (fun a b => some (a * b)) length (.number x) ∧
    ∀ y m w u args args', 0 ≤ n → 0 ≤ m → Double.whole? y = some m → Factors v x args →
      Factors w y args' → calculate "*" args = .ok w → calculate "*" args' = .ok u →
      (length ≠ 0 → Double.whole? (Double.ofInt (n * m)) = some (n * m)) ∧
      ∀ z k args'', Double.whole? z = some k → k = n * m ∨ length = 0 → Factors v z args'' →
        calculate "*" args'' = .ok u := by
  refine ⟨fun args => calculate_repeat hv hx, Value.units?_repeated hv _,
    repetitions_eq_repetitionsWith _ _, ?_⟩
  intro y m w u args args' hn hm hy hargs hargs' hw hu
  obtain ⟨a, rfl⟩ := Int.eq_ofNat_of_zero_le hn
  obtain ⟨b, rfl⟩ := Int.eq_ofNat_of_zero_le hm
  exact calculate_repeat_repeat hv hx hy hargs hargs' hw hu

/-- Two items. -/
def couple : Value :=
  .sequence [.null, .string "é"]

/-- Repeated until the bound is reached, and then once more. -/
theorem multiply_repeats_couple :
    couple.units? = some 2 ∧ Double.whole? 4194304.0 = some 4194304 ∧
      calculate "*" [.number 4194304.0, couple] = .ok (couple.repeated 4194304) ∧
      calculate "*" [couple.repeated 4194304, .number 2.0] = .ok (couple.repeated 8388608) ∧
      calculate "*" [couple, .number 8388608.0] = .ok (couple.repeated 8388608) ∧
      calculate "*" [couple, .number 8388609.0] =
        .error (.calculation "*" .repetitionTooLarge) ∧
      calculate "*" [couple, .number (-1.0)] = .ok (couple.repeated 0) := by
  have hcouple : couple.units? = some 2 := rfl
  have hfirst : Double.whole? 4194304.0 = some 4194304 := by decide
  have hsecond : Double.whole? 2.0 = some 2 := by decide
  obtain ⟨hrepeat, hunits, -, htwice⟩ := multiply_repeats hcouple hfirst
  have hw := hrepeat _ (.inr rfl)
  have hu := (multiply_repeats hunits hsecond).1 _ (.inl rfl)
  rw [if_pos (by decide)] at hw hu
  rw [Value.repeated_repeated hcouple] at hu
  have htwo := htwice 2.0 2 _ _ _ _ (by decide) (by decide) hsecond (.inr rfl) (.inl rfl) hw hu
  have hproduct := htwo.2
    8388608.0 8388608 _ (by decide) (.inl (by decide)) (.inl rfl)
  have hwhole : Double.whole? 8388609.0 = some 8388609 := by decide
  have hpast := (multiply_repeats hcouple hwhole).1 _ (.inl rfl)
  have hnegative := (multiply_repeats hcouple (show Double.whole? (-1.0) = some (-1) by decide)).1 _
    (.inl rfl)
  rw [if_neg (by decide)] at hpast
  rw [if_pos (by decide)] at hnegative
  exact ⟨hcouple, hfirst, hw, hu, hproduct, hpast, hnegative⟩

end Calc

end CardPress
