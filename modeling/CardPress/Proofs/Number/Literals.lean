import CardPress.Number.Literal
import CardPress.Proofs.Json.Numbers

/-!
# Whole numbers as literals

A whole number is read from its decimal digits, with a minus in front if there is one, and from
nothing that has other characters in it.

## Main results

* `Literal.integer?_toString` — a whole number of 64 bits is read as what it was.
* `Literal.integer?_eq_none` — a character that is no digit and no sign spoils a text.
-/

namespace CardPress.Literal

variable {cs : List Char} {c : Char} {s : String} {n : ℤ}

theorem natural?_toDigits (n : ℕ) : natural? (Nat.toDigits 10 n) = some n := by
  have hall : (Nat.toDigits 10 n).all Char.isDigit = true :=
    List.all_eq_true.2 (Json.areDigits_toDigits n).isDigit
  have hne : (Nat.toDigits 10 n).isEmpty = false := by simp
  rw [natural?, hall, hne]
  exact congrArg some (Json.natOfDigits_toDigits n)

theorem natural?_eq_none (hc : c ∈ cs) (h : c.isDigit = false) : natural? cs = none := by
  have hall : cs.all Char.isDigit = false := List.all_eq_false.2 ⟨c, hc, by simp [h]⟩
  simp [natural?, hall]

/-- A whole number of 64 bits is read as what it was. -/
theorem integer?_toString (hlow : Double.leastInt64 ≤ n) (hhigh : n ≤ Double.greatestInt64) :
    integer? (toString n) = some n := by
  have hdigits := Json.areDigits_toDigits n.natAbs
  rw [integer?, Json.toList_toString]
  by_cases hneg : n < 0
  · rw [if_pos hneg, List.singleton_append]
    split
    · next h => cases h
    · next h =>
      cases h
      simp [natural?_toDigits, abs_of_neg hneg, hlow, hhigh]
    · next hminus => exact absurd rfl (hminus _)
  · have habs : (n.natAbs : ℤ) = n := by omega
    simp only [if_neg hneg, List.nil_append]
    split
    · next rest h => cases hdigits.isDigit '+' (h ▸ List.mem_cons_self)
    · next rest h => cases hdigits.isDigit '-' (h ▸ List.mem_cons_self)
    · rw [natural?_toDigits, Option.map_some, Int.ofNat_eq_natCast, habs]
      exact if_pos ⟨hlow, hhigh⟩

theorem integer?_eq_none (hc : c ∈ s.toList) (hdigit : c.isDigit = false) (hplus : c ≠ '+')
    (hminus : c ≠ '-') : integer? s = none := by
  rw [integer?]
  split
  · next rest h =>
    rw [h, List.mem_cons] at hc
    rw [natural?_eq_none (hc.resolve_left hplus) hdigit]
    rfl
  · next rest h =>
    rw [h, List.mem_cons] at hc
    rw [natural?_eq_none (hc.resolve_left hminus) hdigit]
    rfl
  · rw [natural?_eq_none hc hdigit]
    rfl

end CardPress.Literal
