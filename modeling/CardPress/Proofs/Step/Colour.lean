import CardPress.Step.Colour
import Mathlib.Data.List.Basic

/-!
# Colours in hexadecimal digits

A text is a colour if, but for a number sign in front, it is three or four pairs of hexadecimal
digits. The first character of a pair may be a plus sign too, and counts as a zero then. Every other
text is a fault of the parameter.

## Main definitions

* `Rgba.IsDigit` — the hexadecimal digits and their values.
* `Rgba.Spelled` — pairs of characters and the bytes that they stand for.
* `Rgba.Denotes` — the texts of a colour.

## Main results

* `Rgba.pairs?_eq_some_iff` — pairs of digits are read as what they stand for.
* `Rgba.ofValue_string_iff` — which texts are colours, and which.
-/

namespace CardPress.Rgba

/-! ## Texts of colours -/

def lowerDigits : List Char :=
  ['0', '1', '2', '3', '4', '5', '6', '7', '8', '9', 'a', 'b', 'c', 'd', 'e', 'f']

def upperDigits : List Char :=
  ['0', '1', '2', '3', '4', '5', '6', '7', '8', '9', 'A', 'B', 'C', 'D', 'E', 'F']

/-- A character is the digit of a value, in either case. -/
def IsDigit (c : Char) (n : ℕ) : Prop :=
  lowerDigits[n]? = some c ∨ upperDigits[n]? = some c

instance (c : Char) (n : ℕ) : Decidable (IsDigit c n) :=
  inferInstanceAs (Decidable (_ ∨ _))

/-- What may come first in a pair, and what it stands for. -/
def StartsPair (c : Char) (n : ℕ) : Prop :=
  IsDigit c n ∨ c = '+' ∧ n = 0

/-- Pairs of a first character and a digit, and their values in base sixteen. -/
inductive Spelled (first : Char → ℕ → Prop) : List Char → List UInt8 → Prop
  | nil : Spelled first [] []
  | pair {a b : Char} {high low : ℕ} {rest : List Char} {bytes : List UInt8} (ha : first a high)
      (hb : IsDigit b low) (h : Spelled first rest bytes) :
      Spelled first (a :: b :: rest) (UInt8.ofNat (16 * high + low) :: bytes)

/-- Three pairs for an opaque colour or four for any, after a number sign or none. -/
def Denotes (first : Char → ℕ → Prop) (s : String) (c : Rgba) : Prop :=
  ∃ digits, (s.toList = digits ∨ s.toList = '#' :: digits) ∧
    (Spelled first digits [c.red, c.green, c.blue] ∧ c.alpha = 255 ∨
      Spelled first digits [c.red, c.green, c.blue, c.alpha])

/-! ## Digits -/

variable {a b c : Char} {n : ℕ} {cs : List Char} {bytes : List UInt8} {s : String} {colour : Rgba}

/-- Digits are among the first characters, and there are sixteen of them. -/
theorem isDigit_bounds (h : IsDigit c n) : n < 16 ∧ c.toNat < 128 := by
  have hlower : lowerDigits.all (·.toNat < 128) = true := by decide
  have hupper : upperDigits.all (·.toNat < 128) = true := by decide
  rw [List.all_eq_true] at hlower hupper
  rcases h with h | h
  · exact ⟨(List.getElem?_eq_some_iff.1 h).1, by simpa using hlower c (List.mem_of_getElem? h)⟩
  · exact ⟨(List.getElem?_eq_some_iff.1 h).1, by simpa using hupper c (List.mem_of_getElem? h)⟩

theorem hexDigit?_bounds (h : Json.hexDigit? c = some n) : n < 16 ∧ c.toNat < 128 := by
  simp only [Json.hexDigit?, Char.le_def, UInt32.le_iff_toNat_le] at h
  split_ifs at h with hdigit hlower hupper
  all_goals
    obtain rfl := Option.some.inj h
  · change 48 ≤ c.toNat ∧ c.toNat ≤ 57 at hdigit
    change c.toNat - 48 < 16 ∧ _
    omega
  · change 97 ≤ c.toNat ∧ c.toNat ≤ 102 at hlower
    change c.toNat - 97 + 10 < 16 ∧ _
    omega
  · change 65 ≤ c.toNat ∧ c.toNat ≤ 70 at hupper
    change c.toNat - 65 + 10 < 16 ∧ _
    omega

/-- Digits are read as what they stand for. -/
theorem hexDigit?_eq_some_iff : Json.hexDigit? c = some n ↔ IsDigit c n := by
  have htable : ∀ k < 128, ∀ n < 16,
      Json.hexDigit? (Char.ofNat k) = some n ↔ IsDigit (Char.ofNat k) n := by
    decide +kernel
  have hsame (h : n < 16 ∧ c.toNat < 128) : Json.hexDigit? c = some n ↔ IsDigit c n := by
    simpa [Char.ofNat_toNat] using htable c.toNat h.2 n h.1
  exact ⟨fun h => (hsame (hexDigit?_bounds h)).1 h, fun h => (hsame (isDigit_bounds h)).2 h⟩

theorem not_isDigit (h : Json.hexDigit? c = none) : ¬ IsDigit c n := by
  rw [← hexDigit?_eq_some_iff, h]
  rintro ⟨⟩

/-! ## Pairs -/

theorem startsPair_plus : StartsPair '+' n ↔ n = 0 := by
  refine ⟨?_, fun h => .inr ⟨rfl, h⟩⟩
  rintro (h | ⟨-, h⟩)
  · exact absurd h (not_isDigit rfl)
  · exact h

theorem startsPair_of_ne (h : a ≠ '+') : StartsPair a n ↔ IsDigit a n := by
  simp [StartsPair, h]

theorem pair?_eq_some_iff {byte : UInt8} : pair? a b = some byte ↔
    ∃ high low, StartsPair a high ∧ IsDigit b low ∧ UInt8.ofNat (16 * high + low) = byte := by
  have hhigh (n : ℕ) :
      (if a = '+' then some 0 else Json.hexDigit? a) = some n ↔ StartsPair a n := by
    by_cases hplus : a = '+'
    · subst hplus
      rw [if_pos rfl, startsPair_plus, Option.some.injEq, eq_comm]
    · rw [if_neg hplus, startsPair_of_ne hplus, hexDigit?_eq_some_iff]
  have hbind : pair? a b = (if a = '+' then some 0 else Json.hexDigit? a).bind fun high =>
      (Json.hexDigit? b).map fun low => UInt8.ofNat (16 * high + low) := by
    rw [pair?]
    split <;> cases Json.hexDigit? b <;> rfl
  simp only [hbind, Option.bind_eq_some_iff, Option.map_eq_some_iff, hhigh, hexDigit?_eq_some_iff]
  exact exists_congr fun high => exists_and_left.symm

/-- Pairs are read as the bytes that they stand for, and nothing else is. -/
theorem pairs?_eq_some_iff : pairs? cs = some bytes ↔ Spelled StartsPair cs bytes := by
  fun_induction pairs? cs generalizing bytes with
  | case1 =>
    constructor
    · rintro ⟨⟩
      exact .nil
    · rintro ⟨⟩
      rfl
  | case2 a =>
    constructor
    · rintro ⟨⟩
    · rintro ⟨⟩
  | case3 a b rest ih =>
    simp only [Option.bind_eq_bind, Option.bind_eq_some_iff, ih, pair?_eq_some_iff]
    constructor
    · rintro ⟨_, ⟨high, low, ha, hb, rfl⟩, others, hrest, ⟨⟩⟩
      exact .pair ha hb hrest
    · rintro (_ | ⟨ha, hb, hrest⟩)
      exact ⟨_, ⟨_, _, ha, hb, rfl⟩, _, hrest, rfl⟩

/-! ## Texts -/

theorem not_startsPair_sign : ¬ StartsPair '#' n := by
  rw [startsPair_of_ne (by decide)]
  exact not_isDigit rfl

theorem Spelled.mono {first second : Char → ℕ → Prop} (h : Spelled first cs bytes)
    (hfirst : ∀ c ∈ cs, ∀ n, first c n → second c n) : Spelled second cs bytes := by
  induction h with
  | nil => exact .nil
  | pair ha hb _ ih =>
    simp only [List.forall_mem_cons] at hfirst
    exact .pair (hfirst.1 _ ha) hb (ih hfirst.2.2)

theorem Denotes.mono {first second : Char → ℕ → Prop} (h : Denotes first s colour)
    (hfirst : ∀ c ∈ s.toList, ∀ n, first c n → second c n) : Denotes second s colour := by
  obtain ⟨digits, hs, hdigits⟩ := h
  have hmem : ∀ c ∈ digits, c ∈ s.toList := by
    rcases hs with hs | hs <;> simp +contextual [hs]
  have hspelled {bytes : List UInt8} (h : Spelled first digits bytes) :
      Spelled second digits bytes :=
    h.mono fun c hc => hfirst c (hmem c hc)
  exact ⟨digits, hs, hdigits.imp (And.imp_left hspelled) hspelled⟩

theorem Spelled.isDigit (h : Spelled IsDigit cs bytes) : ∀ c ∈ cs, ∃ n, IsDigit c n := by
  induction h with
  | nil => simp
  | pair ha hb _ ih => exact List.forall_mem_cons.2 ⟨⟨_, ha⟩, List.forall_mem_cons.2 ⟨⟨_, hb⟩, ih⟩⟩

theorem Denotes.plus_not_mem (h : Denotes IsDigit s colour) : '+' ∉ s.toList := by
  obtain ⟨digits, hs, hdigits⟩ := h
  have hmem : '+' ∉ digits := by
    intro hplus
    rcases hdigits with ⟨hspelled, -⟩ | hspelled
    all_goals
      obtain ⟨n, hn⟩ := hspelled.isDigit '+' hplus
      exact not_isDigit rfl hn
  rcases hs with hs | hs <;> simpa [hs] using hmem

/-- Pairs of digits are the pairs in which there is no plus sign. -/
theorem denotes_isDigit_iff :
    Denotes IsDigit s colour ↔ Denotes StartsPair s colour ∧ '+' ∉ s.toList := by
  constructor
  · exact fun h => ⟨h.mono fun c _ n hn => .inl hn, h.plus_not_mem⟩
  · rintro ⟨h, hplus⟩
    exact h.mono fun c hc n hn => (startsPair_of_ne (ne_of_mem_of_not_mem hc hplus)).1 hn

theorem dropSign_cases (cs : List Char) : cs = dropSign cs ∨ cs = '#' :: dropSign cs := by
  fun_cases dropSign cs with
  | case1 rest => exact .inr rfl
  | case2 cs => exact .inl rfl

/-- A number sign in front of no pairs is dropped. -/
theorem dropSign_of_spelled (h : Spelled StartsPair cs bytes) : dropSign cs = cs := by
  rcases dropSign_cases cs with hcs | hcs
  · exact hcs.symm
  · have hsign : Spelled StartsPair ('#' :: dropSign cs) bytes := hcs ▸ h
    generalize dropSign cs = digits at hsign
    cases hsign with
    | pair ha => exact absurd ha not_startsPair_sign

theorem ofHex?_eq_some_iff : ofHex? s = some colour ↔ Denotes StartsPair s colour := by
  have hbytes : ofHex? s = some colour ↔ ∃ bytes, pairs? (dropSign s.toList) = some bytes ∧
      (bytes = [colour.red, colour.green, colour.blue] ∧ colour.alpha = 255 ∨
        bytes = [colour.red, colour.green, colour.blue, colour.alpha]) := by
    rw [ofHex?, Option.bind_eq_bind, Option.bind_eq_some_iff]
    refine exists_congr fun bytes => and_congr_right fun _ => ?_
    obtain ⟨red, green, blue, alpha⟩ := colour
    split <;> simp_all [eq_comm, and_assoc]
  rw [hbytes]
  constructor
  · rintro ⟨bytes, hpairs, hcolour⟩
    rw [pairs?_eq_some_iff] at hpairs
    refine ⟨dropSign s.toList, dropSign_cases s.toList, ?_⟩
    rcases hcolour with ⟨rfl, halpha⟩ | rfl
    · exact .inl ⟨hpairs, halpha⟩
    · exact .inr hpairs
  · rintro ⟨digits, hs, hdigits⟩
    have hdrop {bytes : List UInt8} (h : Spelled StartsPair digits bytes) :
        pairs? (dropSign s.toList) = some bytes := by
      have hsame : dropSign s.toList = digits := by
        rcases hs with hs | hs <;> rw [hs]
        · exact dropSign_of_spelled h
        · rfl
      rwa [hsame, pairs?_eq_some_iff]
    rcases hdigits with ⟨hspelled, halpha⟩ | hspelled
    · exact ⟨_, hdrop hspelled, .inl ⟨rfl, halpha⟩⟩
    · exact ⟨_, hdrop hspelled, .inr rfl⟩

theorem ofValue_of_ofHex? (h : ofHex? s = some colour) : ofValue (.string s) = .ok colour := by
  rw [ofValue, h]

theorem ofValue_of_ofHex?_eq_none (h : ofHex? s = none) :
    ofValue (.string s) = .error (.invalidParameter "fill" "#rrggbb or #rrggbbaa" s) := by
  rw [ofValue, h]
  rfl

/-- A text is taken for a colour just if it denotes it by pairs whose first character may be a plus
sign, and every other text is a fault. The pairs without a plus sign are those of hexadecimal
digits. -/
theorem ofValue_string_iff (s : String) :
    (∀ c, ofValue (.string s) = .ok c ↔ Denotes StartsPair s c) ∧
    ((∀ c, ¬ Denotes StartsPair s c) →
      ofValue (.string s) = .error (.invalidParameter "fill" "#rrggbb or #rrggbbaa" s)) ∧
    ∀ c, Denotes IsDigit s c ↔ Denotes StartsPair s c ∧ '+' ∉ s.toList := by
  refine ⟨fun c => ?_, fun hnone => ?_, fun c => denotes_isDigit_iff⟩
  · rw [← ofHex?_eq_some_iff]
    cases hs : ofHex? s with
    | some found => rw [ofValue_of_ofHex? hs, Except.ok.injEq, Option.some.injEq]
    | none => simp [ofValue_of_ofHex?_eq_none hs]
  · simp only [← ofHex?_eq_some_iff] at hnone
    exact ofValue_of_ofHex?_eq_none (Option.eq_none_iff_forall_ne_some.2 hnone)

/-- Half a red, in digits of both cases, and a word. -/
theorem ofValue_string_iff_red :
    (ofValue (.string "#Ff000080") = .ok ⟨255, 0, 0, 128⟩ ∧
      Denotes IsDigit "#Ff000080" ⟨255, 0, 0, 128⟩) ∧
    (∀ c, ¬ Denotes StartsPair "red" c) ∧
      ofValue (.string "red") = .error (.invalidParameter "fill" "#rrggbb or #rrggbbaa" "red") := by
  obtain ⟨haccepted, -, hdigits⟩ := ofValue_string_iff "#Ff000080"
  obtain ⟨hword, hrefused, -⟩ := ofValue_string_iff "red"
  have hcolour : ofValue (.string "#Ff000080") = .ok ⟨255, 0, 0, 128⟩ := rfl
  have hnone : ∀ c, ¬ Denotes StartsPair "red" c := fun c hc => by cases (hword c).2 hc
  exact ⟨⟨hcolour, (hdigits _).2 ⟨(haccepted _).1 hcolour, by decide⟩⟩, hnone, hrefused hnone⟩

/-- A plus sign in place of a digit is taken too. -/
theorem ofValue_plus :
    ofValue (.string "#+f00ff") = .ok ⟨15, 0, 255, 255⟩ ∧ ∀ c, ¬ Denotes IsDigit "#+f00ff" c :=
  ⟨rfl, fun _ h => h.plus_not_mem (by decide)⟩

end CardPress.Rgba
