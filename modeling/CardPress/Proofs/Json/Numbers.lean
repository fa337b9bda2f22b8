import CardPress.Json.Reader
import CardPress.Json.Writer
import CardPress.Proofs.Number.Decimals

/-!
# Numbers in JSON

However a number is written, it is a whole part, perhaps places after a point and perhaps a power of
ten. Reading takes these parts back, and they make up a decimal of the value that was written.

## Main definitions

* `Json.Spelling` — the parts of a number as it is written.
* `Json.Ends` — what may come after a number.

## Main results

* `Json.number_chars` — the parts are read as they were written.
* `Json.number_int`, `Json.number_float` — numbers are read as what they were.
-/

namespace CardPress.Json

/-! ## Digits -/

/-- Decimal digits, at least one of them. -/
structure AreDigits (cs : List Char) : Prop where
  ne_nil : cs ≠ []
  isDigit : ∀ c ∈ cs, c.isDigit = true

/-- No digit comes first. -/
def StopsDigits (cs : List Char) : Prop :=
  ∀ c ∈ cs.head?, c.isDigit = false

variable {ds rest : List Char}

theorem takeWhile_eq_nil_of_stops (h : StopsDigits rest) : rest.takeWhile Char.isDigit = [] := by
  cases rest with
  | nil => rfl
  | cons c rest => rw [List.takeWhile_cons, h c rfl, if_neg Bool.false_ne_true]

theorem dropWhile_eq_self_of_stops (h : StopsDigits rest) : rest.dropWhile Char.isDigit = rest := by
  cases rest with
  | nil => rfl
  | cons c rest => rw [List.dropWhile_cons, h c rfl, if_neg Bool.false_ne_true]

theorem digits_append (h : AreDigits ds) (hrest : StopsDigits rest) :
    digits (ds ++ rest) = .ok (ds, rest) := by
  have htake : (ds ++ rest).takeWhile Char.isDigit = ds := by
    rw [List.takeWhile_append_of_pos h.isDigit, takeWhile_eq_nil_of_stops hrest, List.append_nil]
  have hdrop : (ds ++ rest).dropWhile Char.isDigit = rest := by
    rw [List.dropWhile_append_of_pos h.isDigit, dropWhile_eq_self_of_stops hrest]
  rw [digits, htake, hdrop]
  cases ds with
  | nil => exact absurd rfl h.ne_nil
  | cons d ds => rfl

theorem areDigits_toDigits (n : ℕ) : AreDigits (Nat.toDigits 10 n) :=
  ⟨Nat.toDigits_ne_nil, fun _ hc => Nat.isDigit_of_mem_toDigits (by norm_num) le_rfl hc⟩

theorem AreDigits.append (h : AreDigits ds) {ds' : List Char} (h' : ∀ c ∈ ds', c.isDigit = true) :
    AreDigits (ds ++ ds') := by
  refine ⟨by simp [h.ne_nil], fun c hc => ?_⟩
  rcases List.mem_append.1 hc with hc | hc
  · exact h.isDigit c hc
  · exact h' c hc

theorem isDigit_of_mem_zeros {n : ℕ} {c : Char} (h : c ∈ List.replicate n '0') :
    c.isDigit = true := by
  rw [List.eq_of_mem_replicate h]
  rfl

theorem natOfDigits_toDigits (n : ℕ) : natOfDigits (Nat.toDigits 10 n) = n :=
  Nat.ofDigitChars_toDigits (by norm_num) le_rfl

/-- Zeros before other digits do not count. -/
theorem natOfDigits_zeros_append (n : ℕ) (ds : List Char) :
    natOfDigits (List.replicate n '0' ++ ds) = natOfDigits ds := by
  have happend := Nat.ofDigitChars_append (b := 10) (l := List.replicate n '0') (m := ds) 0
  rw [Nat.ofDigitChars_replicate_zero, mul_zero] at happend
  exact happend

/-- Zeros after other digits are powers of ten. -/
theorem natOfDigits_append_zeros (ds : List Char) (n : ℕ) :
    natOfDigits (ds ++ List.replicate n '0') = natOfDigits ds * 10 ^ n := by
  have happend := Nat.ofDigitChars_append (b := 10) (l := ds) (m := List.replicate n '0') 0
  rw [Nat.ofDigitChars_replicate_zero, mul_comm] at happend
  exact happend

/-- A zero comes first in no digits but its own. -/
theorem head?_toDigits {n : ℕ} (h : n ≠ 0) : (Nat.toDigits 10 n).head? ≠ some '0' := by
  induction n using Nat.strong_induction_on with
  | _ n ih =>
    rw [Nat.toDigits_eq_if (by norm_num)]
    split
    · next hlt =>
      have hdigit : ∀ m < 10, m ≠ 0 → m.digitChar ≠ '0' := by decide
      simpa using hdigit n hlt h
    · next hge =>
      rw [List.head?_append_of_ne_nil _ Nat.toDigits_ne_nil]
      exact ih (n / 10) (by omega) (by omega)

/-! ## Parts of numbers -/

/-- A number as it is written, without its sign. -/
structure Spelling where
  whole : List Char
  /-- The places after a point, if there is one. -/
  fraction : Option (List Char)
  /-- The power of ten, if there is one. -/
  exponent : Option ℤ

namespace Spelling

def fractionChars : Option (List Char) → List Char
  | none => []
  | some ds => '.' :: ds

def exponentChars : Option ℤ → List Char
  | none => []
  | some e => 'e' :: (if e < 0 then '-' else '+') :: Nat.toDigits 10 e.natAbs

def chars (s : Spelling) : List Char :=
  s.whole ++ (fractionChars s.fraction ++ exponentChars s.exponent)

/-- There are digits wherever there have to be some, and a zero stands alone in the whole part. -/
structure Readable (s : Spelling) : Prop where
  whole : AreDigits s.whole
  alone : s.whole.head? = some '0' → s.whole = ['0']
  fraction : ∀ ds, s.fraction = some ds → AreDigits ds

/-- The decimal that the parts make up. -/
def decimal (s : Spelling) : Decimal :=
  ⟨natOfDigits (s.whole ++ s.fraction.getD []),
    s.exponent.getD 0 - ((s.fraction.getD []).length : ℤ)⟩

end Spelling

/-- Nothing, or what may come after a value. -/
def Ends (cs : List Char) : Prop :=
  ∀ c ∈ cs.head?, c = ',' ∨ c = ']' ∨ c = '\x7d'

theorem ends_nil : Ends [] := by
  simp [Ends]

theorem ends_cons {c : Char} (h : c = ',' ∨ c = ']' ∨ c = '\x7d') (rest : List Char) :
    Ends (c :: rest) := by
  rintro _ ⟨⟩
  exact h

theorem Ends.stopsDigits (h : Ends rest) : StopsDigits rest := by
  intro c hc
  rcases h c hc with rfl | rfl | rfl <;> rfl

section

variable {s : Spelling}

theorem wholePart_append (h : s.Readable) (hrest : StopsDigits rest) :
    wholePart (s.whole ++ rest) = .ok (s.whole, rest) := by
  simp only [wholePart, digits_append h.whole hrest, bind, Except.bind]
  split
  · next d tail heq =>
    have halone := h.alone (by rw [heq]; rfl)
    rw [halone] at heq
    cases heq
  · rfl

theorem exponentPart_append (hrest : Ends rest) (exponent : Option ℤ) :
    exponentPart (Spelling.exponentChars exponent ++ rest) = .ok (exponent, rest) := by
  cases exponent with
  | none =>
    cases rest with
    | nil => rfl
    | cons c rest =>
      have hc : ¬(c = 'e' ∨ c = 'E') := by
        rcases hrest c rfl with rfl | rfl | rfl <;> decide
      exact if_neg hc
  | some e =>
    have hdigits := digits_append (areDigits_toDigits e.natAbs) hrest.stopsDigits
    have hnat := natOfDigits_toDigits e.natAbs
    by_cases he : e < 0
    · have hchars : Spelling.exponentChars (some e) ++ rest =
          'e' :: '-' :: (Nat.toDigits 10 e.natAbs ++ rest) := by
        rw [Spelling.exponentChars, if_pos he]
        rfl
      rw [hchars, exponentPart, if_pos (.inl rfl), hdigits]
      show Except.ok (some (-(natOfDigits (Nat.toDigits 10 e.natAbs) : ℤ)), rest) = _
      rw [hnat, Int.ofNat_natAbs_of_nonpos he.le, neg_neg]
    · have hchars : Spelling.exponentChars (some e) ++ rest =
          'e' :: '+' :: (Nat.toDigits 10 e.natAbs ++ rest) := by
        rw [Spelling.exponentChars, if_neg he]
        rfl
      rw [hchars, exponentPart, if_pos (.inl rfl), hdigits]
      show Except.ok (some (natOfDigits (Nat.toDigits 10 e.natAbs) : ℤ), rest) = _
      rw [hnat, Int.natAbs_of_nonneg (not_lt.1 he)]

/-- What comes after the whole part does not begin with a digit. -/
theorem stopsDigits_exponent (hrest : Ends rest) (exponent : Option ℤ) :
    StopsDigits (Spelling.exponentChars exponent ++ rest) := by
  cases exponent with
  | none => exact hrest.stopsDigits
  | some e =>
    rintro _ ⟨⟩
    rfl

theorem fractionPart_append (h : s.Readable) (hrest : Ends rest) :
    fractionPart (Spelling.fractionChars s.fraction ++
        (Spelling.exponentChars s.exponent ++ rest)) =
      .ok (s.fraction, Spelling.exponentChars s.exponent ++ rest) := by
  cases hfraction : s.fraction with
  | none =>
    have hpoint : ∀ tail, Spelling.exponentChars s.exponent ++ rest ≠ '.' :: tail := by
      intro tail heq
      cases hexponent : s.exponent with
      | none =>
        rw [hexponent] at heq
        have heq : rest = '.' :: tail := heq
        rcases hrest '.' (by rw [heq]; rfl) with h | h | h <;> cases h
      | some e =>
        rw [hexponent] at heq
        cases heq
    show fractionPart (Spelling.exponentChars s.exponent ++ rest) = _
    rw [fractionPart.eq_def]
    split
    · next tail heq => exact absurd heq (hpoint tail)
    · rfl
  | some ds =>
    show fractionPart ('.' :: (ds ++ (Spelling.exponentChars s.exponent ++ rest))) = _
    rw [fractionPart, digits_append (h.fraction ds hfraction) (stopsDigits_exponent hrest _)]
    rfl

/-- The parts of a number are read as they were written. -/
theorem number_chars (h : s.Readable) (hrest : Ends rest) (negative : Bool) :
    number negative (s.chars ++ rest) =
      (numberOfParts negative s.whole s.fraction s.exponent).map fun j => (j, rest) := by
  have hstops : StopsDigits (Spelling.fractionChars s.fraction ++
      (Spelling.exponentChars s.exponent ++ rest)) := by
    cases s.fraction with
    | none => exact stopsDigits_exponent hrest _
    | some ds =>
      rintro _ ⟨⟩
      rfl
  have hchars : s.chars ++ rest = s.whole ++ (Spelling.fractionChars s.fraction ++
      (Spelling.exponentChars s.exponent ++ rest)) := by
    simp only [Spelling.chars, List.append_assoc]
  simp only [number, hchars, wholePart_append h hstops, fractionPart_append h hrest,
    exponentPart_append hrest, bind, Except.bind]
  cases numberOfParts negative s.whole s.fraction s.exponent <;> rfl

end

/-! ## Whole numbers -/

theorem toList_toString (n : ℤ) :
    (toString n).toList = (if n < 0 then ['-'] else []) ++ Nat.toDigits 10 n.natAbs := by
  cases n with
  | ofNat n =>
    rw [if_neg (by simp)]
    exact Nat.toList_repr
  | negSucc n =>
    rw [if_pos (Int.negSucc_lt_zero n)]
    show ("-" ++ n.succ.repr).toList = _
    rw [String.toList_append, Nat.toList_repr]
    rfl

/-- The digits of a whole number and nothing else. -/
def spellingOfNat (n : ℕ) : Spelling :=
  ⟨Nat.toDigits 10 n, none, none⟩

theorem readable_spellingOfNat (n : ℕ) : (spellingOfNat n).Readable where
  whole := areDigits_toDigits n
  alone h := by
    by_cases hn : n = 0
    · subst hn
      rfl
    · exact absurd h (head?_toDigits hn)
  fraction := by
    rintro _ ⟨⟩

theorem chars_spellingOfNat (n : ℕ) : (spellingOfNat n).chars = Nat.toDigits 10 n :=
  List.append_nil _

/-- A whole number of 64 bits is read as what it was. -/
theorem number_int {n : ℤ} (hn : holdsInt n = true) (hrest : Ends rest) :
    number (decide (n < 0)) (Nat.toDigits 10 n.natAbs ++ rest) = .ok (.int n, rest) := by
  have hparts : numberOfParts (decide (n < 0)) (Nat.toDigits 10 n.natAbs) none none =
      .ok (.int n) := by
    have hvalue : (if decide (n < 0) = true then -(natOfDigits (Nat.toDigits 10 n.natAbs) : ℤ)
        else natOfDigits (Nat.toDigits 10 n.natAbs)) = n := by
      rw [natOfDigits_toDigits]
      simp only [decide_eq_true_eq]
      split <;> omega
    have hzero : (decide (n < 0) && n == 0) = false := by
      by_cases h : n = 0
      · subst h
        rfl
      · simp [h]
    simp only [numberOfParts, hvalue, hn, hzero]
    rfl
  rw [← chars_spellingOfNat, number_chars (readable_spellingOfNat _) hrest]
  simp only [spellingOfNat, hparts]
  rfl

/-! ## Fractions -/

/-- How a decimal is written that is not negative. -/
def decimalText (d : Decimal) : String :=
  let e := if d.digits = 0 then 0 else d.leadingExponent
  if -5 ≤ e ∧ e ≤ 15 then
    if 0 ≤ d.exponent then d.positional ++ ".0" else d.positional
  else d.scientific

theorem floatText_eq {x : Float} {d : Decimal} (h : Double.shortest? x = some d) :
    floatText x = if Double.isNegative x then "-" ++ decimalText d else decimalText d := by
  rw [floatText, h]
  rfl

/-- A number with a point or a power of ten has the value of a decimal. -/
structure Spells (s : Spelling) (d : Decimal) : Prop where
  readable : s.Readable
  value : s.decimal.value = d.value
  fractional : (s.fraction.isNone && s.exponent.isNone) = false

/-- A decimal without places of its own, written out and with a zero after the point. -/
theorem exists_spelling_whole (digits e : ℕ) :
    ∃ s : Spelling, Spells s ⟨digits, Int.ofNat e⟩ ∧
      ((Decimal.positional ⟨digits, Int.ofNat e⟩) ++ ".0").toList = s.chars := by
  have hpositional : Decimal.positional ⟨digits, Int.ofNat e⟩ =
      if digits = 0 then "0" else toString digits ++ String.ofList (List.replicate e '0') := rfl
  by_cases hdigits : digits = 0
  · refine ⟨⟨['0'], some ['0'], none⟩, ⟨⟨⟨by simp, by simp⟩, fun _ => rfl, ?_⟩, ?_, rfl⟩, ?_⟩
    · rintro _ ⟨⟩
      exact ⟨by simp, by simp⟩
    · rw [Decimal.value_eq_zero_iff.2 rfl, Decimal.value_eq_zero_iff.2 hdigits]
    · rw [hpositional, if_pos hdigits]
      rfl
  · refine ⟨⟨Nat.toDigits 10 digits ++ List.replicate e '0', some ['0'], none⟩,
      ⟨⟨?_, fun h => ?_, ?_⟩, ?_, rfl⟩, ?_⟩
    · exact (areDigits_toDigits digits).append fun c => isDigit_of_mem_zeros
    · rw [List.head?_append_of_ne_nil _ Nat.toDigits_ne_nil] at h
      exact absurd h (head?_toDigits hdigits)
    · rintro _ ⟨⟩
      exact ⟨by simp, by simp⟩
    · have hone : ['0'] = List.replicate 1 '0' := rfl
      simp only [Spelling.decimal, Decimal.value, Option.getD_some, Option.getD_none, hone,
        natOfDigits_append_zeros, natOfDigits_toDigits, Int.ofNat_eq_natCast, zpow_natCast]
      simp
    · rw [hpositional, if_neg hdigits]
      simp [Spelling.chars, Spelling.fractionChars, Spelling.exponentChars]

/-- The digits of a number, with zeros before them so that there are more digits than places. -/
def paddedDigits (n places : ℕ) : List Char :=
  List.replicate (places + 1 - (Nat.toDigits 10 n).length) '0' ++ Nat.toDigits 10 n

/-- The digits before the point. -/
def wholeDigits (n places : ℕ) : List Char :=
  (paddedDigits n places).take ((paddedDigits n places).length - places)

/-- The digits after the point. -/
def placeDigits (n places : ℕ) : List Char :=
  (paddedDigits n places).drop ((paddedDigits n places).length - places)

section

variable (n places : ℕ)

theorem isDigit_of_mem_paddedDigits {c : Char} (h : c ∈ paddedDigits n places) :
    c.isDigit = true := by
  rcases List.mem_append.1 h with h | h
  · exact isDigit_of_mem_zeros h
  · exact (areDigits_toDigits n).isDigit c h

theorem lt_length_paddedDigits : places < (paddedDigits n places).length := by
  simp only [paddedDigits, List.length_append, List.length_replicate]
  omega

theorem areDigits_wholeDigits : AreDigits (wholeDigits n places) := by
  have := lt_length_paddedDigits n places
  refine ⟨?_, fun c hc => isDigit_of_mem_paddedDigits n places (List.mem_of_mem_take hc)⟩
  rw [← List.length_pos_iff, wholeDigits, List.length_take]
  omega

theorem length_placeDigits : (placeDigits n places).length = places := by
  have := lt_length_paddedDigits n places
  rw [placeDigits, List.length_drop]
  omega

theorem areDigits_placeDigits (h : places ≠ 0) : AreDigits (placeDigits n places) := by
  refine ⟨?_, fun c hc => isDigit_of_mem_paddedDigits n places (List.mem_of_mem_drop hc)⟩
  rw [← List.length_pos_iff, length_placeDigits]
  omega

theorem natOfDigits_wholeDigits_append :
    natOfDigits (wholeDigits n places ++ placeDigits n places) = n := by
  rw [wholeDigits, placeDigits, List.take_append_drop, paddedDigits, natOfDigits_zeros_append,
    natOfDigits_toDigits]

/-- A zero that comes first stands alone before the point. -/
theorem wholeDigits_alone (h : (wholeDigits n places).head? = some '0') :
    wholeDigits n places = ['0'] := by
  have hlt := lt_length_paddedDigits n places
  rcases Nat.lt_or_ge places (Nat.toDigits 10 n).length with hmany | hfew
  · -- No zeros have been put before the digits, so only the number zero begins with one.
    have hpadded : paddedDigits n places = Nat.toDigits 10 n := by
      rw [paddedDigits, Nat.sub_eq_zero_of_le hmany, List.replicate_zero, List.nil_append]
    by_cases hn : n = 0
    · subst hn
      have hplaces : places = 0 := by simpa using hmany
      subst hplaces
      rfl
    · rw [wholeDigits, List.head?_take, if_neg (by omega), hpadded] at h
      exact absurd h (head?_toDigits hn)
  · -- All digits come after the point, and one of the zeros before it.
    have hone : (wholeDigits n places).length = 1 := by
      simp only [wholeDigits, List.length_take, paddedDigits, List.length_append,
        List.length_replicate]
      omega
    obtain ⟨c, hc⟩ := List.length_eq_one_iff.1 hone
    rw [hc] at h ⊢
    simpa using h

theorem toList_positional_negSucc (e : ℕ) :
    (Decimal.positional ⟨n, Int.negSucc e⟩).toList =
      wholeDigits n (e + 1) ++ '.' :: placeDigits n (e + 1) := by
  have hpadded : (String.ofList (List.replicate (e + 1 + 1 - (toString n).length) '0') ++
      toString n).toList = paddedDigits n (e + 1) := by
    rw [String.toList_append, String.toList_ofList, Nat.toString_eq_repr, Nat.toList_repr,
      ← String.length_toList, Nat.toList_repr, paddedDigits]
  have hpositional : Decimal.positional ⟨n, Int.negSucc e⟩ =
      let padded := (String.ofList (List.replicate (e + 1 + 1 - (toString n).length) '0') ++
        toString n).toList
      String.ofList (padded.take (padded.length - (e + 1))) ++ "." ++
        String.ofList (padded.drop (padded.length - (e + 1))) := rfl
  rw [hpositional, hpadded]
  simp only [String.toList_append, String.toList_ofList, List.append_assoc]
  rfl

end

/-- A decimal with places, written out. -/
theorem exists_spelling_places (digits e : ℕ) :
    ∃ s : Spelling, Spells s ⟨digits, Int.negSucc e⟩ ∧
      (Decimal.positional ⟨digits, Int.negSucc e⟩).toList = s.chars := by
  refine ⟨⟨wholeDigits digits (e + 1), some (placeDigits digits (e + 1)), none⟩,
    ⟨⟨areDigits_wholeDigits _ _, wholeDigits_alone _ _, ?_⟩, ?_, rfl⟩, ?_⟩
  · rintro _ ⟨⟩
    exact areDigits_placeDigits _ _ e.succ_ne_zero
  · have hexponent : (0 : ℤ) - ((e + 1 : ℕ) : ℤ) = Int.negSucc e := by omega
    simp only [Spelling.decimal, Option.getD_some, Option.getD_none, natOfDigits_wholeDigits_append,
      length_placeDigits, hexponent]
  · simp [toList_positional_negSucc, Spelling.chars, Spelling.fractionChars, Spelling.exponentChars]

/-- The digits after the first one go behind a point, if there are any. -/
def fractionOf (tail : List Char) : Option (List Char) :=
  if tail = [] then none else some tail

theorem getD_fractionOf (tail : List Char) : (fractionOf tail).getD [] = tail := by
  by_cases h : tail = [] <;> simp [fractionOf, h]

theorem fractionOf_eq_some_iff {tail ds : List Char} :
    fractionOf tail = some ds ↔ tail ≠ [] ∧ tail = ds := by
  by_cases h : tail = [] <;> simp [fractionOf, h]

section

variable {d : Decimal} {c : Char} {tail : List Char} (h : Nat.toDigits 10 d.digits = c :: tail)

include h

theorem leadingExponent_eq : d.leadingExponent = d.exponent + tail.length := by
  have hlength : d.text.length = tail.length + 1 := by
    rw [← String.length_toList, Decimal.text, Nat.toString_eq_repr, Nat.toList_repr, h,
      List.length_cons]
  rw [Decimal.leadingExponent, hlength]
  push_cast
  ring

theorem toList_scientific : d.scientific.toList =
    Spelling.chars ⟨[c], fractionOf tail, some d.leadingExponent⟩ := by
  have htext : d.text.toList = c :: tail := by
    rw [Decimal.text, Nat.toString_eq_repr, Nat.toList_repr, h]
  have hscientific : d.scientific = (let e := d.leadingExponent
      let tail := String.ofList (d.text.toList.drop 1)
      String.ofList (d.text.toList.take 1) ++ (if tail.isEmpty then "" else "." ++ tail) ++
        "e" ++ (if e < 0 then "-" else "+") ++ toString e.natAbs) := rfl
  have hsign : (if d.leadingExponent < 0 then "-" else "+").toList =
      [if d.leadingExponent < 0 then '-' else '+'] := by
    split <;> rfl
  have hpoint : (if (String.ofList tail).isEmpty then "" else "." ++ String.ofList tail).toList =
      Spelling.fractionChars (fractionOf tail) := by
    cases tail with
    | nil => rfl
    | cons c tail => simp [Spelling.fractionChars, fractionOf]
  simp only [hscientific, htext, List.drop_one, List.tail_cons, List.take_succ_cons, List.take_zero,
    String.toList_append, String.toList_ofList, hpoint, hsign, Nat.toString_eq_repr,
    Nat.toList_repr, Spelling.chars, Spelling.exponentChars, List.append_assoc]
  rfl

end

/-- A decimal with a power of ten. -/
theorem exists_spelling_scientific (d : Decimal) :
    ∃ s : Spelling, Spells s d ∧ d.scientific.toList = s.chars := by
  have hdigits := areDigits_toDigits d.digits
  have hnat := natOfDigits_toDigits d.digits
  obtain ⟨c, tail, hds⟩ := List.exists_cons_of_ne_nil hdigits.ne_nil
  rw [hds] at hdigits hnat
  refine ⟨⟨[c], fractionOf tail, some d.leadingExponent⟩,
    ⟨⟨⟨by simp, ?_⟩, fun h => ?_, fun ds hsome => ?_⟩, ?_, Bool.and_false _⟩, toList_scientific hds⟩
  · simpa using hdigits.isDigit c List.mem_cons_self
  · cases h
    rfl
  · obtain ⟨hne, rfl⟩ := fractionOf_eq_some_iff.1 hsome
    exact ⟨hne, fun c hc => hdigits.isDigit c (List.mem_cons_of_mem _ hc)⟩
  · simp only [Spelling.decimal, getD_fractionOf, List.singleton_append, hnat, Option.getD_some,
      leadingExponent_eq hds, add_sub_cancel_right]

theorem exists_spelling (d : Decimal) :
    ∃ s : Spelling, Spells s d ∧ (decimalText d).toList = s.chars := by
  rw [decimalText]
  by_cases hlayout : -5 ≤ (if d.digits = 0 then 0 else d.leadingExponent) ∧
      (if d.digits = 0 then 0 else d.leadingExponent) ≤ 15
  · rw [if_pos hlayout]
    obtain ⟨digits, exponent⟩ := d
    cases exponent with
    | ofNat e =>
      rw [if_pos (show (0 : ℤ) ≤ Int.ofNat e from Int.natCast_nonneg e)]
      exact exists_spelling_whole digits e
    | negSucc e =>
      rw [if_neg (show ¬(0 : ℤ) ≤ Int.negSucc e from not_le.2 (Int.negSucc_lt_zero e))]
      exact exists_spelling_places digits e
  · rw [if_neg hlayout]
    exact exists_spelling_scientific d

/-- A finite double is read as what it was. -/
theorem number_float {x : Float} {d : Decimal} (h : Double.shortest? x = some d)
    (hrest : Ends rest) :
    number (Double.isNegative x) ((decimalText d).toList ++ rest) = .ok (.float x, rest) := by
  obtain ⟨s, hs, hchars⟩ := exists_spelling d
  have hfinite : Double.isFinite x = true := by
    obtain ⟨b, hdecode, -⟩ := Option.map_eq_some_iff.1 h
    exact Double.isFinite_of_decode hdecode
  have hdouble : Decimal.toDouble (Double.isNegative x) s.decimal = x :=
    Double.toDouble_of_shortest h hs.value
  have hparts : numberOfParts (Double.isNegative x) s.whole s.fraction s.exponent =
      .ok (.float x) := by
    simp only [numberOfParts, hs.fractional, Bool.false_and]
    rw [if_neg Bool.false_ne_true]
    show (if Double.isFinite (Decimal.toDouble (Double.isNegative x) s.decimal) = true then
      Except.ok (Json.float (Decimal.toDouble (Double.isNegative x) s.decimal))
      else Except.error ReadError.numberOutOfRange) = _
    rw [hdouble, if_pos hfinite]
  rw [hchars, number_chars hs.readable hrest, hparts]
  rfl

end CardPress.Json
