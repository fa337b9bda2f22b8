import CardPress.Json.Reader
import CardPress.Json.Writer
import Mathlib.Data.List.Basic

/-!
# Strings in JSON

Reading a string undoes its escapes: every character is written as something that stands for that
character alone, and nothing that is written for one ends the string.

## Main results

* `Json.stringTail_quoted` — a string is read as what it was.
-/

namespace CardPress.Json

/-! ## Characters -/

/-- What is written for a character. -/
def charText (c : Char) : List Char :=
  (quotedChar c).toList

theorem toList_foldl_quotedChar (cs : List Char) (out : String) :
    (cs.foldl (fun out c => out ++ quotedChar c) out).toList =
      out.toList ++ cs.flatMap charText := by
  induction cs generalizing out with
  | nil => simp
  | cons c cs ih =>
    rw [List.foldl_cons, ih, String.toList_append, List.flatMap_cons, List.append_assoc]
    rfl

theorem toList_quoted (s : String) :
    (quoted s).toList = '"' :: (s.toList.flatMap charText ++ ['"']) := by
  rw [quoted, String.toList_append, toList_foldl_quotedChar]
  rfl

theorem hexDigit?_digitChar {n : ℕ} (h : n < 16) : hexDigit? n.digitChar = some n := by
  have hall : ∀ n < 16, hexDigit? n.digitChar = some n := by decide
  exact hall n h

/-- A byte in two digits. -/
theorem toDigits_byte {n : ℕ} (h : n < 0x100) :
    (if n < 0x10 then ['0'] else []) ++ Nat.toDigits 16 n =
      [(n / 16).digitChar, (n % 16).digitChar] := by
  rw [Nat.toDigits_eq_if (by omega)]
  split_ifs with hlt
  · rw [Nat.div_eq_of_lt hlt, Nat.mod_eq_of_lt hlt]
    rfl
  · rw [Nat.toDigits_of_lt_base (by omega)]
    rfl

/-- Four digits give back a control character. -/
theorem unit_control {n : ℕ} (h : n < 0x20) (rest : List Char) :
    unit ('0' :: '0' :: (n / 16).digitChar :: (n % 16).digitChar :: rest) = .ok (n, rest) := by
  have hzero : hexDigit? '0' = some 0 := by decide
  simp only [unit, hzero, hexDigit?_digitChar (show n / 16 < 16 by omega),
    hexDigit?_digitChar (show n % 16 < 16 by omega)]
  congr 2
  omega

theorem escapedUnit_control {c : Char} (h : c.toNat < 0x20) (rest : List Char) :
    escapedUnit ('0' :: '0' :: (c.toNat / 16).digitChar :: (c.toNat % 16).digitChar :: rest) =
      .ok (c, rest) := by
  rw [escapedUnit, unit_control h]
  show (if c.toNat < 0xd800 ∨ 0xdfff < c.toNat then Except.ok (Char.ofNat c.toNat, rest) else _) = _
  rw [if_pos (.inl (by omega)), Char.ofNat_toNat]

/-- A character is escaped, or it stands for itself and means nothing else to the reader. -/
theorem charText_cases (c : Char) :
    (∃ tail, charText c = '\\' :: tail ∧ ∀ rest, escaped (tail ++ rest) = .ok (c, rest)) ∨
      (charText c = [c] ∧ c ≠ '"' ∧ ¬c.toNat < 0x20 ∧ c ≠ '\\') := by
  by_cases hnamed : c ∈ ['"', '\\', '\x08', '\x0c', '\n', '\r', '\t']
  · simp only [List.mem_cons, List.not_mem_nil, or_false] at hnamed
    rcases hnamed with rfl | rfl | rfl | rfl | rfl | rfl | rfl <;>
      exact .inl ⟨_, rfl, fun rest => rfl⟩
  · simp only [List.mem_cons, List.not_mem_nil, or_false, not_or] at hnamed
    obtain ⟨hquote, hbackslash, hb, hf, hn, hr, ht⟩ := hnamed
    have hchar : quotedChar c =
        if c.toNat < 0x20 then "\\u00" ++ (if c.toNat < 0x10 then "0" else "") ++ Text.hex c.toNat
        else String.singleton c := by
      simp [quotedChar, hquote, hbackslash, hb, hf, hn, hr, ht]
    by_cases hcontrol : c.toNat < 0x20
    · have hpad : (if c.toNat < 0x10 then "0" else "").toList =
          if c.toNat < 0x10 then ['0'] else [] := by
        split <;> rfl
      have hhex : (Text.hex c.toNat).toList = Nat.toDigits 16 c.toNat := String.toList_ofList
      have htext : charText c = '\\' :: 'u' :: '0' :: '0' ::
          [(c.toNat / 16).digitChar, (c.toNat % 16).digitChar] := by
        rw [charText, hchar, if_pos hcontrol, String.toList_append, String.toList_append, hpad,
          List.append_assoc, hhex, toDigits_byte (by omega)]
        rfl
      exact .inl ⟨_, htext, fun rest => escapedUnit_control hcontrol rest⟩
    · refine .inr ⟨?_, hquote, hcontrol, hbackslash⟩
      rw [charText, hchar, if_neg hcontrol]
      exact String.toList_singleton c

/-! ## Strings -/

/-- Reading what is written for a character consumes just that. -/
theorem stringBody_charText (fuel : ℕ) (c : Char) (rest : List Char) :
    stringBody (fuel + 1) (charText c ++ rest) =
      (stringBody fuel rest).map fun r => (c :: r.1, r.2) := by
  have hread : ∀ tail : Except ReadError (Read (List Char)),
      (tail >>= fun r => Except.ok (c :: r.1, r.2)) = tail.map fun r => (c :: r.1, r.2) := by
    rintro (fault | r) <;> rfl
  obtain ⟨tail, htext, hescaped⟩ | ⟨htext, hquote, hcontrol, hbackslash⟩ := charText_cases c
  · have hbackslash : stringBody (fuel + 1) ('\\' :: (tail ++ rest)) =
        (escaped (tail ++ rest) >>= fun r =>
          stringBody fuel r.2 >>= fun r' => Except.ok (r.1 :: r'.1, r'.2)) := rfl
    rw [htext, List.cons_append, hbackslash, hescaped]
    exact hread _
  · rw [htext, List.singleton_append, stringBody, if_neg hquote, if_neg hcontrol, if_neg hbackslash]
    exact hread _

/-- Characters that were written, and the quote after them, are read as what they were. -/
theorem stringBody_flatMap {fuel : ℕ} {cs : List Char} (h : cs.length < fuel) (rest : List Char) :
    stringBody fuel (cs.flatMap charText ++ '"' :: rest) = .ok (cs, rest) := by
  induction cs generalizing fuel with
  | nil =>
    obtain ⟨fuel, rfl⟩ := Nat.exists_eq_add_one_of_ne_zero (Nat.ne_zero_of_lt h)
    rfl
  | cons c cs ih =>
    obtain ⟨fuel, rfl⟩ := Nat.exists_eq_add_one_of_ne_zero (Nat.ne_zero_of_lt h)
    rw [List.flatMap_cons, List.append_assoc, stringBody_charText,
      ih (by rw [List.length_cons] at h; omega)]
    rfl

/-- A string is read as what it was, its opening quote consumed already. -/
theorem stringTail_quoted {bound : ℕ} {s : String} (h : s.length < bound) (rest : List Char) :
    stringTail bound (s.toList.flatMap charText ++ '"' :: rest) = .ok (s, rest) := by
  rw [stringTail, stringBody_flatMap (by rwa [String.length_toList])]
  show Except.ok (String.ofList s.toList, rest) = _
  rw [String.ofList_toList]

/-- What is written for a string is longer than the string. -/
theorem length_lt_length_quoted (s : String) : s.length < (quoted s).length := by
  have hchar : ∀ c, 1 ≤ (charText c).length := by
    intro c
    obtain ⟨tail, htext, -⟩ | ⟨htext, -⟩ := charText_cases c <;> simp [htext]
  have hflat : ∀ cs : List Char, cs.length ≤ (cs.flatMap charText).length := by
    intro cs
    induction cs with
    | nil => simp
    | cons c cs ih =>
      have := hchar c
      simp only [List.flatMap_cons, List.length_append, List.length_cons]
      omega
  have := hflat s.toList
  rw [← String.length_toList, ← String.length_toList, toList_quoted]
  simp only [List.length_cons, List.length_append]
  omega

end CardPress.Json
