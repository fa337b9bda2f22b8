import CardPress.Text.Blank
import Mathlib.Data.List.DropRight

/-!
# Trimming

What trimming leaves has no blank at either end, all that goes is blank, and what has no blank at
either end stays as it is.

## Main definition

* `Text.Trimmed` — there is no blank at either end.

## Main results

* `Text.trimmed_trimChars`, `Text.exists_trimChars` — what stays and what goes.
* `Text.trimChars_of_trimmed` — what is trimmed already.
* `Text.getLast?_trimChars` — what comes last in front of blanks.
-/

namespace CardPress.Text

variable {p : Char → Bool} {cs tail : List Char}

/-! ## One end -/

theorem getLast?_dropEndWhile : ∀ c ∈ (dropEndWhile p cs).getLast?, p c = false := by
  intro c hc
  obtain ⟨hne, rfl⟩ := List.mem_getLast?_eq_getLast hc
  exact Bool.not_eq_true _ ▸ List.rdropWhile_last_not p cs hne

/-- What is dropped is such. -/
theorem exists_dropEndWhile (p : Char → Bool) (cs : List Char) :
    ∃ tail, cs = dropEndWhile p cs ++ tail ∧ ∀ c ∈ tail, p c = true :=
  ⟨cs.rtakeWhile p, List.rdropWhile_append_rtakeWhile.symm, fun _ => List.mem_rtakeWhile_imp⟩

theorem dropEndWhile_of_getLast? (h : ∀ c ∈ cs.getLast?, p c = false) : dropEndWhile p cs = cs := by
  refine List.rdropWhile_eq_self_iff.2 fun hne => ?_
  rw [h _ (List.getLast?_eq_some_getLast hne)]
  exact Bool.false_ne_true

theorem dropEndWhile_append (h : ∀ c ∈ tail, p c = true) :
    dropEndWhile p (cs ++ tail) = dropEndWhile p cs := by
  rw [dropEndWhile, List.reverse_append, List.dropWhile_append_of_pos (by simpa using h)]
  rfl

/-! ## Both ends -/

/-- There is no blank at either end. -/
structure Trimmed (cs : List Char) : Prop where
  head : ∀ c ∈ cs.head?, isBlank c = false
  last : ∀ c ∈ cs.getLast?, isBlank c = false

theorem trimChars_of_trimmed (h : Trimmed cs) : trimChars cs = cs := by
  have hfront : cs.dropWhile isBlank = cs := by
    cases cs with
    | nil => rfl
    | cons c cs => exact List.dropWhile_cons_of_neg (by simp [h.head c rfl])
  rw [trimChars, hfront, dropEndWhile_of_getLast? h.last]

theorem trimmed_trimChars (cs : List Char) : Trimmed (trimChars cs) where
  head c hc := by
    -- The first character that stays is the first one that is no blank.
    obtain ⟨back, hback, -⟩ := exists_dropEndWhile isBlank (cs.dropWhile isBlank)
    have hfirst : (cs.dropWhile isBlank).head? = some c := by
      rw [hback, List.head?_append]
      exact Option.or_eq_some_iff.2 (.inl hc)
    have hhead := List.head?_dropWhile_not isBlank cs
    rwa [hfirst] at hhead
  last := getLast?_dropEndWhile

/-- Only blanks go. -/
theorem exists_trimChars (cs : List Char) :
    ∃ front back, cs = front ++ trimChars cs ++ back ∧ (∀ c ∈ front, isBlank c = true) ∧
      ∀ c ∈ back, isBlank c = true := by
  obtain ⟨back, hback, hblank⟩ := exists_dropEndWhile isBlank (cs.dropWhile isBlank)
  refine ⟨cs.takeWhile isBlank, back, ?_, fun _ => List.mem_takeWhile_imp, hblank⟩
  rw [List.append_assoc, trimChars, ← hback, List.takeWhile_append_dropWhile]

/-- A character that is no blank stays. -/
theorem mem_trimChars {c : Char} (hc : c ∈ cs) (hblank : isBlank c = false) : c ∈ trimChars cs := by
  obtain ⟨front, back, hcs, hfront, hback⟩ := exists_trimChars cs
  rw [hcs, List.mem_append, List.mem_append] at hc
  rcases hc with (hc | hc) | hc
  · rw [hfront c hc] at hblank
    cases hblank
  · exact hc
  · rw [hback c hc] at hblank
    cases hblank

theorem trim_of_forall {s : String} (h : ∀ c ∈ s.toList, isBlank c = false) : trim s = s := by
  have htrimmed : Trimmed s.toList :=
    ⟨fun c hc => h c (List.mem_of_mem_head? hc), fun c hc => h c (List.mem_of_mem_getLast? hc)⟩
  rw [trim, trimChars_of_trimmed htrimmed, String.ofList_toList]

/-- Blanks go from behind a character that is none. -/
theorem getLast?_trimChars {c : Char} (hc : isBlank c = false) {blanks : List Char}
    (h : ∀ c ∈ blanks, isBlank c = true) : (trimChars (cs ++ c :: blanks)).getLast? = some c := by
  have hfront : ∃ x, (cs ++ c :: blanks).dropWhile isBlank = x ++ c :: blanks := by
    rw [List.dropWhile_append]
    split
    · exact ⟨[], List.dropWhile_cons_of_neg (by simp [hc])⟩
    · exact ⟨_, rfl⟩
  obtain ⟨x, hx⟩ := hfront
  have hlast : (x ++ [c]).getLast? = some c := List.getLast?_concat
  rw [trimChars, hx, List.append_cons, dropEndWhile_append h, dropEndWhile_of_getLast?, hlast]
  simpa [hlast] using hc

theorem isBlank_of_isDigit {c : Char} (h : c.isDigit = true) : isBlank c = false := by
  have hbounds : 48 ≤ c.toNat ∧ c.toNat ≤ 57 := by
    simpa [Char.isDigit, UInt32.le_iff_toNat_le] using h
  simp only [isBlank, Bool.or_eq_false_iff, Bool.and_eq_false_iff, decide_eq_false_iff_not,
    beq_eq_false_iff_ne]
  omega

end CardPress.Text
