import CardPress.Proofs.Text.Trimming

/-!
# File names

A sanitised name can stand in a path: it is not empty, has no reserved and no control characters,
and no blank at either end. It ends in a dot only if blanks other than spaces followed that dot,
since these go after the dots and spaces at the end have gone; and but for these names sanitising
again changes nothing.

## Main definitions

* `Text.IsName` — what every sanitised name is.
* `Text.HidesDot` — a dot at the end comes to light when blanks go.

## Main results

* `Text.isName_sanitiseFilename` — what is sanitised is a name.
* `Text.sanitiseFilename_laws` — which names end in a dot, and which change again.
-/

namespace CardPress.Text

/-- What file systems reserve. -/
def reservedChars : List Char :=
  ['<', '>', ':', '"', '/', '\\', '|', '?', '*']

/-- There is something, nothing of it is reserved or a control, and no blank stands at either
end. -/
structure IsName (cs : List Char) : Prop where
  ne_nil : cs ≠ []
  safe : ∀ c ∈ cs, c ∉ reservedChars ∧ isControl c = false
  trimmed : Trimmed cs

/-- After some dot there are only blanks, the last of which is no space, and then dots and
spaces. -/
def HidesDot (cs : List Char) : Prop :=
  ∃ stem blanks tail, cs = stem ++ '.' :: (blanks ++ tail) ∧
    (∀ c ∈ blanks, isBlank c = true ∧ isControl c = false) ∧ (∃ c ∈ blanks.getLast?, c ≠ ' ') ∧
    ∀ c ∈ tail, c = '.' ∨ c = ' '

variable {c : Char} {cs : List Char} {name : String}

/-! ## Characters -/

theorem isUnsafe_eq_false_iff : isUnsafe c = false ↔ c ∉ reservedChars ∧ isControl c = false := by
  simp [isUnsafe, reservedChars]

theorem isTrailing_iff : isTrailing c = true ↔ c = '.' ∨ c = ' ' := by
  simp [isTrailing]

/-- What stands for a character in a name. -/
def safeChar (c : Char) : Char :=
  if isUnsafe c then '_' else c

theorem isUnsafe_safeChar (c : Char) : isUnsafe (safeChar c) = false := by
  rw [safeChar]
  split
  · decide
  · next h => exact Bool.not_eq_true _ ▸ h

theorem safeChar_of_safe (h : isUnsafe c = false) : safeChar c = c := by
  rw [safeChar, h, if_neg Bool.false_ne_true]

/-- Only an underscore can stand for another character. -/
theorem eq_of_safeChar_ne (h : safeChar c ≠ '_') : safeChar c = c ∧ isUnsafe c = false := by
  cases hc : isUnsafe c with
  | true => exact absurd (by rw [safeChar, hc, if_pos rfl]) h
  | false => exact ⟨safeChar_of_safe hc, rfl⟩

theorem map_safeChar_of_safe (h : ∀ c ∈ cs, isUnsafe c = false) : cs.map safeChar = cs := by
  rw [List.map_congr_left fun c hc => safeChar_of_safe (h c hc), List.map_id']

/-- Characters without an underscore stand for themselves. -/
theorem eq_of_map_safeChar {chars : List Char} (h : cs.map safeChar = chars)
    (hunderscore : '_' ∉ chars) : cs = chars ∧ ∀ c ∈ chars, isUnsafe c = false := by
  have hself : ∀ c ∈ cs, safeChar c = c ∧ isUnsafe c = false := by
    intro c hc
    refine eq_of_safeChar_ne fun hc' => hunderscore ?_
    rw [← hc', ← h]
    exact List.mem_map_of_mem hc
  have hsame : cs = chars := by
    rw [← h, List.map_congr_left fun c hc => (hself c hc).1, List.map_id']
  exact ⟨hsame, hsame ▸ fun c hc => (hself c hc).2⟩

theorem not_mem_reservedChars_of_isBlank (h : isBlank c = true) : c ∉ reservedChars := by
  intro hc
  simp only [reservedChars, List.mem_cons, List.not_mem_nil, or_false] at hc
  rcases hc with rfl | rfl | rfl | rfl | rfl | rfl | rfl | rfl | rfl <;> cases h

/-! ## What is left of a name -/

/-- The characters that are left, which may be none. -/
def kept (cs : List Char) : List Char :=
  trimChars (dropEndWhile isTrailing (cs.map safeChar))

theorem toList_sanitiseFilename (name : String) : (sanitiseFilename name).toList =
    if (kept name.toList).isEmpty then defaultFilename.toList else kept name.toList := by
  show (if (kept name.toList).isEmpty then defaultFilename
    else String.ofList (kept name.toList)).toList = _
  split <;> simp

/-- Dots and spaces go from the end, then blanks from both ends. -/
theorem exists_kept (cs : List Char) : ∃ front back tail,
    cs.map safeChar = front ++ kept cs ++ back ++ tail ∧ (∀ c ∈ back, isBlank c = true) ∧
      (∀ c ∈ tail, isTrailing c = true) ∧
      ∀ c ∈ (front ++ kept cs ++ back).getLast?, isTrailing c = false := by
  obtain ⟨tail, hchars, htail⟩ := exists_dropEndWhile isTrailing (cs.map safeChar)
  obtain ⟨front, back, hstripped, -, hback⟩ :=
    exists_trimChars (dropEndWhile isTrailing (cs.map safeChar))
  have hlast : ∀ c ∈ (dropEndWhile isTrailing (cs.map safeChar)).getLast?, isTrailing c = false :=
    getLast?_dropEndWhile
  rw [hstripped] at hchars hlast
  exact ⟨front, back, tail, hchars, hback, htail, hlast⟩

theorem safe_of_mem_kept (h : c ∈ kept cs) : isUnsafe c = false := by
  obtain ⟨front, back, tail, hchars, -⟩ := exists_kept cs
  have hmem : c ∈ cs.map safeChar := by
    rw [hchars]
    simp [h]
  obtain ⟨d, -, rfl⟩ := List.mem_map.1 hmem
  exact isUnsafe_safeChar d

theorem isName_defaultFilename : IsName defaultFilename.toList where
  ne_nil := by decide
  safe := by simp [defaultFilename, reservedChars, isControl]
  trimmed := ⟨by simp [defaultFilename, isBlank], by simp [defaultFilename, isBlank]⟩

theorem isName_sanitiseFilename (name : String) : IsName (sanitiseFilename name).toList := by
  rw [toList_sanitiseFilename]
  split
  · exact isName_defaultFilename
  · next hne =>
    refine ⟨by simpa using hne, fun c hc => isUnsafe_eq_false_iff.1 (safe_of_mem_kept hc), ?_⟩
    exact trimmed_trimChars _

/-- A name that does not end in a dot stays as it is. -/
theorem sanitiseFilename_of_isName (h : IsName name.toList)
    (hdot : name.toList.getLast? ≠ some '.') : sanitiseFilename name = name := by
  have hsafe := map_safeChar_of_safe fun c hc => isUnsafe_eq_false_iff.2 (h.safe c hc)
  have hlast : ∀ c ∈ name.toList.getLast?, isTrailing c = false := by
    intro c hc
    rw [← Bool.not_eq_true, isTrailing_iff]
    rintro (rfl | rfl)
    · exact hdot hc
    · cases h.trimmed.last ' ' hc
  have hkept : kept name.toList = name.toList := by
    rw [kept, hsafe, dropEndWhile_of_getLast? hlast, trimChars_of_trimmed h.trimmed]
  rw [← String.toList_inj, toList_sanitiseFilename, hkept, if_neg (by simpa using h.ne_nil)]

/-! ## Dots at the end -/

theorem hidesDot_of_getLast? (h : (kept cs).getLast? = some '.') : HidesDot cs := by
  obtain ⟨front, back, tail, hchars, hback, htail, hlast⟩ := exists_kept cs
  obtain ⟨x, hx⟩ := List.getLast?_eq_some_iff.1 h
  -- The dot is not what the name ended in without dots and spaces, so it has blanks behind it.
  have hspace : ∃ c ∈ back.getLast?, c ≠ ' ' := by
    cases hempty : back.getLast? with
    | none =>
      rw [List.getLast?_eq_none_iff.1 hempty, hx] at hlast
      cases hlast '.' (by simp)
    | some c =>
      refine ⟨c, rfl, ?_⟩
      rintro rfl
      rw [List.getLast?_append, hempty] at hlast
      cases hlast ' ' rfl
  have hsplit : cs.map safeChar = (front ++ x) ++ '.' :: (back ++ tail) := by
    rw [hchars, hx]
    simp
  have hunderscore : '_' ∉ '.' :: (back ++ tail) := by
    simp only [List.mem_cons, List.mem_append]
    rintro (h | h | h)
    · cases h
    · cases hback _ h
    · cases htail _ h
  obtain ⟨stem, others, rfl, -, hothers⟩ := List.map_eq_append_iff.1 hsplit
  obtain ⟨rfl, hsafe⟩ := eq_of_map_safeChar hothers hunderscore
  refine ⟨stem, back, tail, rfl, fun c hc => ⟨hback c hc, ?_⟩, hspace, fun c hc => ?_⟩
  · exact (isUnsafe_eq_false_iff.1 (hsafe c (by simp [hc]))).2
  · exact isTrailing_iff.1 (htail c hc)

theorem getLast?_of_hidesDot (h : HidesDot cs) : (kept cs).getLast? = some '.' := by
  obtain ⟨stem, blanks, tail, rfl, hblanks, ⟨c, hc, hspace⟩, htail⟩ := h
  have hsafe : ∀ d ∈ '.' :: (blanks ++ tail), isUnsafe d = false := by
    intro d hd
    rcases List.mem_cons.1 hd with rfl | hd
    · rfl
    rcases List.mem_append.1 hd with hd | hd
    · obtain ⟨hblank, hcontrol⟩ := hblanks d hd
      exact isUnsafe_eq_false_iff.2 ⟨not_mem_reservedChars_of_isBlank hblank, hcontrol⟩
    · rcases htail d hd with rfl | rfl <;> rfl
  have hlast : ∀ d ∈ (stem.map safeChar ++ '.' :: blanks).getLast?, isTrailing d = false := by
    obtain ⟨y, rfl⟩ := List.getLast?_eq_some_iff.1 hc
    have hlast : (stem.map safeChar ++ '.' :: (y ++ [c])).getLast? = some c := by
      simp [List.getLast?_append, List.getLast?_cons]
    rw [hlast]
    rintro _ ⟨⟩
    rw [← Bool.not_eq_true, isTrailing_iff]
    rintro (rfl | rfl)
    · cases (hblanks '.' (by simp)).1
    · exact hspace rfl
  rw [kept, List.map_append, map_safeChar_of_safe hsafe, ← List.cons_append, ← List.append_assoc,
    dropEndWhile_append (fun d hd => isTrailing_iff.2 (htail d hd)), dropEndWhile_of_getLast? hlast]
  exact getLast?_trimChars rfl fun d hd => (hblanks d hd).1

/-- The last character of a sanitised name is a dot just if blanks hid it. -/
theorem getLast?_sanitiseFilename_iff :
    (sanitiseFilename name).toList.getLast? = some '.' ↔ HidesDot name.toList := by
  have hkept : (sanitiseFilename name).toList.getLast? = some '.' ↔
      (kept name.toList).getLast? = some '.' := by
    rw [toList_sanitiseFilename]
    split
    · next hempty =>
      rw [List.isEmpty_iff.1 hempty]
      decide
    · rfl
  exact hkept.trans ⟨hidesDot_of_getLast?, getLast?_of_hidesDot⟩

/-- A name that ends in a dot changes. -/
theorem getLast?_of_sanitiseFilename_eq (h : sanitiseFilename name = name) :
    name.toList.getLast? ≠ some '.' := by
  intro hdot
  have hchars : name.toList =
      if (kept name.toList).isEmpty then defaultFilename.toList else kept name.toList := by
    rw [← toList_sanitiseFilename, h]
  split at hchars
  · rw [hchars] at hdot
    cases hdot
  · -- Nothing went, and so the name does not end in what goes from the end.
    obtain ⟨front, back, tail, hkept, -, -, hlast⟩ := exists_kept name.toList
    have hlength := congrArg List.length hkept
    simp only [List.length_map, List.length_append, ← hchars] at hlength
    have hback : back = [] := List.eq_nil_of_length_eq_zero (by omega)
    rw [hback, List.append_nil, List.getLast?_append, ← hchars, hdot] at hlast
    cases hlast '.' rfl

/-- A sanitised name is not empty, has no reserved and no control characters and no blank at either
end. It does not end in a dot and does not change when it is sanitised again, unless the name hid a
dot; then it does both. -/
theorem sanitiseFilename_laws (name : String) :
    IsName (sanitiseFilename name).toList ∧
    ((sanitiseFilename name).toList.getLast? = some '.' ↔ HidesDot name.toList) ∧
    (sanitiseFilename (sanitiseFilename name) = sanitiseFilename name ↔
      ¬ HidesDot name.toList) := by
  have hname := isName_sanitiseFilename name
  refine ⟨hname, getLast?_sanitiseFilename_iff, ?_⟩
  rw [← getLast?_sanitiseFilename_iff]
  exact ⟨getLast?_of_sanitiseFilename_eq, sanitiseFilename_of_isName hname⟩

/-- Two dots before a blank that is no space are a name, and none the second time. -/
theorem sanitiseFilename_dots :
    sanitiseFilename "..\u00a0" = ".." ∧
      sanitiseFilename (sanitiseFilename "..\u00a0") = "card" := by
  decide

end CardPress.Text
