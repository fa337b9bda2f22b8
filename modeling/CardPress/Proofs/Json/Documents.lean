import CardPress.Proofs.Json.Numbers
import CardPress.Proofs.Json.Strings

/-!
# Documents read back

A document is read from its own text, whatever comes after it, if the reader lets containers nest as
deep as the document does. So documents that have one text are one document.

## Main definitions

* `Json.NumbersFit` — the numbers are such as the reader gives.
* `Json.nesting` — how deep containers nest.

## Main results

* `Json.value_chars` — a document is read from its text.
* `Json.read_text` — the same for the reader of whole texts.
* `Json.text_injective` — no two documents have one text.
-/

namespace CardPress.Json

/-! ## Documents -/

/-- What holds of containers of what it holds of holds of every document. -/
@[elab_as_elim, induction_eliminator]
theorem induction {motive : Json → Prop} (null : motive .null) (bool : ∀ b, motive (.bool b))
    (int : ∀ n, motive (.int n)) (float : ∀ x, motive (.float x)) (string : ∀ s, motive (.string s))
    (array : ∀ items, (∀ j ∈ items, motive j) → motive (.array items))
    (object : ∀ members : List (String × Json), (∀ m ∈ members, motive m.2) →
      motive (.object members))
    (j : Json) : motive j :=
  @Json.rec motive (fun items => ∀ j ∈ items, motive j) (fun members => ∀ m ∈ members, motive m.2)
    (fun m => motive m.2) null bool int float string array object
    (by simp) (fun _ _ hhead htail => List.forall_mem_cons.2 ⟨hhead, htail⟩)
    (by simp) (fun _ _ hhead htail => List.forall_mem_cons.2 ⟨hhead, htail⟩)
    (fun _ _ h => h) j

/-- Numbers are such as the reader gives: whole ones of 64 bits and finite doubles. -/
inductive NumbersFit : Json → Prop
  | null : NumbersFit .null
  | bool (b : Bool) : NumbersFit (.bool b)
  | int {n : ℤ} (h : holdsInt n = true) : NumbersFit (.int n)
  | float {x : Float} (h : Double.isFinite x = true) : NumbersFit (.float x)
  | string (s : String) : NumbersFit (.string s)
  | array {items : List Json} (h : ∀ j ∈ items, NumbersFit j) : NumbersFit (.array items)
  | object {members : List (String × Json)} (h : ∀ m ∈ members, NumbersFit m.2) :
      NumbersFit (.object members)

@[simp] theorem numbersFit_int {n : ℤ} : NumbersFit (.int n) ↔ holdsInt n = true :=
  ⟨fun h => by cases h; assumption, .int⟩

@[simp] theorem numbersFit_float {x : Float} : NumbersFit (.float x) ↔ Double.isFinite x = true :=
  ⟨fun h => by cases h; assumption, .float⟩

@[simp] theorem numbersFit_array {items : List Json} :
    NumbersFit (.array items) ↔ ∀ j ∈ items, NumbersFit j :=
  ⟨fun h => by cases h; assumption, .array⟩

@[simp] theorem numbersFit_object {members : List (String × Json)} :
    NumbersFit (.object members) ↔ ∀ m ∈ members, NumbersFit m.2 :=
  ⟨fun h => by cases h; assumption, .object⟩

mutual

/-- How many containers contain one another. -/
def nesting : Json → ℕ
  | .array items => itemsNesting items + 1
  | .object members => membersNesting members + 1
  | _ => 0

def itemsNesting : List Json → ℕ
  | [] => 0
  | j :: rest => max j.nesting (itemsNesting rest)

def membersNesting : List (String × Json) → ℕ
  | [] => 0
  | (_, j) :: rest => max j.nesting (membersNesting rest)

end

variable {j : Json} {items : List Json} {members : List (String × Json)}

theorem itemsNesting_le_iff {depth : ℕ} :
    itemsNesting items ≤ depth ↔ ∀ j ∈ items, j.nesting ≤ depth := by
  induction items with
  | nil => simp [itemsNesting]
  | cons j items ih => simp [itemsNesting, ih]

theorem membersNesting_le_iff {depth : ℕ} :
    membersNesting members ≤ depth ↔ ∀ m ∈ members, m.2.nesting ≤ depth := by
  induction members with
  | nil => simp [membersNesting]
  | cons m members ih => simp [membersNesting, ih]

/-! ## Texts -/

/-- The text of a document, character by character. -/
def chars (j : Json) : List Char :=
  j.text.toList

def memberChars (m : String × Json) : List Char :=
  (quoted m.1).toList ++ ':' :: m.2.chars

theorem toList_itemsText (items : List Json) :
    (itemsText items).toList = [','].intercalate (items.map chars) := by
  induction items with
  | nil => rfl
  | cons j rest ih =>
    cases rest with
    | nil => simp [itemsText, chars]
    | cons k rest =>
      rw [itemsText, String.toList_append, String.toList_append, ih]
      · simp [chars]
      · simp

theorem toList_membersText (members : List (String × Json)) :
    (membersText members).toList = [','].intercalate (members.map memberChars) := by
  induction members with
  | nil => rfl
  | cons m rest ih =>
    obtain ⟨k, j⟩ := m
    cases rest with
    | nil => simp [membersText, memberChars, chars]
    | cons m rest =>
      rw [membersText, String.toList_append, ih]
      · simp [memberChars, chars]
      · simp

theorem chars_array (items : List Json) :
    chars (.array items) = '[' :: ([','].intercalate (items.map chars) ++ [']']) := by
  rw [chars, text, String.toList_append, String.toList_append, toList_itemsText]
  rfl

theorem chars_object (members : List (String × Json)) :
    chars (.object members) =
      '\x7b' :: ([','].intercalate (members.map memberChars) ++ ['\x7d']) := by
  rw [chars, text, String.toList_append, String.toList_append, toList_membersText]
  rfl

theorem chars_int (n : ℤ) :
    chars (.int n) = (if n < 0 then ['-'] else []) ++ Nat.toDigits 10 n.natAbs := by
  rw [chars, text, toList_toString]

theorem chars_float {x : Float} {d : Decimal} (h : Double.shortest? x = some d) :
    chars (.float x) = (if Double.isNegative x then ['-'] else []) ++ (decimalText d).toList := by
  rw [chars, text, floatText_eq h]
  split <;> simp

/-- The first character is one that neither stands between documents nor closes a container. -/
def Opens (cs : List Char) : Prop :=
  ∃ c rest, cs = c :: rest ∧ isSpace c = false ∧ c ≠ ']' ∧ c ≠ '\x7d'

theorem Opens.append {cs : List Char} (h : Opens cs) (rest : List Char) : Opens (cs ++ rest) := by
  obtain ⟨c, tail, rfl, h⟩ := h
  exact ⟨c, tail ++ rest, rfl, h⟩

/-- A digit comes first. -/
def StartsDigit (cs : List Char) : Prop :=
  ∃ c rest, cs = c :: rest ∧ c.isDigit = true

theorem startsDigit_of_areDigits {ds : List Char} (h : AreDigits ds) : StartsDigit ds := by
  obtain ⟨c, rest, rfl⟩ := List.exists_cons_of_ne_nil h.ne_nil
  exact ⟨c, rest, rfl, h.isDigit c List.mem_cons_self⟩

theorem StartsDigit.append {cs : List Char} (h : StartsDigit cs) (rest : List Char) :
    StartsDigit (cs ++ rest) := by
  obtain ⟨c, tail, rfl, hc⟩ := h
  exact ⟨c, tail ++ rest, rfl, hc⟩

theorem startsDigit_toDigits (n : ℕ) : StartsDigit (Nat.toDigits 10 n) :=
  startsDigit_of_areDigits (areDigits_toDigits n)

theorem startsDigit_decimalText (d : Decimal) : StartsDigit (decimalText d).toList := by
  obtain ⟨s, hs, htext⟩ := exists_spelling d
  rw [htext]
  exact (startsDigit_of_areDigits hs.readable.whole).append _

theorem StartsDigit.opens {cs : List Char} (h : StartsDigit cs) : Opens cs := by
  obtain ⟨c, rest, rfl, hc⟩ := h
  refine ⟨c, rest, rfl, ?_, ?_, ?_⟩
  · by_contra hspace
    simp only [isSpace, Bool.or_eq_true, decide_eq_true_eq, Bool.not_eq_false] at hspace
    obtain ((rfl | rfl) | rfl) | rfl := hspace <;> cases hc
  · rintro rfl
    cases hc
  · rintro rfl
    cases hc

theorem opens_sign {cs : List Char} (h : StartsDigit cs) (negative : Prop) [Decidable negative] :
    Opens ((if negative then ['-'] else []) ++ cs) := by
  split
  · exact ⟨'-', cs, rfl, rfl, by simp, by simp⟩
  · exact h.opens

theorem opens_chars (j : Json) : Opens j.chars := by
  cases j with
  | null => exact ⟨'n', ['u', 'l', 'l'], rfl, rfl, by simp, by simp⟩
  | bool b =>
    cases b with
    | false => exact ⟨'f', ['a', 'l', 's', 'e'], rfl, rfl, by simp, by simp⟩
    | true => exact ⟨'t', ['r', 'u', 'e'], rfl, rfl, by simp, by simp⟩
  | int n =>
    rw [chars_int]
    exact opens_sign (startsDigit_toDigits _) _
  | float x =>
    cases hshortest : Double.shortest? x with
    | none =>
      have hnull : floatText x = "null" := by
        rw [floatText, hshortest]
      rw [chars, text, hnull]
      exact ⟨'n', ['u', 'l', 'l'], rfl, rfl, by simp, by simp⟩
    | some d =>
      rw [chars_float hshortest]
      exact opens_sign (startsDigit_decimalText d) _
  | string s =>
    rw [chars, text, toList_quoted]
    exact ⟨'"', _, rfl, rfl, by simp, by simp⟩
  | array items =>
    rw [chars_array]
    exact ⟨'[', _, rfl, rfl, by simp, by simp⟩
  | object members =>
    rw [chars_object]
    exact ⟨'\x7b', _, rfl, rfl, by simp, by simp⟩

theorem opens_memberChars (m : String × Json) : Opens (memberChars m) := by
  rw [memberChars, toList_quoted]
  exact ⟨'"', _, rfl, rfl, by simp, by simp⟩

theorem skipSpace_of_opens {cs : List Char} (h : Opens cs) : skipSpace cs = cs := by
  obtain ⟨c, rest, rfl, hspace, -⟩ := h
  rw [skipSpace, List.dropWhile_cons, hspace, if_neg Bool.false_ne_true]

/-! ## Containers -/

theorem length_le_intercalate {texts : List (List Char)} {cs : List Char} (h : cs ∈ texts) :
    cs.length ≤ ([','].intercalate texts).length := by
  induction texts with
  | nil => cases h
  | cons t texts ih =>
    cases texts with
    | nil => simp_all
    | cons u texts =>
      rw [List.intercalate_cons_cons, List.length_append, List.length_append]
      rcases List.mem_cons.1 h with rfl | h
      · omega
      · have := ih h
        omega

/-- There are no more items than characters. -/
theorem length_le_length_intercalate {texts : List (List Char)} (h : ∀ cs ∈ texts, Opens cs) :
    texts.length ≤ ([','].intercalate texts).length := by
  induction texts with
  | nil => simp
  | cons t texts ih =>
    have ih := ih fun cs hcs => h cs (List.mem_cons_of_mem t hcs)
    have hpos : 1 ≤ t.length := by
      obtain ⟨c, rest, rfl, -⟩ := h t List.mem_cons_self
      simp
    cases texts with
    | nil => simpa using hpos
    | cons u texts =>
      rw [List.intercalate_cons_cons, List.length_append, List.length_append, List.length_cons]
      omega

section

variable {α : Type} {item : List Char → Except ReadError (Read α)} {spell : α → List Char}
  {close : Char} {xs : List α}

/-- The items are read that stand between commas, up to the closing character. -/
theorem itemsUntil_intercalate (hclose : close = ']' ∨ close = '\x7d')
    (hitem : ∀ x ∈ xs, ∀ tail, Ends tail → item (spell x ++ tail) = .ok (x, tail)) {fuel : ℕ}
    (hfuel : xs.length ≤ fuel) (hne : xs ≠ []) (rest : List Char) :
    itemsUntil item close fuel ([','].intercalate (xs.map spell) ++ close :: rest) =
      .ok (xs, rest) := by
  have hcomma : close ≠ ',' ∧ isSpace close = false ∧ Ends (close :: rest) := by
    obtain rfl | rfl := hclose
    · exact ⟨by decide, rfl, ends_cons (by simp) rest⟩
    · exact ⟨by decide, rfl, ends_cons (by simp) rest⟩
  obtain ⟨hcomma, hspace, hends⟩ := hcomma
  have hskip : skipSpace (close :: rest) = close :: rest := by
    rw [skipSpace, List.dropWhile_cons, hspace, if_neg Bool.false_ne_true]
  induction xs generalizing fuel with
  | nil => exact absurd rfl hne
  | cons x xs ih =>
    obtain ⟨fuel, rfl⟩ := Nat.exists_eq_add_one_of_ne_zero
      (show fuel ≠ 0 by rw [List.length_cons] at hfuel; omega)
    have hhead := hitem x List.mem_cons_self
    have htail := fun y hy => hitem y (List.mem_cons_of_mem x hy)
    cases xs with
    | nil =>
      rw [List.map_singleton, List.intercalate_singleton, itemsUntil, hhead _ hends]
      simp only [bind, Except.bind, hskip, if_neg hcomma, if_pos]
    | cons y ys =>
      have hrest : itemsUntil item close fuel
          ([','].intercalate ((y :: ys).map spell) ++ close :: rest) = .ok (y :: ys, rest) :=
        ih htail (by simpa using hfuel) (by simp)
      rw [List.map_cons, List.map_cons, List.intercalate_cons_cons, List.append_assoc,
        List.append_assoc, List.singleton_append, itemsUntil, hhead _ (ends_cons (.inl rfl) _)]
      show (itemsUntil item close fuel ([','].intercalate ((y :: ys).map spell) ++ close :: rest)
        >>= fun r => Except.ok (x :: r.1, r.2)) = _
      rw [hrest]
      rfl

/-- A container is read from its items with commas between them if each item is that is no longer
than the container. -/
theorem container_intercalate (hclose : close = ']' ∨ close = '\x7d')
    (hopens : ∀ x ∈ xs, Opens (spell x)) {bound : ℕ}
    (hbound : ([','].intercalate (xs.map spell)).length < bound)
    (hitem : ∀ x ∈ xs, (spell x).length < bound →
      ∀ tail, Ends tail → item (spell x ++ tail) = .ok (x, tail)) (rest : List Char) :
    container item close bound ([','].intercalate (xs.map spell) ++ close :: rest) =
      .ok (xs, rest) := by
  have hcount := length_le_length_intercalate (List.forall_mem_map.2 hopens)
  rw [List.length_map] at hcount
  have hitem : ∀ x ∈ xs, ∀ tail, Ends tail → item (spell x ++ tail) = .ok (x, tail) :=
    fun x hx => hitem x hx ((length_le_intercalate (List.mem_map_of_mem hx)).trans_lt hbound)
  cases xs with
  | nil =>
    obtain rfl | rfl := hclose <;> rfl
  | cons x xs =>
    have hjoined : Opens ([','].intercalate ((x :: xs).map spell) ++ close :: rest) := by
      cases xs with
      | nil => simpa using (hopens x List.mem_cons_self).append _
      | cons y ys => simpa using (hopens x List.mem_cons_self).append _
    have hread := itemsUntil_intercalate hclose hitem (hcount.trans hbound.le)
      (List.cons_ne_nil x xs) rest
    have hskip := skipSpace_of_opens hjoined
    obtain ⟨c, tail, hcs, -, hbracket, hbrace⟩ := hjoined
    have hne : c ≠ close := by
      obtain rfl | rfl := hclose <;> assumption
    rw [container, hskip]
    rw [hcs] at hread ⊢
    show (if c = close then _ else itemsUntil item close bound (c :: tail)) = _
    rw [if_neg hne, hread]

end

/-! ## Reading -/

section

variable {bound depth : ℕ} {rest : List Char}

theorem value_digit {cs : List Char} (h : StartsDigit cs) :
    value bound depth cs = number false cs := by
  rw [value.eq_def, skipSpace_of_opens h.opens]
  obtain ⟨c, rest, rfl, hc⟩ := h
  split
  case h_8 => rfl
  all_goals
    next heq =>
      cases heq
      cases hc

/-- What begins with a sign or a digit is read as a number. -/
theorem value_sign {cs : List Char} (h : StartsDigit cs) (negative : Prop) [Decidable negative] :
    value bound depth ((if negative then ['-'] else []) ++ cs) = number (decide negative) cs := by
  by_cases hneg : negative
  · rw [if_pos hneg, decide_eq_true hneg, value.eq_def]
    rfl
  · rw [if_neg hneg, decide_eq_false hneg, List.nil_append, value_digit h]

theorem value_quote : value bound depth ('"' :: rest) =
    (stringTail bound rest).map fun r => (.string r.1, r.2) := by
  rw [value.eq_def]
  show (stringTail bound rest >>= fun r => Except.ok (Json.string r.1, r.2)) = _
  cases stringTail bound rest <;> rfl

theorem value_bracket : value bound (depth + 1) ('[' :: rest) =
    (container (value bound depth) ']' bound rest).map fun r => (.array r.1, r.2) := by
  rw [value.eq_def]
  show (container (value bound depth) ']' bound rest >>=
    fun r => Except.ok (Json.array r.1, r.2)) = _
  cases container (value bound depth) ']' bound rest <;> rfl

theorem value_brace : value bound (depth + 1) ('\x7b' :: rest) =
    (container (memberOf (stringTail bound) fun _ => value bound depth) '\x7d' bound rest).map
      fun r => (.object r.1, r.2) := by
  rw [value.eq_def]
  show (container (memberOf (stringTail bound) fun _ => value bound depth) '\x7d' bound rest >>=
    fun r => Except.ok (Json.object r.1, r.2)) = _
  cases container (memberOf (stringTail bound) fun _ => value bound depth) '\x7d' bound rest <;> rfl

/-- A member is read if its value is. -/
theorem memberOf_memberChars {m : String × Json} (hkey : m.1.length < bound)
    (hvalue : value bound depth (m.2.chars ++ rest) = .ok (m.2, rest)) :
    memberOf (stringTail bound) (fun _ => value bound depth) (memberChars m ++ rest) =
      .ok (m, rest) := by
  have hchars : memberChars m ++ rest =
      '"' :: (m.1.toList.flatMap charText ++ '"' :: ':' :: (m.2.chars ++ rest)) := by
    rw [memberChars, toList_quoted]
    simp
  have hquote : ∀ cs, skipSpace ('"' :: cs) = '"' :: cs := fun _ => rfl
  have hcolon : ∀ cs, skipSpace (':' :: cs) = ':' :: cs := fun _ => rfl
  rw [hchars, memberOf]
  simp only [hquote, stringTail_quoted hkey, bind, Except.bind, hcolon, hvalue]

end

/-- A document is read from its text, whatever comes after it. -/
theorem value_chars {bound depth : ℕ} {rest : List Char} (hnumbers : j.NumbersFit)
    (hdepth : j.nesting ≤ depth) (hbound : j.chars.length < bound) (hrest : Ends rest) :
    value bound depth (j.chars ++ rest) = .ok (j, rest) := by
  -- The bound is one for the whole text, which its parts keep; only the depth goes down with the
  -- levels.
  induction j generalizing depth rest with
  | null =>
    rw [value.eq_def]
    rfl
  | bool b =>
    rw [value.eq_def]
    cases b <;> rfl
  | int n =>
    rw [chars_int, List.append_assoc,
      value_sign ((startsDigit_toDigits _).append rest)]
    exact number_int (numbersFit_int.1 hnumbers) hrest
  | float x =>
    obtain ⟨b, hdecode⟩ := Double.exists_decode (numbersFit_float.1 hnumbers)
    have hshortest :
        Double.shortest? x = some (Decimal.shortest .double b.mantissa b.exponent) := by
      rw [Double.shortest?, hdecode, Option.map_some]
    rw [chars_float hshortest, List.append_assoc,
      value_sign ((startsDigit_decimalText _).append rest), Bool.decide_eq_true]
    exact number_float hshortest hrest
  | string s =>
    have hlength : s.length < bound := (length_lt_length_quoted s).trans hbound
    rw [chars, text, toList_quoted, List.cons_append, List.append_assoc, List.singleton_append,
      value_quote, stringTail_quoted hlength]
    rfl
  | array items ih =>
    obtain ⟨depth, rfl⟩ : ∃ d, depth = d + 1 := ⟨depth - 1, by rw [nesting] at hdepth; omega⟩
    have hdepth := itemsNesting_le_iff.1 (Nat.le_of_succ_le_succ hdepth)
    rw [chars_array] at hbound ⊢
    simp only [List.length_cons, List.length_append] at hbound
    have hread : ∀ j ∈ items, j.chars.length < bound → ∀ tail, Ends tail →
        value bound depth (j.chars ++ tail) = .ok (j, tail) := fun j hj hlength _ htail =>
      ih j hj (numbersFit_array.1 hnumbers j hj) (hdepth j hj) hlength htail
    rw [List.cons_append, List.append_assoc, List.singleton_append, value_bracket,
      container_intercalate (.inl rfl) (fun j _ => opens_chars j) (by omega) hread]
    rfl
  | object members ih =>
    obtain ⟨depth, rfl⟩ : ∃ d, depth = d + 1 := ⟨depth - 1, by rw [nesting] at hdepth; omega⟩
    have hdepth := membersNesting_le_iff.1 (Nat.le_of_succ_le_succ hdepth)
    rw [chars_object] at hbound ⊢
    simp only [List.length_cons, List.length_append] at hbound
    have hread : ∀ m ∈ members, (memberChars m).length < bound → ∀ tail, Ends tail →
        memberOf (stringTail bound) (fun _ => value bound depth) (memberChars m ++ tail) =
          .ok (m, tail) := by
      intro m hm hlength tail htail
      have hkey := length_lt_length_quoted m.1
      simp only [memberChars, List.length_append, List.length_cons, String.length_toList] at hlength
      exact memberOf_memberChars (by omega) <|
        ih m hm (numbersFit_object.1 hnumbers m hm) (hdepth m hm) (by omega) htail
    rw [List.cons_append, List.append_assoc, List.singleton_append, value_brace,
      container_intercalate (.inr rfl) (fun m _ => opens_memberChars m) (by omega) hread]
    rfl

/-- A document is read from its text if the reader lets containers nest as deep. -/
theorem read_text (hnumbers : j.NumbersFit) (hdepth : j.nesting ≤ maxDepth) :
    read j.text = .ok j := by
  have hread : value (j.text.length + 1) maxDepth (j.chars ++ []) = .ok (j, []) :=
    value_chars hnumbers hdepth (Nat.lt_succ_self _) ends_nil
  rw [List.append_nil] at hread
  show (value (j.text.length + 1) maxDepth j.chars >>= _) = _
  rw [hread]
  rfl

/-- No two documents have one text. -/
theorem text_injective {k : Json} (hj : j.NumbersFit) (hk : k.NumbersFit) (h : j.text = k.text) :
    j = k := by
  have hchars : j.chars = k.chars := congrArg String.toList h
  have hreadj := value_chars hj (le_max_left j.nesting k.nesting) (Nat.lt_succ_self _) ends_nil
  have hreadk := value_chars hk (le_max_right j.nesting k.nesting) (Nat.lt_succ_self _) ends_nil
  rw [hchars, hreadk] at hreadj
  cases hreadj
  rfl

end CardPress.Json
