import CardPress.Calc
import CardPress.Proofs.Number.Literals
import CardPress.Proofs.Text.Trimming

/-!
# Formatting

A format is made of pieces: texts, in which braces are doubled, and fields with or without the index
of an operand. Whatever pieces stand next to each other, they are told apart again: formatting puts
the texts and the operands one after the other, and fails at the first field that no operand is
there for.

## Main definitions

* `Formatting.Piece` — what formats are made of.
* `Formatting.written` — the format that some pieces make up.
* `Formatting.part` — what a piece stands for after others.

## Main results

* `Formatting.formatFrom_written` — pieces are formatted one after the other, from any place on.
* `Formatting.format_written` — what becomes of a format.
-/

namespace CardPress.Calc.Formatting

/-! ## Formats -/

inductive Piece where
  /-- A text that stands for itself. -/
  | literal (s : String)
  /-- A field for the next operand. -/
  | automatic
  /-- A field for the operand at a place. -/
  | explicit (n : ℕ)
  deriving DecidableEq

/-- A character of a text as it is written: a brace twice. -/
def doubled (c : Char) : List Char :=
  if c = '\x7b' ∨ c = '\x7d' then [c, c] else [c]

/-- A piece as it is written. -/
def Piece.chars : Piece → List Char
  | .literal s => s.toList.flatMap doubled
  | .automatic => ['\x7b', '\x7d']
  | .explicit n => '\x7b' :: (Nat.toDigits 10 n ++ ['\x7d'])

def written (pieces : List Piece) : String :=
  String.ofList (pieces.flatMap Piece.chars)

/-! ## What they stand for -/

/-- The operand that a field stands for, and the fault if there is none. -/
structure Field where
  index : ℕ
  fault : CalcFault

/-- What a piece stands for after others. Of the fields without an index, each takes the operand
after that of the one before. -/
def part (before : List Piece) : Piece → String ⊕ Field
  | .literal s => .inl s
  | .automatic => .inr ⟨before.count .automatic, .noOperandFor (before.count .automatic)⟩
  | .explicit n =>
    .inr ⟨n, if n < 2 ^ 64 then .noOperandFor n else .unsupportedField (toString n)⟩

/-- What pieces stand for after others. -/
def partsAfter (before : List Piece) : List Piece → List (String ⊕ Field)
  | [] => []
  | p :: rest => part before p :: partsAfter (before ++ [p]) rest

def fields (parts : List (String ⊕ Field)) : List Field :=
  parts.filterMap Sum.getRight?

/-- Texts as they are and operands by their text, one after the other. -/
def filled (values : List Value) (parts : List (String ⊕ Field)) : String :=
  String.join (parts.map (Sum.elim id fun f => (values.getD f.index .null).text))

/-- The text of all parts, or the fault of the first field that no operand is there for. -/
def outcome (values : List Value) (parts : List (String ⊕ Field)) : Except Fault String :=
  match (fields parts).find? (values.length ≤ ·.index) with
  | none => .ok (filled values parts)
  | some f => fail f.fault

/-- The text of one part. -/
def partText (values : List Value) : String ⊕ Field → Except Fault String
  | .inl s => .ok s
  | .inr f =>
    match values[f.index]? with
    | some v => .ok v.text
    | none => fail f.fault

variable {values : List Value} {parts : List (String ⊕ Field)} {f : Field} {before : List Piece}
  {next : ℕ} {rest : List Char}

/-- One part after the other. -/
theorem outcome_cons (x : String ⊕ Field) :
    outcome values (x :: parts) =
      (partText values x).bind fun s => (outcome values parts).map (s ++ ·) := by
  cases x with
  | inl s =>
    have hfields : fields (.inl s :: parts) = fields parts := rfl
    rw [outcome, outcome, hfields]
    cases (fields parts).find? (values.length ≤ ·.index) with
    | none => exact congrArg Except.ok String.join_cons
    | some f => rfl
  | inr f =>
    have hfields : fields (.inr f :: parts) = f :: fields parts := rfl
    rw [partText, outcome, outcome, hfields]
    cases hvalue : values[f.index]? with
    | some v =>
      have hindex : ¬ values.length ≤ f.index :=
        Nat.not_le.2 (List.getElem?_eq_some_iff.1 hvalue).1
      have hget : values.getD f.index .null = v := by
        rw [List.getD_eq_getElem?_getD, hvalue, Option.getD_some]
      rw [List.find?_cons_of_neg (by simpa using hindex)]
      cases (fields parts).find? (values.length ≤ ·.index) with
      | none =>
        refine congrArg Except.ok ?_
        rw [filled, List.map_cons, String.join_cons, Sum.elim_inr, hget]
        rfl
      | some f => rfl
    | none =>
      have hindex : values.length ≤ f.index := List.getElem?_eq_none_iff.1 hvalue
      rw [List.find?_cons_of_pos (by simpa using hindex)]
      rfl

/-! ## Texts -/

theorem append_bind_eq_map (s : String) (x : Except Fault String) :
    (do return s ++ (← x)) = x.map (s ++ ·) := by
  cases x <;> rfl

/-- A character of a text is read as itself, whatever comes after it. -/
theorem formatFrom_doubled (c : Char) :
    formatFrom values none next (doubled c ++ rest) =
      (formatFrom values none next rest).map (String.singleton c ++ ·) := by
  rw [← append_bind_eq_map]
  by_cases hbrace : c = '\x7b' ∨ c = '\x7d'
  · rcases hbrace with rfl | rfl <;> rfl
  · rw [doubled, if_neg hbrace, List.singleton_append, formatFrom]
    all_goals grind

theorem formatFrom_literal (cs : List Char) :
    formatFrom values none next (cs.flatMap doubled ++ rest) =
      (formatFrom values none next rest).map (String.ofList cs ++ ·) := by
  induction cs with
  | nil => cases h : formatFrom values none next rest <;> simp [h, Except.map]
  | cons c cs ih =>
    rw [List.flatMap_cons, List.append_assoc, formatFrom_doubled, ih]
    cases formatFrom values none next rest with
    | ok s => simp [Except.map, String.ofList_cons, String.append_assoc]
    | error fault => rfl

/-! ## Fields -/

/-- A field goes up to the first closing brace. -/
theorem formatFrom_field {cs : List Char} (h : '\x7d' ∉ cs) (field : List Char) :
    formatFrom values (some field) next (cs ++ '\x7d' :: rest) =
      formatFrom values (some (cs.reverse ++ field)) next ('\x7d' :: rest) := by
  induction cs generalizing field with
  | nil => rfl
  | cons c cs ih =>
    simp only [List.mem_cons, not_or] at h
    have hstep : formatFrom values (some field) next (c :: (cs ++ '\x7d' :: rest)) =
        formatFrom values (some (c :: field)) next (cs ++ '\x7d' :: rest) := by
      rw [formatFrom]
      exact Ne.symm h.1
    rw [List.cons_append, hstep, ih h.2, List.reverse_cons, List.append_assoc,
      List.singleton_append]

theorem not_isDigit_brace {c : Char} (h : c.isDigit = true) : c ≠ '\x7b' ∧ c ≠ '\x7d' := by
  constructor <;>
    · rintro rfl
      cases h

/-- What stands between the braces of a field makes up the operand that it is for. -/
theorem formatFrom_braces {cs : List Char} (h : ∀ c ∈ cs, c.isDigit = true) :
    formatFrom values none next ('\x7b' :: (cs ++ ['\x7d']) ++ rest) =
      (fieldOperand values next cs).bind fun (v, next) =>
        (formatFrom values none next rest).map (v.text ++ ·) := by
  have hopen : ∀ tail, cs ++ '\x7d' :: rest ≠ '\x7b' :: tail := by
    intro tail htail
    cases cs with
    | nil => cases htail
    | cons c cs =>
      rw [List.cons_append, List.cons.injEq] at htail
      exact (not_isDigit_brace (h c List.mem_cons_self)).1 htail.1
  have hclose : '\x7d' ∉ cs := fun hmem => (not_isDigit_brace (h _ hmem)).2 rfl
  have hfield : formatFrom values none next ('\x7b' :: (cs ++ '\x7d' :: rest)) =
      formatFrom values (some []) next (cs ++ '\x7d' :: rest) := by
    rw [formatFrom]
    exact hopen
  rw [List.cons_append, List.append_assoc, List.singleton_append, hfield, formatFrom_field hclose,
    formatFrom, List.append_nil, List.reverse_reverse]
  cases fieldOperand values next cs with
  | error fault => rfl
  | ok operand => exact append_bind_eq_map operand.1.text _

theorem trim_toDigits (n : ℕ) :
    Text.trim (String.ofList (Nat.toDigits 10 n)) = String.ofList (Nat.toDigits 10 n) := by
  refine Text.trim_of_forall fun c hc => ?_
  rw [String.toList_ofList] at hc
  exact Text.isBlank_of_isDigit ((Json.areDigits_toDigits n).isDigit c hc)

/-- The digits of an index are read as it, if it has no more than 64 bits. -/
theorem index?_toDigits (n : ℕ) :
    Literal.index? (String.ofList (Nat.toDigits 10 n)) = if n < 2 ^ 64 then some n else none := by
  rw [Literal.index?, String.toList_ofList]
  split
  · next rest h => cases (Json.areDigits_toDigits n).isDigit '+' (h ▸ List.mem_cons_self)
  · rw [Literal.natural?_toDigits]
    rfl

theorem fieldOperand_nil :
    fieldOperand values next [] =
      match values[next]? with
      | some v => .ok (v, next + 1)
      | none => fail (.noOperandFor next) := by
  rfl

theorem fieldOperand_toDigits (n : ℕ) :
    fieldOperand values next (Nat.toDigits 10 n) =
      if n < 2 ^ 64 then
        match values[n]? with
        | some v => .ok (v, next)
        | none => fail (.noOperandFor n)
      else fail (.unsupportedField (toString n)) := by
  have hne : (Nat.toDigits 10 n).isEmpty = false := by simp
  have htext : String.ofList (Nat.toDigits 10 n) = toString n := by
    rw [← String.toList_inj, String.toList_ofList]
    exact Nat.toList_repr.symm
  rw [fieldOperand, hne, if_neg Bool.false_ne_true, trim_toDigits, index?_toDigits, htext]
  by_cases hn : n < 2 ^ 64
  · rw [if_pos hn, if_pos hn]
    rfl
  · rw [if_neg hn, if_neg hn]
    rfl

/-! ## Pieces -/

/-- A piece gives its text, before what the rest gives. -/
theorem formatFrom_piece (hlength : values.length ≤ 2 ^ 64) (p : Piece) :
    formatFrom values none (before.count .automatic) (p.chars ++ rest) =
      (partText values (part before p)).bind fun s =>
        (formatFrom values none ((before ++ [p]).count .automatic) rest).map (s ++ ·) := by
  cases p with
  | literal s =>
    have hcount : (before ++ [Piece.literal s]).count .automatic = before.count .automatic := by
      simp
    rw [Piece.chars, formatFrom_literal, String.ofList_toList, hcount]
    rfl
  | automatic =>
    have hcount : (before ++ [Piece.automatic]).count .automatic = before.count .automatic + 1 := by
      simp
    rw [hcount]
    refine (formatFrom_braces (List.forall_mem_nil fun c : Char => c.isDigit = true)).trans ?_
    rw [fieldOperand_nil, part, partText]
    dsimp only
    cases values[before.count Piece.automatic]? <;> rfl
  | explicit n =>
    have hcount : (before ++ [Piece.explicit n]).count .automatic = before.count .automatic := by
      simp
    rw [hcount, Piece.chars, formatFrom_braces (Json.areDigits_toDigits n).isDigit,
      fieldOperand_toDigits, part, partText]
    dsimp only
    cases hvalue : values[n]? with
    | some v =>
      have hn : n < 2 ^ 64 := (List.getElem?_eq_some_iff.1 hvalue).1.trans_le hlength
      rw [if_pos hn]
      rfl
    | none => split <;> rfl

/-- Pieces are formatted one after the other. -/
theorem formatFrom_written (hlength : values.length ≤ 2 ^ 64) (before pieces : List Piece) :
    formatFrom values none (before.count .automatic) (pieces.flatMap Piece.chars) =
      outcome values (partsAfter before pieces) := by
  induction pieces generalizing before with
  | nil => rfl
  | cons p pieces ih =>
    rw [List.flatMap_cons, formatFrom_piece hlength, ih, partsAfter, outcome_cons]

/-- A format gives its texts and the texts of the operands that its fields stand for, in order, if
there is an operand for each field; and it fails at the first field that there is none for. There
are at most as many operands as 64 bits count. -/
theorem format_written (pieces : List Piece) {values : List Value}
    (hlength : values.length ≤ 2 ^ 64) :
    calculate "str.format" (.string (written pieces) :: values) =
      match (fields (partsAfter [] pieces)).find? (values.length ≤ ·.index) with
      | none => .ok (.string (filled values (partsAfter [] pieces)))
      | some f => .error (.calculation "str.format" f.fault) := by
  have hformat : formatFrom values none 0 (written pieces).toList =
      outcome values (partsAfter [] pieces) := by
    rw [written, String.toList_ofList]
    exact formatFrom_written hlength [] pieces
  show (format (.string (written pieces) :: values)).mapError (named "str.format") = _
  have hoperands : format (.string (written pieces) :: values) =
      (formatFrom values none 0 (written pieces).toList).map .string := by
    show (formatFrom values none 0 (written pieces).toList >>= fun s => pure (Value.string s)) = _
    cases formatFrom values none 0 (written pieces).toList <;> rfl
  rw [hoperands, hformat, outcome]
  cases (fields (partsAfter [] pieces)).find? (values.length ≤ ·.index) <;> rfl

/-- Texts with braces around fields of both kinds, for operands that have braces themselves. -/
def bracedPieces : List Piece :=
  [.literal "\x7b", .automatic, .literal "\x7d", .explicit 0, .literal "\x7bx\x7d", .automatic]

theorem format_written_braced :
    [Value.string "\x7b0\x7d", .bool true].length ≤ 2 ^ 64 ∧
    written bracedPieces = "\x7b\x7b\x7b\x7d\x7d\x7d\x7b0\x7d\x7b\x7bx\x7d\x7d\x7b\x7d" ∧
    calculate "str.format" [.string (written bracedPieces), .string "\x7b0\x7d", .bool true] =
      .ok (.string "\x7b\x7b0\x7d\x7d\x7b0\x7d\x7bx\x7dtrue") ∧
    calculate "str.format" [.string (written bracedPieces), .string "\x7b0\x7d"] =
      .error (.calculation "str.format" (.noOperandFor 1)) := by
  have hboth : [Value.string "\x7b0\x7d", .bool true].length ≤ 2 ^ 64 := by norm_num
  have hone : [Value.string "\x7b0\x7d"].length ≤ 2 ^ 64 := by norm_num
  exact ⟨hboth, by decide, format_written bracedPieces hboth, format_written bracedPieces hone⟩

end CardPress.Calc.Formatting
