import CardPress.Proofs.Value.Comparing
import CardPress.Proofs.Value.Equality

/-!
# The comparing operations

The four operations that order values answer for the same operands, whichever comes first. Where
they answer, they agree with equality: just one of less, equal and greater is true, and the other
answers follow from these. An order that stops at the first difference and an equality that looks at
everything agree, because values that compare as equal have been looked at to the end.

## Main definitions

* `Calc.Answers` — an operation says that something is so of two values, or that it is not.
* `Calc.Compared` — the answers of all six operations.

## Main results

* `Value.alike_eq_of_compare?` — values that compare are equal if they compare as equal.
* `Calc.comparing_laws` — what the answers have to do with each other.
-/

namespace CardPress

theorem Double.equal_eq_of_compare? {x y : Float} {o : Ordering} (h : compare? x y = some o) :
    equal x y = (o == .eq) := by
  obtain ⟨a, b, hx, hy, rfl⟩ := compare?_eq_some_iff.1 h
  rw [Bool.eq_iff_iff, equal_byKey, beq_iff_eq, Std.compare_eq_iff_eq]
  simp [hx, hy, eq_comm]

namespace Value

mutual

/-- Values that compare are equal if they compare as equal, and only then. -/
theorem alike_eq_of_compare? {a b : Value} {o : Ordering} (h : compare? a b = some o) :
    alike a b = (o == .eq) := by
  rw [compare?_eq_some_iff] at h
  rcases h with ⟨x, y, rfl, rfl, rfl⟩ | ⟨xs, ys, rfl, rfl, h⟩ | ⟨x, y, ha, hb, h⟩
  · rw [Bool.eq_iff_iff, beq_iff_eq, Std.compare_eq_iff_eq]
    exact beq_iff_eq
  · exact equalItemsBy_eq_of_compareItems? h
  · rw [← Double.equal_eq_of_compare? h, alike, equalBy.eq_def, ha, hb]

theorem equalItemsBy_eq_of_compareItems? {xs ys : List Value} {o : Ordering}
    (h : compareItems? xs ys = some o) : equalItemsBy number? xs ys = (o == .eq) := by
  match xs, ys with
  | [], [] | [], _ :: _ | _ :: _, [] =>
    cases h
    rfl
  | x :: xs, y :: ys =>
    rw [equalItemsBy]
    rcases compareItems?_cons_eq_some_iff.1 h with ⟨hx, h⟩ | ⟨hne, hx⟩
    · have hhead : equalBy number? x y = true := alike_eq_of_compare? hx
      rw [hhead, Bool.true_and, equalItemsBy_eq_of_compareItems? h]
    · have hhead : equalBy number? x y = (o == .eq) := alike_eq_of_compare? hx
      rw [hhead, beq_eq_false_iff_ne.2 hne, Bool.false_and]

end

end Value

namespace Calc

/-- An operation of two operands finds them to be so or not. -/
def Answers (name : String) (a b : Value) (answer : Bool) : Prop :=
  calculate name [a, b] = .ok (.bool answer)

/-- What the operations that compare say of two values of which the first is less, equal or
greater. -/
structure Compared (a b : Value) (less equal greater : Bool) : Prop where
  lt : Answers "lt" a b less
  eq : Answers "eq" a b equal
  gt : Answers "gt" a b greater
  le : Answers "le" a b (less || equal)
  ge : Answers "ge" a b (greater || equal)
  ne : Answers "ne" a b !equal

variable {a b c : Value} {name : String} {accept : Ordering → Bool}

theorem calculate_of_ordered (h : operation? name = some (ordered accept)) (a b : Value) :
    calculate name [a, b] =
      match Value.compare? a b with
      | some o => .ok (.bool (accept o))
      | none => .error (.calculation name (.cannotOrder a.kind b.kind)) := by
  have hordered : ordered accept [a, b] =
      match Value.compare? a b with
      | some o => .ok (.bool (accept o))
      | none => fail (.cannotOrder a.kind b.kind) := rfl
  rw [calculate, h]
  dsimp only
  rw [hordered]
  cases Value.compare? a b <;> rfl

theorem answers_iff (h : operation? name = some (ordered accept)) {answer : Bool} :
    Answers name a b answer ↔ ∃ o, Value.compare? a b = some o ∧ accept o = answer := by
  rw [Answers, calculate_of_ordered h]
  cases Value.compare? a b <;> simp

theorem operation?_lt : operation? "lt" = some (ordered (·.isLT)) := rfl

theorem operation?_le : operation? "le" = some (ordered (·.isLE)) := rfl

theorem operation?_gt : operation? "gt" = some (ordered (·.isGT)) := rfl

theorem operation?_ge : operation? "ge" = some (ordered (·.isGE)) := rfl

/-- The answers for values that compare. -/
theorem compared_of_compare? {o : Ordering} (h : Value.compare? a b = some o) :
    Compared a b (o == .lt) (o == .eq) (o == .gt) where
  lt := (answers_iff operation?_lt).2 ⟨o, h, by cases o <;> rfl⟩
  eq := by
    rw [← Value.alike_eq_of_compare? h]
    rfl
  gt := (answers_iff operation?_gt).2 ⟨o, h, by cases o <;> rfl⟩
  le := (answers_iff operation?_le).2 ⟨o, h, by cases o <;> rfl⟩
  ge := (answers_iff operation?_ge).2 ⟨o, h, by cases o <;> rfl⟩
  ne := by
    rw [← Value.alike_eq_of_compare? h]
    rfl

/-- Values that do not compare are a fault of each operation that orders them. -/
theorem calculate_of_compare?_eq_none (h : Value.compare? a b = none)
    (hname : name ∈ ["lt", "le", "gt", "ge"]) :
    calculate name [a, b] = .error (.calculation name (.cannotOrder a.kind b.kind)) := by
  have hfault {accept : Ordering → Bool} (hop : operation? name = some (ordered accept)) :
      calculate name [a, b] = .error (.calculation name (.cannotOrder a.kind b.kind)) := by
    rw [calculate_of_ordered hop, h]
  simp only [List.mem_cons, List.not_mem_nil, or_false] at hname
  rcases hname with rfl | rfl | rfl | rfl
  · exact hfault operation?_lt
  · exact hfault operation?_le
  · exact hfault operation?_gt
  · exact hfault operation?_ge

/-- Two values either compare, whichever comes first, or they are a fault of all that orders values.
If they compare, just one of less, equal and greater is true, which the other answers follow from,
and the opposite the other way round. What is less than something less is less. -/
theorem comparing_laws :
    (∀ a b : Value,
      (∃ less equal greater : Bool, [less, equal, greater].count true = 1 ∧
        Compared a b less equal greater ∧ Compared b a greater equal less) ∨
      ∀ name ∈ ["lt", "le", "gt", "ge"],
        calculate name [a, b] = .error (.calculation name (.cannotOrder a.kind b.kind)) ∧
        calculate name [b, a] = .error (.calculation name (.cannotOrder b.kind a.kind))) ∧
    ∀ a b c : Value, Answers "lt" a b true → Answers "lt" b c true → Answers "lt" a c true := by
  refine ⟨fun a b => ?_, fun a b c hab hbc => ?_⟩
  · have hswap := Value.compare?_swap a b
    cases h : Value.compare? a b with
    | some o =>
      rw [h, Option.map_some] at hswap
      refine .inl ⟨o == .lt, o == .eq, o == .gt, by cases o <;> rfl, compared_of_compare? h, ?_⟩
      have hopposite := compared_of_compare? hswap
      cases o <;> exact hopposite
    | none =>
      rw [h, Option.map_none] at hswap
      exact .inr fun name hname =>
        ⟨calculate_of_compare?_eq_none h hname, calculate_of_compare?_eq_none hswap hname⟩
  · obtain ⟨o, hab, ho⟩ := (answers_iff operation?_lt).1 hab
    obtain ⟨p, hbc, hp⟩ := (answers_iff operation?_lt).1 hbc
    cases o <;> cases ho
    cases p <;> cases hp
    exact (answers_iff operation?_lt).2 ⟨_, Value.compare?_trans hab hbc rfl rfl, rfl⟩

/-- Three lists in ascending order: the first two differ in what follows a zero. -/
def lowList : Value := .sequence [.bool false, .sequence [.string "a"]]

def middleList : Value := .sequence [.number 0.0, .sequence [.string "b"]]

def highList : Value := .sequence [.bool true, .null]

theorem comparing_laws_lists :
    (Answers "lt" lowList middleList true ∧ Answers "lt" middleList highList true ∧
      Answers "lt" lowList highList true) ∧
    (∃ less equal greater : Bool, [less, equal, greater].count true = 1 ∧
      Compared lowList middleList less equal greater ∧
      Compared middleList lowList greater equal less) ∧
    "ge" ∈ ["lt", "le", "gt", "ge"] ∧
      calculate "ge" [highList, highList] =
        .error (.calculation "ge" (.cannotOrder .sequence .sequence)) := by
  obtain ⟨hcases, htrans⟩ := comparing_laws
  have hlow : Answers "lt" lowList middleList true :=
    (answers_iff operation?_lt).2 ⟨.lt, by decide, rfl⟩
  have hmiddle : Answers "lt" middleList highList true :=
    (answers_iff operation?_lt).2 ⟨.lt, by decide, rfl⟩
  have hnull : Value.compare? highList highList = none := by decide
  refine ⟨⟨hlow, hmiddle, htrans _ _ _ hlow hmiddle⟩, ?_, by decide, ?_⟩
  · refine (hcases lowList middleList).resolve_right fun h => ?_
    cases (h "lt" (by decide)).1.symm.trans hlow
  · refine ((hcases highList highList).resolve_left ?_ "ge" (by decide)).1
    rintro ⟨less, equal, greater, -, h, -⟩
    obtain ⟨o, ho, -⟩ := (answers_iff operation?_lt).1 h.lt
    cases hnull.symm.trans ho

end Calc

end CardPress
