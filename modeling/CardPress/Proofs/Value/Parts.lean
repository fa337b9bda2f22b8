import CardPress.Proofs.Dict
import CardPress.Value
import Mathlib.Data.List.Basic

/-!
# Parts of values

A value holds the items of a sequence or the values of a mapping, and these may hold others. What is
proved of every value from what it holds is true of all values.

## Main definitions

* `Value.Occurs` — a value is part of another.
* `Value.contents` — what a value holds directly.
* `Value.Throughout` — something is true of a value and all its parts.
* `Value.Ordered` — a value with mappings in key order, which is what values are that are made by
  adding fields.

## Main result

* `Value.contents_induction` — induction from what values hold to the values themselves.
-/

namespace CardPress.Value

/-- A value is another one or a part of it. -/
inductive Occurs (v : Value) : Value → Prop where
  | self : Occurs v v
  | item {items : List Value} {x : Value} (h : x ∈ items) (part : Occurs v x) :
      Occurs v (.sequence items)
  | field {fields : Mapping} {e : String × Value} (h : e ∈ fields.entries)
      (part : Occurs v e.2) : Occurs v (.mapping fields)

/-- The values that a value holds, without the parts of these. -/
def contents : Value → List Value
  | .sequence items => items
  | .mapping fields => fields.entries.map (·.2)
  | .null | .bool _ | .number _ | .string _ | .image _ | .font _ => []

variable {p : Value → Prop} {v w x : Value}

/-- Parts of a value are that value itself and the parts of what it holds. -/
theorem occurs_iff : v.Occurs w ↔ v = w ∨ ∃ x ∈ w.contents, v.Occurs x := by
  constructor
  · intro h
    cases h with
    | self => exact .inl rfl
    | item hx hpart => exact .inr ⟨_, hx, hpart⟩
    | field he hpart => exact .inr ⟨_, List.mem_map_of_mem he, hpart⟩
  · rintro (rfl | ⟨x, hx, hpart⟩)
    · exact .self
    · cases w with
      | sequence items => exact .item hx hpart
      | mapping fields =>
        obtain ⟨e, he, rfl⟩ := List.mem_map.1 hx
        exact .field he hpart
      | _ => cases hx

/-- What is true of a value whenever it is true of all that the value holds is true of all
values. -/
@[elab_as_elim]
theorem contents_induction {motive : Value → Prop}
    (holding : ∀ v, (∀ x ∈ v.contents, motive x) → motive v) (v : Value) : motive v :=
  @Value.rec motive (fun items => ∀ x ∈ items, motive x)
    (fun fields => ∀ e ∈ fields.entries, motive e.2) (fun entries => ∀ e ∈ entries, motive e.2)
    (fun e => motive e.2)
    (holding .null (by simp [contents])) (fun b => holding (.bool b) (by simp [contents]))
    (fun x => holding (.number x) (by simp [contents]))
    (fun s => holding (.string s) (by simp [contents]))
    (fun items h => holding (.sequence items) h)
    (fun fields h => holding (.mapping fields) (List.forall_mem_map.2 h))
    (fun i => holding (.image i) (by simp [contents]))
    (fun f => holding (.font f) (by simp [contents]))
    (by simp) (fun _ _ hhead htail => List.forall_mem_cons.2 ⟨hhead, htail⟩) (fun _ h => h)
    (by simp) (fun _ _ hhead htail => List.forall_mem_cons.2 ⟨hhead, htail⟩) (fun _ _ h => h) v

/-- A value and all its parts are such. -/
def Throughout (p : Value → Prop) (v : Value) : Prop :=
  ∀ part, part.Occurs v → p part

namespace Throughout

theorem self (h : v.Throughout p) : p v :=
  h v .self

theorem of_mem_contents (h : v.Throughout p) (hx : x ∈ v.contents) : x.Throughout p :=
  fun part hpart => h part (occurs_iff.2 (.inr ⟨x, hx, hpart⟩))

end Throughout

/-- A value is such throughout if it is such itself and so is all that it holds. -/
theorem throughout_iff : v.Throughout p ↔ p v ∧ ∀ x ∈ v.contents, x.Throughout p := by
  refine ⟨fun h => ⟨h.self, fun x hx => h.of_mem_contents hx⟩, ?_⟩
  rintro ⟨hself, hcontents⟩ part hpart
  rcases occurs_iff.1 hpart with rfl | ⟨x, hx, hpart⟩
  · exact hself
  · exact hcontents x hx part hpart

@[simp] theorem throughout_sequence {items : List Value} :
    (sequence items).Throughout p ↔ p (.sequence items) ∧ ∀ x ∈ items, x.Throughout p :=
  throughout_iff

@[simp] theorem throughout_mapping {fields : Mapping} :
    (mapping fields).Throughout p ↔
      p (.mapping fields) ∧ ∀ e ∈ fields.entries, e.2.Throughout p := by
  rw [throughout_iff, contents, List.forall_mem_map]

/-- A value that holds nothing is its only part. -/
theorem throughout_of_atom (h : v.contents = []) (hv : p v) : v.Throughout p :=
  throughout_iff.2 ⟨hv, by simp [h]⟩

/-! ## Values in key order -/

/-- Anything but a mapping whose fields are out of order. -/
def InKeyOrder : Value → Prop
  | .mapping fields => fields.Sorted
  | _ => True

/-- A value whose mappings have their fields in key order, at every level. -/
structure Ordered where
  value : Value
  inKeyOrder : value.Throughout InKeyOrder

namespace Ordered

def number (x : Float) : Ordered :=
  ⟨.number x, throughout_of_atom rfl trivial⟩

def string (s : String) : Ordered :=
  ⟨.string s, throughout_of_atom rfl trivial⟩

def sequence (items : List Ordered) : Ordered where
  value := .sequence (items.map (·.value))
  inKeyOrder := by
    refine throughout_sequence.2 ⟨trivial, List.forall_mem_map.2 fun v _ => v.inKeyOrder⟩

/-- Fields are added in turn. -/
def mapping (fields : List (String × Ordered)) : Ordered where
  value := .mapping (Dict.ofList (fields.map fun e => (e.1, e.2.value)))
  inKeyOrder := by
    refine throughout_mapping.2 ⟨Dict.sorted_ofList _, fun e he => ?_⟩
    obtain ⟨f, -, rfl⟩ := List.mem_map.1 (Dict.mem_entries_ofList he)
    exact f.2.inKeyOrder

/-- Fields that are in order stay where they are. -/
theorem value_mapping {fields : List (String × Ordered)} (h : fields.Pairwise (·.1 < ·.1)) :
    (mapping fields).value = .mapping ⟨fields.map fun e => (e.1, e.2.value)⟩ :=
  congrArg Value.mapping (Dict.ofList_entries (List.Pairwise.map _ (fun _ _ => id) h))

/-- What a value in key order holds is in key order. -/
def part (v : Ordered) {x : Value} (hx : x ∈ v.value.contents) : Ordered :=
  ⟨x, v.inKeyOrder.of_mem_contents hx⟩

/-- What is true of a value in key order whenever it is true of all that the value holds is true of
all such values. -/
@[elab_as_elim]
theorem induction {motive : Ordered → Prop}
    (holding : ∀ v : Ordered, (∀ x (hx : x ∈ v.value.contents), motive (v.part hx)) → motive v)
    (v : Ordered) : motive v := by
  obtain ⟨v, hv⟩ := v
  induction v using contents_induction with
  | holding v ih => exact holding ⟨v, hv⟩ fun x hx => ih x hx _

end Ordered

end CardPress.Value
