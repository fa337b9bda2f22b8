import CardPress.Calc
import CardPress.Proofs.Dict
import CardPress.Proofs.Value.Parts
import Mathlib

/-!
# Laws of equality

The two equalities of values are one function of how values read as numbers. Whatever that is,
equality is symmetric and transitive, since equality of doubles is; and it is reflexive where there
is no NaN. The equality that keeps booleans apart from numbers implies the other one, and nothing
but booleans makes a difference between them.

## Main definitions

* `ByKey` — how doubles and singles are equal.
* `Value.SameShape` — values of one kind, with related contents.
* `Value.looseBy` — one level of the looser equality as it is computed.

## Main results

* `Value.equalBy_induction` — induction on equal values.
* `Value.alike_mapping_iff` — equality of mappings, by looking keys up.
* `Value.alike_eq_looseBy` — the looser equality, level by level.
* `Value.equality_laws` — the laws of both equalities.
-/

namespace CardPress

/-! ## Numbers -/

/-- An equality by keys, in which nothing equals what has no key. -/
def ByKey {α : Type} (key? : α → Option ℤ) (equal : α → α → Bool) : Prop :=
  ∀ x y, equal x y = true ↔ ∃ k, key? x = some k ∧ key? y = some k

namespace ByKey

variable {α : Type} {key? : α → Option ℤ} {equal : α → α → Bool} {x y z : α}

theorem of_match (key? : α → Option ℤ) : ByKey key? fun x y =>
    match key? x, key? y with
    | some a, some b => a == b
    | _, _ => false := by
  intro x y
  dsimp only
  cases key? x with
  | none => simp
  | some k => cases key? y <;> simp [@eq_comm _ k]

theorem symm (h : ByKey key? equal) (hxy : equal x y = true) : equal y x = true := by
  obtain ⟨k, hx, hy⟩ := (h x y).1 hxy
  exact (h y x).2 ⟨k, hy, hx⟩

theorem trans (h : ByKey key? equal) (hxy : equal x y = true) (hyz : equal y z = true) :
    equal x z = true := by
  obtain ⟨k, hx, hy⟩ := (h x y).1 hxy
  obtain ⟨l, hy', hz⟩ := (h y z).1 hyz
  cases hy.symm.trans hy'
  exact (h x z).2 ⟨k, hx, hz⟩

theorem self (h : ByKey key? equal) {k : ℤ} (hx : key? x = some k) : equal x x = true :=
  (h x x).2 ⟨k, hx, hx⟩

end ByKey

namespace Double

variable {x y : Float}

theorem equal_byKey : ByKey key? equal :=
  .of_match key?

theorem equal_self (h : isNaN x = false) : equal x x = true :=
  equal_byKey.self (by rw [key?, h, if_neg Bool.false_ne_true])

/-- Equal doubles differ in their sign at most. -/
theorem magnitude_eq_of_equal (h : equal x y = true) : magnitude x = magnitude y := by
  obtain ⟨k, hx, hy⟩ := (equal_byKey x y).1 h
  have magnitude_of_key : ∀ {z}, key? z = some k → magnitude z = k.natAbs := by
    intro z hz
    rw [key?] at hz
    split at hz
    · cases hz
    · obtain rfl := Option.some.inj hz
      split <;> simp
  rw [magnitude_of_key hx, magnitude_of_key hy]

end Double

namespace Single

theorem equal_byKey : ByKey key? equal :=
  .of_match key?

theorem equal_self {x : Float32} (h : isNaN x = false) : equal x x = true :=
  equal_byKey.self (by rw [key?, h, if_neg Bool.false_ne_true])

end Single

namespace Value

variable {numeric : Value → Option Float} {R S T : Value → Value → Prop} {a b c v : Value}

/-! ## One level of equality -/

/-- Values of one kind other than numbers: the same one, or containers that hold related values in
the same places. -/
inductive SameShape (R : Value → Value → Prop) : Value → Value → Prop
  | null : SameShape R .null .null
  | bool (b : Bool) : SameShape R (.bool b) (.bool b)
  | string (s : String) : SameShape R (.string s) (.string s)
  | sequence {xs ys : List Value} (h : List.Forall₂ R xs ys) :
      SameShape R (.sequence xs) (.sequence ys)
  | mapping {xs ys : Mapping}
      (h : List.Forall₂ (fun e f => e.1 = f.1 ∧ R e.2 f.2) xs.entries ys.entries) :
      SameShape R (.mapping xs) (.mapping ys)
  | image {x y : Image} (h : x.stamp = y.stamp) : SameShape R (.image x) (.image y)
  | font {x y : Font} (hstamp : x.stamp = y.stamp) (hsize : Single.equal x.size y.size = true) :
      SameShape R (.font x) (.font y)

theorem forall₂_trans {α : Type} {P Q U : α → α → Prop} (h : ∀ x y z, P x y → Q y z → U x z)
    {xs ys zs : List α} (hxy : List.Forall₂ P xs ys) (hyz : List.Forall₂ Q ys zs) :
    List.Forall₂ U xs zs := by
  induction hxy generalizing zs with
  | nil =>
    cases hyz
    exact .nil
  | cons hhead _ ih =>
    cases hyz with
    | cons hhead' htail => exact .cons (h _ _ _ hhead hhead') (ih htail)

theorem forall₂_and_mem {α : Type} {P : α → α → Prop} {xs ys : List α} (h : List.Forall₂ P xs ys) :
    List.Forall₂ (fun x y => P x y ∧ x ∈ xs ∧ y ∈ ys) xs ys := by
  induction h with
  | nil => exact .nil
  | cons hhead _ ih =>
    refine .cons ⟨hhead, List.mem_cons_self, List.mem_cons_self⟩ (ih.imp fun x y hxy => ?_)
    exact ⟨hxy.1, List.mem_cons_of_mem _ hxy.2.1, List.mem_cons_of_mem _ hxy.2.2⟩

namespace SameShape

theorem symm (h : SameShape R a b) (hR : ∀ x y, R x y → S y x) : SameShape S b a := by
  cases h with
  | null => exact .null
  | bool b => exact .bool b
  | string s => exact .string s
  | sequence h => exact .sequence (h.imp hR).flip
  | mapping h => exact .mapping (h.imp fun e f hef => ⟨hef.1.symm, hR _ _ hef.2⟩).flip
  | image h => exact .image h.symm
  | font hstamp hsize => exact .font hstamp.symm (Single.equal_byKey.symm hsize)

theorem trans (hab : SameShape R a b) (hbc : SameShape S b c)
    (hRS : ∀ x y z, R x y → S y z → T x z) : SameShape T a c := by
  cases hab with
  | null =>
    cases hbc
    exact .null
  | bool b =>
    cases hbc
    exact .bool b
  | string s =>
    cases hbc
    exact .string s
  | sequence h =>
    cases hbc with
    | sequence h' => exact .sequence (forall₂_trans hRS h h')
  | mapping h =>
    cases hbc with
    | mapping h' =>
      refine .mapping (forall₂_trans (fun e f g hef hfg => ?_) h h')
      exact ⟨hef.1.trans hfg.1, hRS _ _ _ hef.2 hfg.2⟩
  | image h =>
    cases hbc with
    | image h' => exact .image (h.trans h')
  | font hstamp hsize =>
    cases hbc with
    | font hstamp' hsize' =>
      exact .font (hstamp.trans hstamp') (Single.equal_byKey.trans hsize hsize')

/-- Only how the contents are related counts. -/
theorem mono (h : SameShape R a b) (hR : ∀ x ∈ a.contents, ∀ y ∈ b.contents, R x y → S x y) :
    SameShape S a b := by
  cases h with
  | null => exact .null
  | bool b => exact .bool b
  | string s => exact .string s
  | sequence h =>
    refine .sequence ((forall₂_and_mem h).imp fun x y hxy => ?_)
    exact hR x hxy.2.1 y hxy.2.2 hxy.1
  | mapping h =>
    refine .mapping ((forall₂_and_mem h).imp fun e f hef => ⟨hef.1.1, ?_⟩)
    exact hR _ (List.mem_map_of_mem hef.2.1) _ (List.mem_map_of_mem hef.2.2) hef.1.2
  | image h => exact .image h
  | font hstamp hsize => exact .font hstamp hsize

end SameShape

/-! ## Equality at all levels -/

theorem equalItemsBy_iff_forall₂ {xs ys : List Value} :
    equalItemsBy numeric xs ys = true ↔
      List.Forall₂ (fun x y => equalBy numeric x y = true) xs ys := by
  induction xs generalizing ys with
  | nil => cases ys <;> simp [equalItemsBy]
  | cons x xs ih => cases ys <;> simp [equalItemsBy, ih]

theorem equalEntriesBy_iff_forall₂ {xs ys : List (String × Value)} :
    equalEntriesBy numeric xs ys = true ↔
      List.Forall₂ (fun e f => e.1 = f.1 ∧ equalBy numeric e.2 f.2 = true) xs ys := by
  induction xs generalizing ys with
  | nil => cases ys <;> simp [equalEntriesBy]
  | cons e xs ih => cases ys <;> simp [equalEntriesBy, ih]

/-- Values are equal if they read as equal numbers, or if neither reads as a number and they have
one shape with equal contents. -/
theorem equalBy_iff : equalBy numeric a b = true ↔
    (∃ x y, numeric a = some x ∧ numeric b = some y ∧ Double.equal x y = true) ∨
      numeric a = none ∧ numeric b = none ∧
        SameShape (fun x y => equalBy numeric x y = true) a b := by
  rw [equalBy.eq_def]
  cases ha : numeric a with
  | some x => cases hb : numeric b <;> simp
  | none =>
    cases hb : numeric b with
    | some y => simp
    | none =>
      constructor
      · intro h
        refine .inr ⟨rfl, rfl, ?_⟩
        dsimp only at h
        split at h
        · exact .null
        · exact beq_iff_eq.1 h ▸ .bool _
        · exact beq_iff_eq.1 h ▸ .string _
        · exact .sequence (equalItemsBy_iff_forall₂.1 h)
        · exact .mapping (equalEntriesBy_iff_forall₂.1 h)
        · exact .image (beq_iff_eq.1 h)
        · rw [Bool.and_eq_true, beq_iff_eq] at h
          exact .font h.1 h.2
        · cases h
      · rintro (⟨x, y, h, -⟩ | ⟨-, -, h⟩)
        · cases h
        cases h with
        | null => rfl
        | bool b => exact beq_self_eq_true b
        | string s => exact beq_self_eq_true s
        | sequence h => exact equalItemsBy_iff_forall₂.2 h
        | mapping h => exact equalEntriesBy_iff_forall₂.2 h
        | image h => exact beq_iff_eq.2 h
        | font hstamp hsize => exact Bool.and_eq_true_iff.2 ⟨beq_iff_eq.2 hstamp, hsize⟩

/-- What holds of values that read as equal numbers, and of values of one shape if it holds of their
contents, holds of all equal values. -/
@[elab_as_elim]
theorem equalBy_induction {motive : ∀ a b, equalBy numeric a b = true → Prop}
    (number : ∀ a b x y, numeric a = some x → numeric b = some y → Double.equal x y = true →
      ∀ h, motive a b h)
    (shape : ∀ a b, numeric a = none → numeric b = none →
      SameShape (fun x y => ∃ h, motive x y h) a b → ∀ h, motive a b h)
    {a b : Value} (h : equalBy numeric a b = true) : motive a b h := by
  induction a using contents_induction generalizing b with
  | holding a ih =>
    rcases equalBy_iff.1 h with ⟨x, y, ha, hb, hxy⟩ | ⟨ha, hb, hshape⟩
    · exact number a b x y ha hb hxy h
    · exact shape a b ha hb (hshape.mono fun x hx y _ hxy => ⟨hxy, ih x hx hxy⟩) h

theorem equalBy_symm (h : equalBy numeric a b = true) : equalBy numeric b a = true := by
  induction h using equalBy_induction with
  | number a b x y ha hb h => exact equalBy_iff.2 (.inl ⟨y, x, hb, ha, Double.equal_byKey.symm h⟩)
  | shape a b ha hb h =>
    exact equalBy_iff.2 (.inr ⟨hb, ha, h.symm fun _ _ hxy => hxy.choose_spec⟩)

theorem equalBy_trans (hab : equalBy numeric a b = true) (hbc : equalBy numeric b c = true) :
    equalBy numeric a c = true := by
  induction hab using equalBy_induction generalizing c with
  | number a b x y ha hb h =>
    rcases equalBy_iff.1 hbc with ⟨y', z, hb', hc, h'⟩ | ⟨hb', -, -⟩
    · cases hb.symm.trans hb'
      exact equalBy_iff.2 (.inl ⟨x, z, ha, hc, Double.equal_byKey.trans h h'⟩)
    · cases hb.symm.trans hb'
  | shape a b ha hb h =>
    rcases equalBy_iff.1 hbc with ⟨y', z, hb', -, -⟩ | ⟨-, hc, h'⟩
    · cases hb.symm.trans hb'
    · refine equalBy_iff.2 (.inr ⟨ha, hc, h.trans h' fun x y z hxy hyz => ?_⟩)
      exact hxy.choose_spec hyz

/-! ## Mappings -/

/-- Mappings are equal if there are as many keys in one as in the other, and each key of the one is
in the other with an equal value. -/
theorem alike_mapping_iff {xs ys : Mapping} (hx : xs.Sorted) (hy : ys.Sorted) :
    alike (.mapping xs) (.mapping ys) = true ↔
      xs.size = ys.size ∧
        ∀ k x, xs.get? k = some x → ∃ y, ys.get? k = some y ∧ alike x y = true := by
  rw [← Dict.forall₂_entries_iff hx hy]
  exact equalEntriesBy_iff_forall₂

/-! ## The two equalities -/

/-- One level of the looser equality as it is computed: numbers and booleans by value, sequences by
length and then item by item, mappings by size and then by looking up each key of one in the other,
and all else by the stricter equality. -/
def looseBy (equal : Value → Value → Bool) (a b : Value) : Bool :=
  match a, b with
  | .sequence xs, .sequence ys =>
    xs.length == ys.length && (xs.zip ys).all fun (x, y) => equal x y
  | .mapping xs, .mapping ys =>
    xs.size == ys.size && xs.entries.all fun (k, x) => (ys.get? k).any (equal x)
  | a, b =>
    match a.number?, b.number? with
    | some x, some y => Double.equal x y
    | _, _ => identical a b

theorem alike_sequence (xs ys : List Value) :
    alike (.sequence xs) (.sequence ys) = looseBy alike (.sequence xs) (.sequence ys) := by
  rw [Bool.eq_iff_iff, looseBy, Bool.and_eq_true, beq_iff_eq, List.all_eq_true]
  refine equalItemsBy_iff_forall₂.trans ?_
  rw [List.forall₂_iff_zip]
  exact and_congr_right fun _ => ⟨fun h e he => h he, fun h x y hxy => h (x, y) hxy⟩

theorem alike_mapping {xs ys : Mapping} (hx : xs.Sorted) (hy : ys.Sorted) :
    alike (.mapping xs) (.mapping ys) = looseBy alike (.mapping xs) (.mapping ys) := by
  rw [Bool.eq_iff_iff, alike_mapping_iff hx hy, looseBy, Bool.and_eq_true, beq_iff_eq,
    List.all_eq_true]
  refine and_congr_right fun _ => ?_
  simp only [Option.any_eq_true, Dict.get?_eq_some_iff hx, Prod.forall]

/-- On values in key order the looser equality is what is computed level by level. -/
theorem alike_eq_looseBy (a b : Ordered) :
    alike a.value b.value = looseBy alike a.value b.value := by
  obtain ⟨a, ha⟩ := a
  obtain ⟨b, hb⟩ := b
  dsimp only
  cases a with
  | sequence xs =>
    cases b with
    | sequence ys => exact alike_sequence xs ys
    | _ => rfl
  | mapping xs =>
    cases b with
    | mapping ys => exact alike_mapping ha.self hb.self
    | _ => rfl
  | _ => cases b <;> rfl

def IsBool : Value → Prop
  | .bool _ => True
  | _ => False

/-- A number that is none, or a font of such a size. -/
def IsNaN : Value → Prop
  | .number x => Double.isNaN x = true
  | .font f => Single.isNaN f.size = true
  | _ => False

/-- Both ways to read values as numbers differ in booleans alone. -/
theorem number?_eq_numberOnly? (h : ¬ v.IsBool) : v.number? = v.numberOnly? := by
  cases v <;> first | rfl | exact absurd trivial h

/-- Without a NaN in it, a value equals itself. -/
theorem identical_self (h : v.Throughout (¬ ·.IsNaN)) : identical v v = true := by
  induction v using contents_induction with
  | holding v ih =>
    have hcontents : ∀ x ∈ v.contents, equalBy numberOnly? x x = true :=
      fun x hx => ih x hx (h.of_mem_contents hx)
    have hself := h.self
    refine equalBy_iff.2 ?_
    cases v with
    | number x => exact .inl ⟨x, x, rfl, rfl, Double.equal_self (by simpa [IsNaN] using hself)⟩
    | null => exact .inr ⟨rfl, rfl, .null⟩
    | bool b => exact .inr ⟨rfl, rfl, .bool b⟩
    | string s => exact .inr ⟨rfl, rfl, .string s⟩
    | sequence items => exact .inr ⟨rfl, rfl, .sequence (List.forall₂_same.2 hcontents)⟩
    | mapping fields =>
      refine .inr ⟨rfl, rfl, .mapping (List.forall₂_same.2 fun e he => ⟨rfl, ?_⟩)⟩
      exact hcontents e.2 (List.mem_map_of_mem he)
    | image i => exact .inr ⟨rfl, rfl, .image rfl⟩
    | font f => exact .inr ⟨rfl, rfl, .font rfl (Single.equal_self (by simpa [IsNaN] using hself))⟩

theorem alike_bool (b : Bool) : alike (.bool b) (.bool b) = true :=
  equalBy_iff.2 (.inl ⟨_, _, rfl, rfl, Double.equal_self (by cases b <;> decide)⟩)

/-- The stricter equality implies the other. -/
theorem alike_of_identical (h : identical a b = true) : alike a b = true := by
  induction h using equalBy_induction with
  | number a b x y ha hb h =>
    cases a <;> cases ha
    cases b <;> cases hb
    exact equalBy_iff.2 (.inl ⟨x, y, rfl, rfl, h⟩)
  | shape a b ha hb h =>
    by_cases hbool : a.IsBool
    · cases h with
      | bool b => exact alike_bool b
      | _ => cases hbool
    · have hother : ¬ b.IsBool := by cases h <;> exact hbool
      rw [← number?_eq_numberOnly? hbool] at ha
      rw [← number?_eq_numberOnly? hother] at hb
      exact equalBy_iff.2 (.inr ⟨ha, hb, h.mono fun x _ y _ hxy => hxy.choose_spec⟩)

/-- Without booleans, the other equality implies the stricter one. -/
theorem identical_of_alike (h : alike a b = true) (ha : a.Throughout (¬ ·.IsBool))
    (hb : b.Throughout (¬ ·.IsBool)) : identical a b = true := by
  induction h using equalBy_induction with
  | number a b x y hax hby h =>
    rw [number?_eq_numberOnly? ha.self] at hax
    rw [number?_eq_numberOnly? hb.self] at hby
    exact equalBy_iff.2 (.inl ⟨x, y, hax, hby, h⟩)
  | shape a b hna hnb h =>
    rw [number?_eq_numberOnly? ha.self] at hna
    rw [number?_eq_numberOnly? hb.self] at hnb
    refine equalBy_iff.2 (.inr ⟨hna, hnb, h.mono fun x hx y hy hxy => ?_⟩)
    exact hxy.choose_spec (ha.of_mem_contents hx) (hb.of_mem_contents hy)

/-- Both equalities are symmetric and transitive, the stricter one implies the other, both are
reflexive on values without NaN, and without booleans they are the same. The looser one is what is
computed from the stricter one level by level. -/
theorem equality_laws :
    (∀ a b, alike a b = true → alike b a = true) ∧
    (∀ a b c, alike a b = true → alike b c = true → alike a c = true) ∧
    (∀ a b, identical a b = true → identical b a = true) ∧
    (∀ a b c, identical a b = true → identical b c = true → identical a c = true) ∧
    (∀ a b, identical a b = true → alike a b = true) ∧
    (∀ v, v.Throughout (¬ ·.IsNaN) → alike v v = true ∧ identical v v = true) ∧
    (∀ a b, a.Throughout (¬ ·.IsBool) → b.Throughout (¬ ·.IsBool) → alike a b = identical a b) ∧
    ∀ a b : Ordered, alike a.value b.value = looseBy alike a.value b.value := by
  refine ⟨fun _ _ => equalBy_symm, fun _ _ _ => equalBy_trans, fun _ _ => equalBy_symm,
    fun _ _ _ => equalBy_trans, fun _ _ => alike_of_identical, fun v h => ?_, fun a b ha hb => ?_,
    alike_eq_looseBy⟩
  · have hself := identical_self h
    exact ⟨alike_of_identical hself, hself⟩
  · exact Bool.eq_iff_iff.2 ⟨fun h => identical_of_alike h ha hb, alike_of_identical⟩

/-- A picture, a font and a number in a mapping. -/
def emblem (x : Float) : Value :=
  .mapping ⟨[("font", .font ⟨1, ⟨0, 0, 0, false, 0, .empty, .empty, .empty, .empty, .empty⟩, 12.0⟩),
    ("image", .image ⟨2, .blank 1 1⟩), ("place", .sequence [.number x])]⟩

theorem equality_laws_emblem :
    (identical (emblem 0.0) (emblem (-0.0)) = true ∧ identical (emblem (-0.0)) (emblem 0.0) = true ∧
      alike (emblem (-0.0)) (emblem 0.0) = true) ∧
    (alike (.bool true) (.number 1.0) = true ∧ alike (.number 1.0) (.bool true) = true ∧
      alike (.bool true) (.bool true) = true) ∧
    ((emblem 0.0).Throughout (¬ ·.IsNaN) ∧ identical (emblem 0.0) (emblem 0.0) = true) ∧
    (emblem 0.0).Throughout (¬ ·.IsBool) ∧ (emblem (-0.0)).Throughout (¬ ·.IsBool) ∧
      alike (emblem 0.0) (emblem (-0.0)) = identical (emblem 0.0) (emblem (-0.0)) := by
  obtain ⟨hsymm, htrans, hsymm', -, himp, hself, hsame, -⟩ := equality_laws
  have hzeros : identical (emblem 0.0) (emblem (-0.0)) = true := by decide
  have hone : alike (.bool true) (.number 1.0) = true := by decide
  have hbool (x : Float) : (emblem x).Throughout (¬ ·.IsBool) := by
    simp only [emblem, throughout_mapping, throughout_sequence, List.forall_mem_cons]
    exact ⟨id, throughout_of_atom rfl id, throughout_of_atom rfl id,
      ⟨id, throughout_of_atom rfl id, by simp⟩, by simp⟩
  have hnan : (emblem 0.0).Throughout (¬ ·.IsNaN) := by
    simp only [emblem, throughout_mapping, throughout_sequence, List.forall_mem_cons]
    exact ⟨id, throughout_of_atom rfl (by decide : ¬ Single.isNaN 12.0 = true),
      throughout_of_atom rfl id,
      ⟨id, throughout_of_atom rfl (by decide : ¬ Double.isNaN 0.0 = true), by simp⟩, by simp⟩
  refine ⟨⟨hzeros, hsymm' _ _ hzeros, himp _ _ (hsymm' _ _ hzeros)⟩,
    ⟨hone, hsymm _ _ hone, htrans _ _ _ hone (hsymm _ _ hone)⟩, ⟨hnan, (hself _ hnan).2⟩,
    hbool _, hbool _, hsame _ _ (hbool _) (hbool _)⟩

end Value

end CardPress
