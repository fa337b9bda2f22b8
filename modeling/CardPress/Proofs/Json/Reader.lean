import CardPress.Json.Skip
import CardPress.Proofs.Json.Documents
import CardPress.Proofs.Outcome

/-!
# What the reader gives

Whatever the readers make of a text, its numbers fit: whole ones have 64 bits, and the others are
finite.

## Main results

* `Json.gives_value` — the numbers of what is read fit.
* `Json.numbersFit_of_readKnown` — the same for a file of objects.
-/

namespace CardPress.Json

variable {α κ : Type}

/-- Whatever a reader makes of some characters has a property. -/
def Gives (P : α → Prop) (x : Except ReadError (Read α)) : Prop :=
  ∀ a rest, x = .ok (a, rest) → P a

section

variable {P Q : α → Prop} {x : Except ReadError (Read α)}

theorem gives_ok {a : α} {rest : List Char} (h : P a) : Gives P (.ok (a, rest)) := by
  rintro _ _ ⟨⟩
  exact h

theorem gives_error (e : ReadError) : Gives P (.error e) := by
  rintro _ _ ⟨⟩

theorem Gives.bind {β : Type} {R : β → Prop} {f : Read α → Except ReadError (Read β)}
    (hx : Gives P x) (hf : ∀ a rest, P a → Gives R (f (a, rest))) : Gives R (x >>= f) := by
  intro b rest h
  obtain ⟨⟨a, rest'⟩, hok, h⟩ := bind_eq_ok_iff.1 h
  exact hf a rest' (hx a rest' hok) b rest h

/-- What nothing is known of. -/
theorem gives_true (x : Except ReadError (Read α)) : Gives (fun _ => True) x :=
  fun _ _ _ => trivial

theorem gives_word {a : α} (h : P a) (expected cs : List Char) : Gives P (word expected a cs) := by
  fun_induction word expected a cs with
  | case1 => exact gives_ok h
  | case2 e expected rest ih => exact ih
  | case3 => exact gives_error _
  | case4 => exact gives_error _

theorem gives_refuse (cs : List Char) : Gives P (refuse cs : Except ReadError (Read α)) := by
  cases cs <;> exact gives_error _

variable {item : List Char → Except ReadError (Read α)}

theorem gives_itemsUntil (hitem : ∀ cs, Gives P (item cs)) (close : Char) (fuel : ℕ)
    (cs : List Char) : Gives (fun xs => ∀ x ∈ xs, P x) (itemsUntil item close fuel cs) := by
  induction fuel generalizing cs with
  | zero => exact gives_error _
  | succ fuel ih =>
    refine (hitem cs).bind fun x rest hx => ?_
    dsimp only
    split
    · exact gives_error _
    · split_ifs
      · exact (ih _).bind fun xs _ hxs => gives_ok (List.forall_mem_cons.2 ⟨hx, hxs⟩)
      · exact gives_ok (by simpa using hx)
      · exact gives_error _

theorem gives_container (hitem : ∀ cs, Gives P (item cs)) (close : Char) (bound : ℕ)
    (cs : List Char) : Gives (fun xs => ∀ x ∈ xs, P x) (container item close bound cs) := by
  rw [container]
  split
  · exact gives_error _
  · split_ifs
    · exact gives_ok (by simp)
    · exact gives_itemsUntil hitem close bound cs

theorem gives_memberOf {value : κ → List Char → Except ReadError (Read α)}
    (hvalue : ∀ k cs, Gives P (value k cs)) (key : List Char → Except ReadError (Read κ))
    (cs : List Char) : Gives (fun m => P m.2) (memberOf key value cs) := by
  rw [memberOf]
  split
  · refine (gives_true _).bind fun k rest _ => ?_
    dsimp only
    split
    · exact (hvalue _ _).bind fun a _ ha => gives_ok ha
    · exact gives_refuse _
  · exact gives_refuse _

end

theorem numbersFit_numberOfParts {negative : Bool} {whole : List Char}
    {fraction : Option (List Char)} {exponent : Option ℤ} {j : Json}
    (h : numberOfParts negative whole fraction exponent = .ok j) : j.NumbersFit := by
  simp only [numberOfParts] at h
  generalize (if negative = true then -(natOfDigits whole : ℤ) else natOfDigits whole) = n at h
  split_ifs at h with hint hfinite
  · cases h
    simp only [Bool.and_eq_true] at hint
    exact .int hint.1.2
  · cases h
    exact .float hfinite

theorem gives_number (negative : Bool) (cs : List Char) :
    Gives NumbersFit (number negative cs) := by
  refine (gives_true _).bind fun whole rest _ => ?_
  refine (gives_true _).bind fun fraction rest _ => ?_
  refine (gives_true _).bind fun exponent rest _ => ?_
  intro j rest' h
  obtain ⟨j', hparts, h⟩ := bind_eq_ok_iff.1 h
  cases h
  exact numbersFit_numberOfParts hparts

/-- The numbers of what is read fit. -/
theorem gives_value (bound depth : ℕ) (cs : List Char) :
    Gives NumbersFit (value bound depth cs) := by
  induction depth using Nat.strong_induction_on generalizing cs with
  | _ depth ih =>
    rw [value.eq_def]
    split
    · exact gives_word .null _ _
    · exact gives_word (.bool _) _ _
    · exact gives_word (.bool _) _ _
    · exact (gives_true _).bind fun s _ _ => gives_ok (.string s)
    · exact gives_number _ _
    · cases depth with
      | zero => exact gives_error _
      | succ depth =>
        have hitem := ih depth (Nat.lt_succ_self _)
        exact (gives_container hitem _ _ _).bind fun items _ hitems => gives_ok (.array hitems)
    · cases depth with
      | zero => exact gives_error _
      | succ depth =>
        have hmember := gives_memberOf (fun _ => ih depth (Nat.lt_succ_self _)) (stringTail bound)
        exact (gives_container hmember _ _ _).bind fun members _ hmembers =>
          gives_ok (.object hmembers)
    · exact gives_number _ _

/-! ## Files of objects -/

theorem gives_knownValue (known : String → Bool) (bound depth : ℕ) (key : String) (cs : List Char) :
    Gives NumbersFit (knownValue known bound depth key cs) := by
  rw [knownValue]
  split_ifs
  · exact gives_value bound depth cs
  · exact (gives_true _).bind fun _ _ _ => gives_ok .null

theorem gives_knownObject (known : String → Bool) (bound depth : ℕ) (cs : List Char) :
    Gives NumbersFit (knownObject known bound depth cs) := by
  rw [knownObject.eq_def]
  split
  · exact (gives_container (gives_memberOf (gives_knownValue known bound _) _) _ _ _).bind
      fun members _ hmembers => gives_ok (.object hmembers)
  · exact gives_value _ _ _

theorem gives_knownObjects (known : String → Bool) (bound depth : ℕ) (cs : List Char) :
    Gives NumbersFit (knownObjects known bound depth cs) := by
  rw [knownObjects.eq_def]
  split
  · exact (gives_container (gives_knownObject known bound _) _ _ _).bind
      fun items _ hitems => gives_ok (.array hitems)
  · exact gives_value _ _ _

theorem numbersFit_of_readKnown {known : String → Bool} {s : String} {j : Json}
    (h : readKnown known s = .ok j) : j.NumbersFit := by
  obtain ⟨⟨j', rest⟩, hread, h⟩ := bind_eq_ok_iff.1 h
  dsimp only at h
  split at h
  · cases h
    exact gives_knownObjects known _ _ _ _ _ hread
  · cases h

end CardPress.Json
