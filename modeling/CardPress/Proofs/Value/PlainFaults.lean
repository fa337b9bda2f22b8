import CardPress.Capabilities
import CardPress.Proofs.Capabilities
import CardPress.Proofs.Generation.Ending

/-!
# Faults of readings and calculations

What reads a parameter or calculates with operands knows nothing of templates and steps: its faults
are plain ones.

## Main definitions

* `Fault.IsPlain` — a fault that is neither about a template nor in a step.
-/

namespace CardPress

/-- Neither about a template that cannot be drawn nor in a step. -/
def Fault.IsPlain : Fault → Prop
  | .unknownTemplate _ => False
  | .templateCycle _ => False
  | .step _ _ _ _ => False
  | _ => True

/-! ## Parameters -/

namespace Value

@[simp] theorem plain_invalid {α : Type} (parameter expected found : String) :
    Fails Fault.IsPlain (invalid (α := α) parameter expected found) :=
  fails_error_iff.2 trivial

@[simp] theorem plain_readString (parameter : String) (v : Value) :
    Fails Fault.IsPlain (v.readString parameter) := by
  unfold readString
  split <;> simp

@[simp] theorem plain_readNumber (parameter : String) (v : Value) :
    Fails Fault.IsPlain (v.readNumber parameter) := by
  unfold readNumber
  split <;> simp

@[simp] theorem plain_readNatural (parameter : String) (v : Value) :
    Fails Fault.IsPlain (v.readNatural parameter) := by
  simp only [readNatural, fails_bind_iff, plain_readNumber, true_and]
  intro x _
  split <;> simp

@[simp] theorem plain_readSequence (parameter : String) (v : Value) :
    Fails Fault.IsPlain (v.readSequence parameter) := by
  unfold readSequence
  split <;> simp

@[simp] theorem plain_readMapping (parameter : String) (v : Value) :
    Fails Fault.IsPlain (v.readMapping parameter) := by
  unfold readMapping
  split <;> simp

@[simp] theorem plain_readPoint (parameter : String) (v : Value) :
    Fails Fault.IsPlain (v.readPoint parameter) := by
  simp only [readPoint, fails_bind_iff, plain_readSequence, true_and]
  intro items _
  split <;> simp

@[simp] theorem plain_readSize (parameter : String) (v : Value) :
    Fails Fault.IsPlain (v.readSize parameter) := by
  simp only [readSize, fails_bind_iff, plain_readSequence, true_and]
  intro items _
  split <;> simp

@[simp] theorem plain_readImage (parameter : String) (v : Value) :
    Fails Fault.IsPlain (v.readImage parameter) := by
  unfold readImage
  split <;> simp

@[simp] theorem plain_readFont (parameter : String) (v : Value) :
    Fails Fault.IsPlain (v.readFont parameter) := by
  unfold readFont
  split <;> simp

@[simp] theorem plain_deferredKind (v : Value) :
    Fails Fault.IsPlain v.deferredKind := by
  unfold deferredKind
  split
  · split <;> simp
  · simp

end Value

@[simp] theorem plain_rawParam (params : Mapping) (name : String) :
    Fails Fault.IsPlain (rawParam params name) := by
  unfold rawParam
  split
  · simp
  · exact fails_error_iff.2 trivial

@[simp] theorem Expression.plain_cacheKey (v : Value) :
    Fails Fault.IsPlain (cacheKey v) := by
  unfold cacheKey
  split <;> simp

@[simp] theorem WriteMode.plain_parse (name : String) :
    Fails Fault.IsPlain (parse name) := by
  unfold parse
  split <;> first | exact fails_ok _ | exact fails_error_iff.2 trivial

@[simp] theorem WriteMode.plain_admits (mode : WriteMode) (key : String)
    (exists? isGlobal : Bool) : Fails Fault.IsPlain (mode.admits key exists? isGlobal) := by
  unfold admits
  split <;> first | exact fails_ok _ | exact fails_error_iff.2 trivial

@[simp] theorem TextAlign.plain_parse (name : String) :
    Fails Fault.IsPlain (parse name) := by
  unfold parse
  split <;> first | exact fails_ok _ | exact fails_error_iff.2 trivial

@[simp] theorem Anchor.plain_parse (code : String) :
    Fails Fault.IsPlain (parse code) := by
  unfold parse
  extract_lets anchor?
  generalize anchor? = a
  cases a with
  | some a => simp
  | none => exact fails_error_iff.2 trivial

namespace Rgba

theorem plain_readChannel (v : Value) : Fails Fault.IsPlain (readChannel v) := by
  simp [readChannel]

@[simp] theorem plain_ofValue (v : Value) : Fails Fault.IsPlain (ofValue v) := by
  unfold ofValue
  split
  · simp [plain_readChannel]
  · simp [plain_readChannel]
  · simp
  · split <;> simp
  · simp

end Rgba

/-! ## Layers -/

namespace Axis

@[simp] theorem plain_ofValue (parameter : String) (v : Value) :
    Fails Fault.IsPlain (ofValue parameter v) := by
  unfold ofValue
  split <;> simp

@[simp] theorem plain_readPair (parameter : String) (v : Value) :
    Fails Fault.IsPlain (readPair parameter v) := by
  simp only [readPair, fails_bind_iff, Value.plain_readSequence, true_and]
  intro items _
  split <;> simp

end Axis

namespace Step

theorem plain_crop (v : Value) (layer : Canvas) :
    Fails Fault.IsPlain (crop v layer) := by
  simp only [crop, fails_bind_iff, Value.plain_readSequence, true_and]
  intro items _
  split <;> simp

theorem plain_fit (parameter : String) (rule : Axis × Axis → Nat → Nat → Nat × Nat) (v : Value)
    (layer : Canvas) : Fails Fault.IsPlain (fit parameter rule v layer) := by
  simp only [fit, fails_bind_iff, Axis.plain_readPair, true_and]
  intro axes? _
  split <;> simp

theorem plain_rotate (v : Value) (layer : Canvas) :
    Fails Fault.IsPlain (rotate v layer) := by
  simp [rotate]

theorem plain_fade (v : Value) (layer : Canvas) :
    Fails Fault.IsPlain (fade v layer) := by
  simp [fade]

theorem plain_manipulations : ∀ e ∈ manipulations, ∀ v layer,
    Fails Fault.IsPlain (e.2 v layer) := by
  simp only [manipulations, List.forall_mem_cons, List.not_mem_nil, false_imp_iff, implies_true,
    and_true]
  exact ⟨plain_crop, plain_fit _ _, plain_fit _ _, plain_rotate, plain_fade⟩

end Step

/-! ## Calculations -/

namespace Calc

@[simp] theorem plain_fail {α : Type} (cause : CalcFault) :
    Fails Fault.IsPlain (fail (α := α) cause) :=
  fails_error_iff.2 trivial

@[simp] theorem plain_arity (args : List Value) (least most : Nat) :
    Fails Fault.IsPlain (arity args least most) := by
  unfold arity
  split <;> simp

@[simp] theorem plain_unary (args : List Value) : Fails Fault.IsPlain (unary args) := by
  unfold unary
  split <;> simp

@[simp] theorem plain_binary (args : List Value) : Fails Fault.IsPlain (binary args) := by
  unfold binary
  split <;> simp

@[simp] theorem plain_number (v : Value) : Fails Fault.IsPlain (number v) := by
  unfold number
  split <;> simp

@[simp] theorem plain_numbers (args : List Value) :
    Fails Fault.IsPlain (numbers args) := by
  simp [numbers]

@[simp] theorem plain_integer (v : Value) : Fails Fault.IsPlain (integer v) := by
  simp only [integer, fails_bind_iff, plain_number, true_and]
  intro x _
  split <;> simp

@[simp] theorem plain_add (a b : Value) : Fails Fault.IsPlain (add a b) := by
  unfold add
  split
  · simp
  · simp
  · split <;> simp

@[simp] theorem plain_repetitions (length : Nat) (count : Value) :
    Fails Fault.IsPlain (repetitions length count) := by
  simp only [repetitions, repetitionsWith, fails_bind_iff, plain_integer, true_and]
  intro n _
  split
  · simp
  · split
    · split <;> simp
    · simp

@[simp] theorem plain_multiply (a b : Value) : Fails Fault.IsPlain (multiply a b) := by
  unfold multiply
  split <;> simp [repeatString, repeatItems]

@[simp] theorem plain_divisor (x : Float) : Fails Fault.IsPlain (divisor x) := by
  unfold divisor
  split <;> simp

@[simp] theorem plain_round (args : List Value) : Fails Fault.IsPlain (round args) := by
  simp only [round, fails_bind_iff, plain_arity, plain_number, true_and]
  intro _ _ x _
  split <;> simp

@[simp] theorem plain_sum (args : List Value) : Fails Fault.IsPlain (sum args) :=
  fails_foldlM (fun a b => plain_add a b) _ _

@[simp] theorem plain_extreme (wanted : Ordering) (args : List Value) :
    Fails Fault.IsPlain (extreme wanted args) := by
  unfold extreme
  split
  · simp
  · refine fails_foldlM (fun best item => ?_) _ _
    split <;> simp

theorem plain_placeWith (keep : ℤ → Id ℤ) (length : ℕ) (index : ℤ) :
    Fails Fault.IsPlain (placeWith keep length index).run := by
  unfold placeWith
  generalize (Machine.wrapped 64 (length : ℤ)).run = count
  have hplace (i : ℤ) : Fails Fault.IsPlain
      (if i < 0 ∨ count ≤ i then fail (.indexOutOfRange index length) else .ok i.toNat) := by
    split <;> simp
  split
  · exact hplace (keep (count + index)).run
  · exact hplace index

@[simp] theorem plain_place (length : ℕ) (index : ℤ) : Fails Fault.IsPlain (place length index) :=
  plain_placeWith _ length index

@[simp] theorem plain_getItem (container key : Value) :
    Fails Fault.IsPlain (getItem container key) := by
  unfold getItem
  split
  · simp
  · simp
  · split
    · simp
    · split <;> simp
  · simp

@[simp] theorem plain_contains (container item : Value) :
    Fails Fault.IsPlain (contains container item) := by
  unfold contains
  split <;> simp

@[simp] theorem plain_fieldOperand (values : List Value) (next : Nat) (field : List Char) :
    Fails Fault.IsPlain (fieldOperand values next field) := by
  unfold fieldOperand
  extract_lets operand
  have hoperand (found : Nat × Nat) : Fails Fault.IsPlain (operand found) := by
    simp only [operand]
    split <;> simp
  split
  · simp [hoperand]
  · split <;> simp [hoperand]

@[simp] theorem plain_formatFrom (values : List Value) (field : Option (List Char)) (next : Nat)
    (chars : List Char) : Fails Fault.IsPlain (formatFrom values field next chars) := by
  fun_induction formatFrom values field next chars <;> simp_all

@[simp] theorem plain_format (args : List Value) : Fails Fault.IsPlain (format args) := by
  unfold format
  split <;> simp

@[simp] theorem plain_joinPath (args : List Value) :
    Fails Fault.IsPlain (joinPath args) := by
  simp [joinPath, fails_mapM]

@[simp] theorem plain_toInteger (v : Value) : Fails Fault.IsPlain (toInteger v) := by
  unfold toInteger
  split
  · split <;> simp
  · simp

@[simp] theorem plain_toNumber (v : Value) : Fails Fault.IsPlain (toNumber v) := by
  unfold toNumber
  split
  · split <;> simp
  · simp

@[simp] theorem plain_loadJson (v : Value) : Fails Fault.IsPlain (loadJson v) := by
  simp only [loadJson, fails_bind_iff, Value.plain_readString, true_and]
  intro text _
  split
  · simp
  · exact fails_throw_iff.2 trivial

@[simp] theorem plain_ordered (accept : Ordering → Bool) (args : List Value) :
    Fails Fault.IsPlain (ordered accept args) := by
  simp only [ordered, fails_bind_iff, plain_binary, true_and]
  intro pair _
  split <;> simp

theorem plain_onPair {f : Value → Value → Except Fault Value}
    (h : ∀ a b, Fails Fault.IsPlain (f a b)) (args : List Value) :
    Fails Fault.IsPlain (onPair f args) := by
  simp [onPair, h]

theorem plain_onOne {f : Value → Except Fault Value}
    (h : ∀ a, Fails Fault.IsPlain (f a)) (args : List Value) :
    Fails Fault.IsPlain (onOne f args) := by
  simp [onOne, h]

theorem plain_operations : ∀ e ∈ operations, ∀ args, Fails Fault.IsPlain (e.2 args) := by
  simp [operations, plain_onPair, plain_onOne, onNumbers, divide, floorDivide, modulo, dictGet,
    choose]

@[simp] theorem plain_calculate (name : String) (args : List Value) :
    Fails Fault.IsPlain (calculate name args) := by
  unfold calculate
  split
  · exact fails_error_iff.2 trivial
  · next op hop =>
    refine fails_mapError (plain_operations _ (mem_of_lookup_eq_some hop) args) fun fault h => ?_
    cases fault <;> exact h

end Calc

end CardPress
