import CardPress.Fault

/-!
# Card faces

The declared, unchanging description of one face of a card.
-/

namespace CardPress

structure Size where
  width : Nat
  height : Nat
  deriving DecidableEq, Repr

/-- A face as declared. Its serial number, the place in its deck, tells it from faces that are
declared alike. -/
structure CardFace where
  serial : Nat
  label : Option String
  /-- Labels of the faces it inherits from. -/
  templates : List String
  steps : List Value
  size : Option Size
  isTemplate : Bool
  skipsGeneration : Bool

namespace CardFace

def empty (serial : Nat) : CardFace where
  serial := serial
  label := none
  templates := []
  steps := []
  size := none
  isTemplate := false
  skipsGeneration := false

instance : Inhabited CardFace := ⟨empty 0⟩

def displayLabel (f : CardFace) : String :=
  f.label.getD unlabelled

end CardFace

end CardPress
