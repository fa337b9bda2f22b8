import CardPress.Fault

/-!
# Text styles

How lines of text are set: their spacing, their alignment within the block, the point of the block
that a position refers to, and the width of the outline.
-/

namespace CardPress

inductive TextAlign where
  | left | center | right
  deriving DecidableEq, Repr, Inhabited

namespace TextAlign

def parse (name : String) : Except Fault TextAlign :=
  match name with
  | "left" => .ok .left
  | "center" | "centre" => .ok .center
  | "right" => .ok .right
  | other => .error (.invalidParameter "align" "left, center or right" other)

def name : TextAlign → String
  | .left => "Left"
  | .center => "Center"
  | .right => "Right"

end TextAlign

inductive HorizontalAnchor where
  | left | middle | right
  deriving DecidableEq, Repr, Inhabited

inductive VerticalAnchor where
  | ascender | top | middle | baseline | bottom | descender
  deriving DecidableEq, Repr, Inhabited

/-- A point of a block of text. -/
structure Anchor where
  horizontal : HorizontalAnchor
  vertical : VerticalAnchor
  deriving DecidableEq, Repr, Inhabited

namespace Anchor

def horizontal? : Char → Option HorizontalAnchor
  | 'l' => some .left
  | 'm' => some .middle
  | 'r' => some .right
  | _ => none

def vertical? : Char → Option VerticalAnchor
  | 'a' => some .ascender
  | 't' => some .top
  | 'm' => some .middle
  | 's' => some .baseline
  | 'b' => some .bottom
  | 'd' => some .descender
  | _ => none

/-- A code of two letters, first across and then down. -/
def parse (code : String) : Except Fault Anchor :=
  let anchor? := match code.toList with
    | [h, v] => return ⟨← horizontal? h, ← vertical? v⟩
    | _ => none
  match anchor? with
  | some a => .ok a
  | none => .error (.invalidParameter "anchor" "a two-letter anchor such as 'la'" code)

def horizontalName : HorizontalAnchor → String
  | .left => "Left"
  | .middle => "Middle"
  | .right => "Right"

def verticalName : VerticalAnchor → String
  | .ascender => "Ascender"
  | .top => "Top"
  | .middle => "Middle"
  | .baseline => "Baseline"
  | .bottom => "Bottom"
  | .descender => "Descender"

def text (a : Anchor) : String :=
  "Anchor \x7b horizontal: " ++ horizontalName a.horizontal ++ ", vertical: " ++
    verticalName a.vertical ++ " \x7d"

end Anchor

/-- Shared by measuring and drawing. -/
structure TextStyle where
  spacing : Float32
  align : TextAlign
  anchor : Anchor
  strokeWidth : Nat

/-- Four pixels between lines, set to the left, hanging from the top left corner, no outline. -/
def TextStyle.standard : TextStyle where
  spacing := Float32.ofBits 0x40800000
  align := .left
  anchor := ⟨.left, .ascender⟩
  strokeWidth := 0

/-- The size of a font that names none. -/
def defaultFontSize : Float32 := Float32.ofBits 0x41200000

end CardPress
