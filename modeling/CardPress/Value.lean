import CardPress.Canvas
import CardPress.Dict
import CardPress.Font.Face
import CardPress.Number.Single

/-!
# Values

What card definitions, expressions and caches hold: data shaped like JSON, and handles to images and
fonts, which only resolving an expression produces. A handle carries a stamp; two handles are the
same one exactly if their stamps agree, whatever they show.
-/

namespace CardPress

/-- A canvas as a value. -/
structure Image where
  stamp : Nat
  canvas : Canvas

/-- A font face at a size in pixels. -/
structure Font where
  stamp : Nat
  face : Font.Face
  size : Float32

inductive Value where
  | null
  | bool (b : Bool)
  | number (x : Float)
  | string (s : String)
  | sequence (items : List Value)
  | mapping (fields : Dict Value)
  | image (image : Image)
  | font (font : Font)

abbrev Mapping := Dict Value

namespace Value

instance : Inhabited Value := ⟨.null⟩

/-- The kinds of values, as messages name them. -/
inductive Kind where
  | null | bool | number | string | sequence | mapping | image | font
  deriving DecidableEq, Repr

def Kind.name : Kind → String
  | .null => "null"
  | .bool => "bool"
  | .number => "number"
  | .string => "string"
  | .sequence => "sequence"
  | .mapping => "mapping"
  | .image => "image"
  | .font => "font"

def kind : Value → Kind
  | .null => .null
  | .bool _ => .bool
  | .number _ => .number
  | .string _ => .string
  | .sequence _ => .sequence
  | .mapping _ => .mapping
  | .image _ => .image
  | .font _ => .font

def isNull : Value → Bool
  | .null => true
  | _ => false

/-- Null, false, zero and everything empty count as false. -/
def isTruthy : Value → Bool
  | .null => false
  | .bool b => b
  | .number x => !Double.isZero x
  | .string s => !s.isEmpty
  | .sequence items => !items.isEmpty
  | .mapping fields => !fields.isEmpty
  | .image _ | .font _ => true

def string? : Value → Option String
  | .string s => some s
  | _ => none

/-- The number a value stands for; booleans stand for zero and one. -/
def number? : Value → Option Float
  | .number x => some x
  | .bool b => some (if b then 1.0 else 0.0)
  | _ => none

/-- A field of a mapping. -/
def get? (v : Value) (key : String) : Option Value :=
  match v with
  | .mapping fields => fields.get? key
  | _ => none

def ofNat (n : Nat) : Value :=
  .number (Double.ofInt n)

/-! ## Stamps

A stamp above all that occur in a value tells a new handle from the value's own ones. -/

mutual

/-- The greatest stamp in a value; zero if there is none. -/
def greatestStamp : Value → Nat
  | .image i => i.stamp
  | .font f => f.stamp
  | .sequence items => greatestStampItems items
  | .mapping ⟨entries⟩ => greatestStampEntries entries
  | _ => 0

def greatestStampItems : List Value → Nat
  | [] => 0
  | v :: rest => max v.greatestStamp (greatestStampItems rest)

def greatestStampEntries : List (String × Value) → Nat
  | [] => 0
  | (_, v) :: rest => max v.greatestStamp (greatestStampEntries rest)

end

end Value

end CardPress
