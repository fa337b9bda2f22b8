import CardPress.Json.Writer
import CardPress.Value

/-!
# Values and JSON

Values from documents and back. Handles have no place in a document and become descriptions;
numbers that are not finite become null.
-/

namespace CardPress

/-- Whole numbers up to this size are written without a point. -/
def wholeNumberBound : Nat := Nat.pow 2 53

def Image.text (i : Image) : String :=
  "<image " ++ toString i.canvas.width ++ "x" ++ toString i.canvas.height ++ ">"

def Font.text (f : Font) : String :=
  "<font " ++ Single.text f.size ++ "px>"

namespace Value

def numberToJson (x : Float) : Json :=
  match Double.whole? x with
  | some n => if n.natAbs < wholeNumberBound then .int n else .float x
  | none => if Double.isFinite x then .float x else .null

mutual

def toJson : Value → Json
  | .null => .null
  | .bool b => .bool b
  | .number x => numberToJson x
  | .string s => .string s
  | .sequence items => .array (toJsonItems items)
  | .mapping ⟨entries⟩ => .object (toJsonEntries entries)
  | .image i => .string i.text
  | .font f => .string f.text

def toJsonItems : List Value → List Json
  | [] => []
  | v :: rest => v.toJson :: toJsonItems rest

def toJsonEntries : List (String × Value) → List (String × Json)
  | [] => []
  | (k, v) :: rest => (k, v.toJson) :: toJsonEntries rest

end

mutual

/-- Every number becomes a double; of equal keys the last counts. -/
def ofJson : Json → Value
  | .null => .null
  | .bool b => .bool b
  | .int n => .number (Double.ofInt n)
  | .float x => .number x
  | .string s => .string s
  | .array items => .sequence (ofJsonItems items)
  | .object members => .mapping (Dict.ofList (ofJsonMembers members))

def ofJsonItems : List Json → List Value
  | [] => []
  | j :: rest => ofJson j :: ofJsonItems rest

def ofJsonMembers : List (String × Json) → List (String × Value)
  | [] => []
  | (k, j) :: rest => (k, ofJson j) :: ofJsonMembers rest

end

/-- The text of a value: a string as it is, everything else as JSON. -/
def text : Value → String
  | .string s => s
  | .image i => i.text
  | .font f => f.text
  | other => other.toJson.text

end Value

end CardPress
