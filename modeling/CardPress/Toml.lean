import CardPress.Json

/-!
# TOML documents

The values of a TOML document, and the same document as JSON: dates and times become objects with
one member, numbers that are not finite become null.
-/

namespace CardPress

inductive Toml where
  | string (s : String)
  | integer (n : Int)
  | float (x : Float)
  | boolean (b : Bool)
  /-- A date, a time or both, in the normal spelling. -/
  | datetime (text : String)
  | array (items : List Toml)
  | table (entries : List (String × Toml))

namespace Toml

instance : Inhabited Toml := ⟨.boolean false⟩

/-- The key under which the text of a date or time is found. -/
def datetimeKey : String := "$__toml_private_datetime"

mutual

def toJson : Toml → Json
  | .string s => .string s
  | .integer n => .int n
  | .float x => if Double.isFinite x then .float x else .null
  | .boolean b => .bool b
  | .datetime text => .object [(datetimeKey, .string text)]
  | .array items => .array (toJsonItems items)
  | .table entries => .object (toJsonEntries entries)

def toJsonItems : List Toml → List Json
  | [] => []
  | t :: rest => t.toJson :: toJsonItems rest

def toJsonEntries : List (String × Toml) → List (String × Json)
  | [] => []
  | (k, t) :: rest => (k, t.toJson) :: toJsonEntries rest

end

end Toml

end CardPress
