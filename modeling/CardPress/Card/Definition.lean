import CardPress.Card
import CardPress.Digest
import CardPress.Json.Skip

/-!
# Card definitions

One face as a definitions file writes it: an object with named fields, or the list of its fields in
order. Fields that are left out have defaults, unknown ones are ignored, and whole numbers have to
be written as such.
-/

namespace CardPress

structure CardDefinition where
  label : Option String
  size : Option Size
  templates : List String
  /-- Shorthand for one more template. -/
  template : Option String
  steps : List Value
  isTemplate : Bool
  skipsGeneration : Bool

namespace CardDefinition

def empty : CardDefinition where
  label := none
  size := none
  templates := []
  template := none
  steps := []
  isTemplate := false
  skipsGeneration := false

/-! ## Decoding -/

/-- Why a document is not what was expected. -/
abbrev Mismatch := String

def expected {α : Type} (what : String) : Except Mismatch α :=
  .error ("expected " ++ what)

def decodeText : Json → Except Mismatch String
  | .string s => .ok s
  | _ => expected "a string"

def decodeBool : Json → Except Mismatch Bool
  | .bool b => .ok b
  | _ => expected "a boolean"

/-- A whole number of 32 bits without sign. -/
def decodeNatural : Json → Except Mismatch Nat
  | .int n => if 0 ≤ n ∧ n < Nat.pow 2 32 then .ok n.toNat else expected "a number of 32 bits"
  | _ => expected "a whole number"

def decodeList {α : Type} (item : Json → Except Mismatch α) : Json → Except Mismatch (List α)
  | .array items => items.mapM item
  | _ => expected "a list"

/-- Null stands for nothing. -/
def decodeOption {α : Type} (item : Json → Except Mismatch α) : Json → Except Mismatch (Option α)
  | .null => .ok none
  | j => some <$> item j

def decodeSize (j : Json) : Except Mismatch Size := do
  match ← decodeList decodeNatural j with
  | [w, h] => .ok ⟨w, h⟩
  | _ => expected "two numbers"

/-- The fields in order, each with what reading it does. -/
def fields : List (String × (CardDefinition → Json → Except Mismatch CardDefinition)) := [
  ("label", fun d j => return { d with label := ← decodeOption decodeText j }),
  ("size", fun d j => return { d with size := ← decodeOption decodeSize j }),
  ("templates", fun d j => return { d with templates := ← decodeList decodeText j }),
  ("template", fun d j => return { d with template := ← decodeOption decodeText j }),
  ("steps", fun d j => return { d with steps := ← decodeList (fun j => .ok (.ofJson j)) j }),
  ("is_template", fun d j => return { d with isTemplate := ← decodeBool j }),
  ("do_skip_generation", fun d j => return { d with skipsGeneration := ← decodeBool j })]

def isField (key : String) : Bool :=
  (fields.lookup key).isSome

/-- Read members in turn; a field that was `seen` already must not come again. -/
def decodeMembers (d : CardDefinition) (seen : List String) :
    List (String × Json) → Except Mismatch CardDefinition
  | [] => .ok d
  | (key, j) :: rest =>
    match fields.lookup key with
    | none => decodeMembers d seen rest
    | some field =>
      if seen.contains key then .error ("repeated field " ++ key)
      else do decodeMembers (← field d j) (key :: seen) rest

/-- Read fields without names; there must not be more items than fields. -/
def decodeItems (d : CardDefinition) :
    List (String × (CardDefinition → Json → Except Mismatch CardDefinition)) → List Json →
      Except Mismatch CardDefinition
  | _, [] => .ok d
  | [], _ :: _ => .error "too many fields"
  | (_, field) :: fields, j :: rest => do decodeItems (← field d j) fields rest

def decode : Json → Except Mismatch CardDefinition
  | .object members => decodeMembers empty [] members
  | .array items => decodeItems empty fields items
  | _ => expected "a card definition"

def decodeAll : Json → Except Mismatch (List CardDefinition) :=
  decodeList decode

/-! ## Encoding -/

def toJson (d : CardDefinition) : Json :=
  let optional (s : Option String) : Json := (s.map Json.string).getD .null
  let size := match d.size with
    | some s => Json.array [.int s.width, .int s.height]
    | none => .null
  let template := match d.template with
    | some t => [("template", Json.string t)]
    | none => []
  .object <| [
    ("label", optional d.label),
    ("size", size),
    ("templates", .array (d.templates.map .string))] ++ template ++ [
    ("steps", .array (d.steps.map Value.toJson)),
    ("is_template", .bool d.isTemplate),
    ("do_skip_generation", .bool d.skipsGeneration)]

def canonicalText (d : CardDefinition) : String :=
  d.toJson.canonicalText

def hash (d : CardDefinition) : String :=
  d.toJson.hash

/-- The digest of a whole deck of definitions. -/
def hashAll (definitions : List CardDefinition) : String :=
  (Json.array (definitions.map toJson)).hash

/-- The face a definition declares; the shorthand comes after the listed templates. -/
def face (d : CardDefinition) (serial : Nat) : CardFace where
  serial := serial
  label := d.label
  templates := match d.template with
    | some t => if d.templates.contains t then d.templates else d.templates ++ [t]
    | none => d.templates
  steps := d.steps
  size := d.size
  isTemplate := d.isTemplate
  skipsGeneration := d.skipsGeneration

end CardDefinition

end CardPress
