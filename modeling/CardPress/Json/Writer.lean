import CardPress.Json
import CardPress.Text.Quoted

/-!
# Writing JSON

`Json.text` has no blanks at all, `Json.pretty` one member or item a line.
-/

namespace CardPress.Json

/-- A fraction has the fewest digits that read back. Powers of ten from `-5` to `15` are written
positionally with at least one place after the point, all others with an exponent. -/
def floatText (x : Float) : String :=
  match Double.shortest? x with
  | none => "null"
  | some d =>
    let e := if d.digits = 0 then 0 else d.leadingExponent
    let digits :=
      if -5 ≤ e ∧ e ≤ 15 then
        if 0 ≤ d.exponent then d.positional ++ ".0" else d.positional
      else d.scientific
    if Double.isNegative x then "-" ++ digits else digits

/-- Only quotes, backslashes and controls are escaped. -/
def quotedChar (c : Char) : String :=
  if c = '"' then "\\\""
  else if c = '\\' then "\\\\"
  else if c = '\x08' then "\\b"
  else if c = '\x0c' then "\\f"
  else if c = '\n' then "\\n"
  else if c = '\r' then "\\r"
  else if c = '\t' then "\\t"
  else if c.toNat < 0x20 then
    "\\u00" ++ (if c.toNat < 0x10 then "0" else "") ++ Text.hex c.toNat
  else String.singleton c

def quoted (s : String) : String :=
  s.toList.foldl (fun out c => out ++ quotedChar c) "\"" ++ "\""

mutual

def text : Json → String
  | .null => "null"
  | .bool b => if b then "true" else "false"
  | .int n => toString n
  | .float x => floatText x
  | .string s => quoted s
  | .array items => "[" ++ itemsText items ++ "]"
  | .object members => "\x7b" ++ membersText members ++ "\x7d"

def itemsText : List Json → String
  | [] => ""
  | [j] => j.text
  | j :: rest => j.text ++ "," ++ itemsText rest

def membersText : List (String × Json) → String
  | [] => ""
  | [(k, j)] => quoted k ++ ":" ++ j.text
  | (k, j) :: rest => quoted k ++ ":" ++ j.text ++ "," ++ membersText rest

end

def newline (depth : Nat) : String :=
  "\n" ++ String.ofList (List.replicate (2 * depth) ' ')

mutual

/-- Two blanks of indentation for every level; empty containers stay on their line. -/
def prettyAt (depth : Nat) : Json → String
  | .array [] => "[]"
  | .array items => "[" ++ prettyItems (depth + 1) items ++ newline depth ++ "]"
  | .object [] => "\x7b\x7d"
  | .object members =>
    "\x7b" ++ prettyMembers (depth + 1) members ++ newline depth ++ "\x7d"
  | other => other.text

def prettyItems (depth : Nat) : List Json → String
  | [] => ""
  | [j] => newline depth ++ prettyAt depth j
  | j :: rest => newline depth ++ prettyAt depth j ++ "," ++ prettyItems depth rest

def prettyMembers (depth : Nat) : List (String × Json) → String
  | [] => ""
  | [(k, j)] => newline depth ++ quoted k ++ ": " ++ prettyAt depth j
  | (k, j) :: rest =>
    newline depth ++ quoted k ++ ": " ++ prettyAt depth j ++ "," ++ prettyMembers depth rest

end

def pretty (j : Json) : String :=
  prettyAt 0 j

end CardPress.Json
