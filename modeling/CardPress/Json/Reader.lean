import CardPress.Json

/-!
# Reading JSON

Strict JSON: one value with blanks around it. Containers nest at most `Json.maxDepth` deep, numbers
have to fit a double, and an escaped surrogate needs its partner. The readers take the text as a
list of characters and hand back what they did not consume.
-/

namespace CardPress.Json

inductive ReadError where
  | unexpectedEnd
  | unexpected (c : Char)
  | control (c : Char)
  | badEscape
  | loneSurrogate
  | numberOutOfRange
  | tooDeep
  deriving DecidableEq, Repr

namespace ReadError

def message : ReadError → String
  | .unexpectedEnd => "unexpected end of text"
  | .unexpected c => "unexpected character " ++ String.singleton c
  | .control _ => "control character inside a string"
  | .badEscape => "invalid escape"
  | .loneSurrogate => "surrogate without its partner"
  | .numberOutOfRange => "number out of range"
  | .tooDeep => "nested too deeply"

end ReadError

/-- What was read and the characters after it. -/
abbrev Read (α : Type) := α × List Char

def maxDepth : Nat := 127

def isSpace (c : Char) : Bool :=
  c = ' ' || c = '\n' || c = '\t' || c = '\r'

def skipSpace (cs : List Char) : List Char :=
  cs.dropWhile isSpace

/-- The error at a character that fits nothing. -/
def refuse {α : Type} : List Char → Except ReadError α
  | [] => .error .unexpectedEnd
  | c :: _ => .error (.unexpected c)

/-! ## Strings -/

def hexDigit? (c : Char) : Option Nat :=
  if '0' ≤ c ∧ c ≤ '9' then some (c.toNat - '0'.toNat)
  else if 'a' ≤ c ∧ c ≤ 'f' then some (c.toNat - 'a'.toNat + 10)
  else if 'A' ≤ c ∧ c ≤ 'F' then some (c.toNat - 'A'.toNat + 10)
  else none

/-- Four hexadecimal digits. -/
def unit : List Char → Except ReadError (Read Nat)
  | a :: b :: c :: d :: rest =>
    match hexDigit? a, hexDigit? b, hexDigit? c, hexDigit? d with
    | some a, some b, some c, some d => .ok (((a * 16 + b) * 16 + c) * 16 + d, rest)
    | _, _, _, _ => .error .badEscape
  | _ => .error .unexpectedEnd

/-- The character after a backslash and `u`: one unit, or two that form a surrogate pair. -/
def escapedUnit (cs : List Char) : Except ReadError (Read Char) := do
  let (high, rest) ← unit cs
  if high < 0xd800 ∨ 0xdfff < high then .ok (Char.ofNat high, rest)
  else if 0xdc00 ≤ high then .error .loneSurrogate
  else match rest with
    | '\\' :: 'u' :: rest => do
      let (low, rest) ← unit rest
      if 0xdc00 ≤ low ∧ low ≤ 0xdfff then
        .ok (Char.ofNat (0x10000 + (high - 0xd800) * 0x400 + (low - 0xdc00)), rest)
      else .error .loneSurrogate
    | _ => .error .loneSurrogate

/-- The character after a backslash. -/
def escaped : List Char → Except ReadError (Read Char)
  | [] => .error .unexpectedEnd
  | '"' :: rest => .ok ('"', rest)
  | '\\' :: rest => .ok ('\\', rest)
  | '/' :: rest => .ok ('/', rest)
  | 'b' :: rest => .ok ('\x08', rest)
  | 'f' :: rest => .ok ('\x0c', rest)
  | 'n' :: rest => .ok ('\n', rest)
  | 'r' :: rest => .ok ('\r', rest)
  | 't' :: rest => .ok ('\t', rest)
  | 'u' :: rest => escapedUnit rest
  | _ => .error .badEscape

/-- The characters up to the closing quote, which are fewer than `fuel`. -/
def stringBody : (fuel : Nat) → List Char → Except ReadError (Read (List Char))
  | 0, _ | _, [] => .error .unexpectedEnd
  | fuel + 1, c :: rest =>
    if c = '"' then .ok ([], rest)
    else if c.toNat < 0x20 then .error (.control c)
    else if c = '\\' then do
      let (c, rest) ← escaped rest
      let (cs, rest) ← stringBody fuel rest
      .ok (c :: cs, rest)
    else do
      let (cs, rest) ← stringBody fuel rest
      .ok (c :: cs, rest)

/-- A string, its opening quote consumed already. -/
def stringTail (bound : Nat) (cs : List Char) : Except ReadError (Read String) := do
  let (body, rest) ← stringBody bound cs
  .ok (String.ofList body, rest)

/-! ## Numbers -/

def natOfDigits (cs : List Char) : Nat :=
  cs.foldl (fun n c => 10 * n + (c.toNat - '0'.toNat)) 0

/-- One digit or more. -/
def digits (cs : List Char) : Except ReadError (Read (List Char)) :=
  match cs.takeWhile Char.isDigit with
  | [] => refuse cs
  | ds => .ok (ds, cs.dropWhile Char.isDigit)

/-- The whole part: a zero stands alone. -/
def wholePart (cs : List Char) : Except ReadError (Read (List Char)) := do
  let (ds, rest) ← digits cs
  match ds with
  | '0' :: d :: _ => .error (.unexpected d)
  | _ => .ok (ds, rest)

/-- The places after a point, if there is one. -/
def fractionPart : List Char → Except ReadError (Read (Option (List Char)))
  | '.' :: rest => do
    let (ds, rest) ← digits rest
    .ok (some ds, rest)
  | rest => .ok (none, rest)

/-- A signed power of ten, if there is one. -/
def exponentPart : List Char → Except ReadError (Read (Option Int))
  | c :: rest =>
    if c = 'e' ∨ c = 'E' then
      match rest with
      | '-' :: rest => do
        let (ds, rest) ← digits rest
        .ok (some (-natOfDigits ds), rest)
      | '+' :: rest => do
        let (ds, rest) ← digits rest
        .ok (some (natOfDigits ds), rest)
      | rest => do
        let (ds, rest) ← digits rest
        .ok (some (natOfDigits ds), rest)
    else .ok (none, c :: rest)
  | [] => .ok (none, [])

/-- A number without point and exponent is whole if it has 64 bits and is no negative zero; every
other number is a double. -/
def numberOfParts (negative : Bool) (whole : List Char) (fraction : Option (List Char))
    (exponent : Option Int) : Except ReadError Json :=
  let n : Int := if negative then -(natOfDigits whole : Int) else natOfDigits whole
  if fraction.isNone && exponent.isNone && holdsInt n && !(negative && n == 0) then .ok (.int n)
  else
    let places := fraction.getD []
    let x := Decimal.toDouble negative
      ⟨natOfDigits (whole ++ places), exponent.getD 0 - places.length⟩
    if Double.isFinite x then .ok (.float x) else .error .numberOutOfRange

/-- A number after its sign. -/
def number (negative : Bool) (cs : List Char) : Except ReadError (Read Json) := do
  let (whole, rest) ← wholePart cs
  let (fraction, rest) ← fractionPart rest
  let (exponent, rest) ← exponentPart rest
  let j ← numberOfParts negative whole fraction exponent
  .ok (j, rest)

/-! ## Containers -/

/-- The items of a container up to its closing character, fewer than `fuel`, the first one due
now. -/
def itemsUntil {α : Type} (item : List Char → Except ReadError (Read α)) (close : Char) :
    (fuel : Nat) → List Char → Except ReadError (Read (List α))
  | 0, _ => .error .unexpectedEnd
  | fuel + 1, cs => do
    let (x, rest) ← item cs
    match skipSpace rest with
    | [] => .error .unexpectedEnd
    | c :: rest =>
      if c = ',' then do
        let (xs, rest) ← itemsUntil item close fuel rest
        .ok (x :: xs, rest)
      else if c = close then .ok ([x], rest)
      else .error (.unexpected c)

/-- A container after its opening character. -/
def container {α : Type} (item : List Char → Except ReadError (Read α)) (close : Char)
    (bound : Nat) (cs : List Char) : Except ReadError (Read (List α)) :=
  match skipSpace cs with
  | [] => .error .unexpectedEnd
  | c :: rest => if c = close then .ok ([], rest) else itemsUntil item close bound cs

/-- A key, read after its opening quote, a colon and the value for that key. -/
def memberOf {κ α : Type} (key : List Char → Except ReadError (Read κ))
    (value : κ → List Char → Except ReadError (Read α)) (cs : List Char) :
    Except ReadError (Read (κ × α)) :=
  match skipSpace cs with
  | '"' :: rest => do
    let (k, rest) ← key rest
    match skipSpace rest with
    | ':' :: rest => do
      let (a, rest) ← value k rest
      .ok ((k, a), rest)
    | rest => refuse rest
  | rest => refuse rest

/-- The given word, which stands for the given thing. -/
def word {α : Type} (expected : List Char) (a : α) (cs : List Char) :
    Except ReadError (Read α) :=
  match expected, cs with
  | [], rest => .ok (a, rest)
  | e :: expected, c :: rest => if c = e then word expected a rest else .error (.unexpected c)
  | _ :: _, [] => .error .unexpectedEnd

/-- A value in which containers nest at most `depth` deep; `bound` exceeds the length of the
text. -/
def value (bound depth : Nat) (cs : List Char) : Except ReadError (Read Json) :=
  match skipSpace cs with
  | 'n' :: rest => word ['u', 'l', 'l'] .null rest
  | 't' :: rest => word ['r', 'u', 'e'] (.bool true) rest
  | 'f' :: rest => word ['a', 'l', 's', 'e'] (.bool false) rest
  | '"' :: rest => do
    let (s, rest) ← stringTail bound rest
    .ok (.string s, rest)
  | '-' :: rest => number true rest
  | '[' :: rest =>
    match depth with
    | 0 => .error .tooDeep
    | depth + 1 => do
      let (items, rest) ← container (value bound depth) ']' bound rest
      .ok (.array items, rest)
  | '\x7b' :: rest =>
    match depth with
    | 0 => .error .tooDeep
    | depth + 1 => do
      let member := memberOf (stringTail bound) fun _ => value bound depth
      let (members, rest) ← container member '\x7d' bound rest
      .ok (.object members, rest)
  | rest => number false rest

/-- What a reader makes of a whole text; the reader is told a number that exceeds its length. -/
def whole {α : Type} (reader : Nat → List Char → Except ReadError (Read α)) (s : String) :
    Except ReadError α := do
  let (a, rest) ← reader (s.length + 1) s.toList
  match skipSpace rest with
  | [] => .ok a
  | c :: _ => .error (.unexpected c)

/-- The document a text holds, as written. -/
def read (s : String) : Except ReadError Json :=
  whole (fun bound => value bound maxDepth) s

end CardPress.Json
