import CardPress.Json.Reader
import CardPress.Number.Literal
import CardPress.Toml.Layout

/-!
# Reading TOML

TOML 1.0. As for JSON, the readers take a list of characters and hand back what they did not
consume.
-/

namespace CardPress.Toml

inductive ReadError where
  | unexpectedEnd
  | unexpected (c : Char)
  | badEscape
  | outOfRange
  | tooDeep
  | conflict (cause : Layout.Conflict)
  deriving DecidableEq, Repr

def ReadError.message : ReadError → String
  | .unexpectedEnd => "unexpected end of text"
  | .unexpected c => "unexpected character " ++ String.singleton c
  | .badEscape => "invalid escape"
  | .outOfRange => "value out of range"
  | .tooDeep => "nested too deeply"
  | .conflict (.duplicateKey key) => "duplicate key " ++ key
  | .conflict (.notTable key) => "not a table: " ++ key

abbrev Read (α : Type) := α × List Char

def refuse {α : Type} : List Char → Except ReadError α
  | [] => .error .unexpectedEnd
  | c :: _ => .error (.unexpected c)

/-! ## Blanks and comments -/

def isSpace (c : Char) : Bool :=
  c = ' ' || c = '\t'

def skipSpace (cs : List Char) : List Char :=
  cs.dropWhile isSpace

/-- Characters of comments and literal text: no control but the tabulator. -/
def isPlain (c : Char) : Bool :=
  c = '\t' || (0x20 ≤ c.toNat && c.toNat ≠ 0x7f)

/-- A comment, if one starts here. -/
def skipComment : List Char → List Char
  | '#' :: rest => rest.dropWhile isPlain
  | cs => cs

/-- The text after a line end. -/
def lineEnd? : List Char → Option (List Char)
  | '\n' :: rest => some rest
  | '\r' :: '\n' :: rest => some rest
  | _ => none

/-- Blanks, comments and line ends; `fuel` bounds their number. -/
def skipLines : (fuel : Nat) → List Char → List Char
  | 0, cs => cs
  | fuel + 1, cs =>
    let cs := skipComment (skipSpace cs)
    match lineEnd? cs with
    | some rest => skipLines fuel rest
    | none => cs

def skipAll (cs : List Char) : List Char :=
  skipLines (cs.length + 1) cs

/-- What may follow an expression on its line. -/
def endOfLine (cs : List Char) : Except ReadError (List Char) :=
  match skipComment (skipSpace cs) with
  | [] => .ok []
  | cs =>
    match lineEnd? cs with
    | some rest => .ok rest
    | none => refuse cs

/-! ## Strings -/

/-- The value of hexadecimal digits, exactly `count` of them. -/
def hexNumber (count : Nat) (cs : List Char) : Except ReadError (Read Nat) :=
  let ds := cs.take count
  if ds.length = count ∧ ds.all (fun c => (Json.hexDigit? c).isSome) then
    .ok (ds.foldl (fun n c => n * 16 + (Json.hexDigit? c).getD 0) 0, cs.drop count)
  else .error .badEscape

def scalar (count : Nat) (cs : List Char) : Except ReadError (Read Char) := do
  let (n, rest) ← hexNumber count cs
  if n < 0xd800 ∨ (0xe000 ≤ n ∧ n ≤ 0x10ffff) then .ok (Char.ofNat n, rest)
  else .error .badEscape

/-- The character after a backslash. -/
def escaped : List Char → Except ReadError (Read Char)
  | 'b' :: rest => .ok ('\x08', rest)
  | 't' :: rest => .ok ('\t', rest)
  | 'n' :: rest => .ok ('\n', rest)
  | 'f' :: rest => .ok ('\x0c', rest)
  | 'r' :: rest => .ok ('\r', rest)
  | '"' :: rest => .ok ('"', rest)
  | '\\' :: rest => .ok ('\\', rest)
  | 'u' :: rest => scalar 4 rest
  | 'U' :: rest => scalar 8 rest
  | [] => .error .unexpectedEnd
  | _ => .error .badEscape

/-- The rest of a string with escapes. -/
def basicBody : (fuel : Nat) → List Char → Except ReadError (Read (List Char))
  | 0, _ | _, [] => .error .unexpectedEnd
  | fuel + 1, c :: rest =>
    if c = '"' then .ok ([], rest)
    else if c = '\\' then do
      let (c, rest) ← escaped rest
      let (cs, rest) ← basicBody fuel rest
      .ok (c :: cs, rest)
    else if isPlain c then do
      let (cs, rest) ← basicBody fuel rest
      .ok (c :: cs, rest)
    else .error (.unexpected c)

/-- The rest of a string without escapes. -/
def literalBody : List Char → Except ReadError (Read (List Char))
  | [] => .error .unexpectedEnd
  | c :: rest =>
    if c = '\'' then .ok ([], rest)
    else if isPlain c then do
      let (cs, rest) ← literalBody rest
      .ok (c :: cs, rest)
    else .error (.unexpected c)

/-- The text after blanks and line ends. -/
def skipBlankLines : List Char → List Char
  | '\r' :: '\n' :: rest => skipBlankLines rest
  | c :: rest => if isSpace c || c = '\n' then skipBlankLines rest else c :: rest
  | [] => []

/-- A backslash before a line end swallows all blanks and line ends up to the next character. -/
def continuation? (cs : List Char) : Option (List Char) :=
  (lineEnd? (skipSpace cs)).map skipBlankLines

/-- Three quotes end the text; up to two more before them belong to it. -/
def closing? (quote : Char) (cs : List Char) : Option (Nat × List Char) :=
  let count := (cs.takeWhile (· = quote)).length
  if 3 ≤ count then
    let extra := min 2 (count - 3)
    some (extra, cs.drop (3 + extra))
  else none

/-- The rest of a text of several lines. Line ends are unified. -/
def linesBody (quote : Char) (escapes : Bool) :
    (fuel : Nat) → List Char → Except ReadError (Read (List Char))
  | 0, _ | _, [] => .error .unexpectedEnd
  | fuel + 1, c :: rest => do
    if c = quote then
      match closing? quote (c :: rest) with
      | some (extra, rest) => .ok (List.replicate extra quote, rest)
      | none =>
        let (cs, rest) ← linesBody quote escapes fuel rest
        .ok (c :: cs, rest)
    else if c = '\\' ∧ escapes then
      match continuation? rest with
      | some rest => linesBody quote escapes fuel rest
      | none =>
        let (c, rest) ← escaped rest
        let (cs, rest) ← linesBody quote escapes fuel rest
        .ok (c :: cs, rest)
    else
      match lineEnd? (c :: rest) with
      | some rest =>
        let (cs, rest) ← linesBody quote escapes fuel rest
        .ok ('\n' :: cs, rest)
      | none =>
        if isPlain c then
          let (cs, rest) ← linesBody quote escapes fuel rest
          .ok (c :: cs, rest)
        else .error (.unexpected c)

/-- A line end right after the opening quotes does not count. -/
def dropFirstLineEnd (cs : List Char) : List Char :=
  (lineEnd? cs).getD cs

def stringValue (cs : List Char) : Except ReadError (Read String) := do
  let (body, rest) ← match cs with
    | '"' :: '"' :: '"' :: rest => linesBody '"' true (rest.length + 1) (dropFirstLineEnd rest)
    | '\'' :: '\'' :: '\'' :: rest =>
      linesBody '\'' false (rest.length + 1) (dropFirstLineEnd rest)
    | '"' :: rest => basicBody (rest.length + 1) rest
    | '\'' :: rest => literalBody rest
    | cs => refuse cs
  .ok (String.ofList body, rest)

/-! ## Keys -/

def isBare (c : Char) : Bool :=
  c.isAlphanum || c = '_' || c = '-'

def simpleKey (cs : List Char) : Except ReadError (Read String) :=
  match cs with
  | '"' :: rest => do
    let (body, rest) ← basicBody (rest.length + 1) rest
    .ok (String.ofList body, rest)
  | '\'' :: rest => do
    let (body, rest) ← literalBody rest
    .ok (String.ofList body, rest)
  | cs =>
    match cs.takeWhile isBare with
    | [] => refuse cs
    | bare => .ok (String.ofList bare, cs.dropWhile isBare)

/-- Keys joined by points. -/
def keyPath : (fuel : Nat) → List Char → Except ReadError (Read (List String))
  | 0, _ => .error .unexpectedEnd
  | fuel + 1, cs => do
    let (key, rest) ← simpleKey (skipSpace cs)
    match skipSpace rest with
    | '.' :: rest => do
      let (keys, rest) ← keyPath fuel rest
      .ok (key :: keys, rest)
    | rest => .ok ([key], rest)

/-- How deep containers and key paths may go. -/
def maxDepth : Nat := 79

/-- A path split into the tables on the way and the last key. -/
def dottedKey (cs : List Char) : Except ReadError (Read (List String × String)) := do
  let (keys, rest) ← keyPath (cs.length + 1) cs
  if maxDepth < keys.length then .error .tooDeep
  else .ok ((keys.dropLast, keys.getLastD ""), rest)

/-! ## Dates and times -/

/-- Exactly `count` decimal digits. -/
def fixedNumber? (count : Nat) (cs : List Char) : Option (Read Nat) :=
  let ds := cs.take count
  if ds.length = count ∧ ds.all Char.isDigit then
    some (Literal.digitsValue ds, cs.drop count)
  else none

def expectChar? (c : Char) : List Char → Option (List Char)
  | d :: rest => if d = c then some rest else none
  | [] => none

def twoDigits (n : Nat) : String :=
  (if n < 10 then "0" else "") ++ toString n

def daysIn (year month : Nat) : Nat :=
  if month = 2 then if year % 4 = 0 ∧ (year % 100 ≠ 0 ∨ year % 400 = 0) then 29 else 28
  else if [4, 6, 9, 11].contains month then 30
  else 31

def date? (cs : List Char) : Option (Read String) := do
  let (year, rest) ← fixedNumber? 4 cs
  let (month, rest) ← fixedNumber? 2 (← expectChar? '-' rest)
  let (day, rest) ← fixedNumber? 2 (← expectChar? '-' rest)
  if 1 ≤ month ∧ month ≤ 12 ∧ 1 ≤ day ∧ day ≤ daysIn year month then
    return (String.ofList (cs.take 4) ++ "-" ++ twoDigits month ++ "-" ++ twoDigits day, rest)
  else none

/-- Parts of a second, up to nine places and without trailing zeros. -/
def secondsFraction? : List Char → Option (Read String)
  | '.' :: rest =>
    match rest.takeWhile Char.isDigit with
    | [] => none
    | ds =>
      let places := ((ds.take 9).reverse.dropWhile (· = '0')).reverse
      some (if places.isEmpty then "" else "." ++ String.ofList places, rest.dropWhile Char.isDigit)
  | cs => some ("", cs)

def time? (cs : List Char) : Option (Read String) := do
  let (hour, rest) ← fixedNumber? 2 cs
  let (minute, rest) ← fixedNumber? 2 (← expectChar? ':' rest)
  let (second, rest) ← fixedNumber? 2 (← expectChar? ':' rest)
  let (fraction, rest) ← secondsFraction? rest
  if hour ≤ 23 ∧ minute ≤ 59 ∧ second ≤ 60 then
    return (twoDigits hour ++ ":" ++ twoDigits minute ++ ":" ++ twoDigits second ++ fraction, rest)
  else none

def offset? : List Char → Option (Read String)
  | 'Z' :: rest | 'z' :: rest => some ("Z", rest)
  | sign :: rest =>
    if sign = '+' ∨ sign = '-' then do
      let (hour, rest) ← fixedNumber? 2 rest
      let (minute, rest) ← fixedNumber? 2 (← expectChar? ':' rest)
      let sign := if hour = 0 ∧ minute = 0 then '+' else sign
      if hour ≤ 23 ∧ minute ≤ 59 then
        return (String.singleton sign ++ twoDigits hour ++ ":" ++ twoDigits minute, rest)
      else none
    else some ("", sign :: rest)
  | [] => some ("", [])

/-- A date, a time, or a date and a time with or without an offset. -/
def datetime? (cs : List Char) : Option (Read String) :=
  match date? cs with
  | none => time? cs
  | some (date, rest) =>
    let timed := match rest with
      | c :: rest =>
        if c = 'T' ∨ c = 't' ∨ c = ' ' then do
          let (time, rest) ← time? rest
          let (offset, rest) ← offset? rest
          return (date ++ "T" ++ time ++ offset, rest)
        else none
      | [] => none
    match timed with
    | some r => some r
    | none => some (date, rest)

/-! ## Numbers -/

/-- Digits with single underscores between them. -/
def groupedDigits? (isDigit : Char → Bool) : List Char → Option (Read (List Char))
  | [] => none
  | c :: rest =>
    if isDigit c then
      match rest with
      | '_' :: next =>
        match groupedDigits? isDigit next with
        | some (ds, rest) => some (c :: ds, rest)
        | none => none
      | next =>
        match groupedDigits? isDigit next with
        | some (ds, rest) => some (c :: ds, rest)
        | none => some ([c], next)
    else none

/-- Whole digits without a leading zero. -/
def wholeDigits? (cs : List Char) : Option (Read (List Char)) := do
  let (ds, rest) ← groupedDigits? Char.isDigit cs
  match ds with
  | '0' :: _ :: _ => none
  | ds => return (ds, rest)

def radixInteger? (radix : Nat) (cs : List Char) : Option (Read Nat) := do
  let digit (c : Char) : Bool := match Json.hexDigit? c with
    | some n => n < radix
    | none => false
  let (ds, rest) ← groupedDigits? digit cs
  return (ds.foldl (fun n c => n * radix + (Json.hexDigit? c).getD 0) 0, rest)

def smallInteger (n : Int) (rest : List Char) : Except ReadError (Read Toml) :=
  if Double.leastInt64 ≤ n ∧ n ≤ Double.greatestInt64 then .ok (.integer n, rest)
  else .error .outOfRange

def exponentDigits? : List Char → Option (Read (Option Int))
  | c :: rest =>
    if c = 'e' ∨ c = 'E' then do
      let (negative, rest) := Literal.splitSign rest
      let (ds, rest) ← groupedDigits? Char.isDigit rest
      let n : Int := Literal.digitsValue ds
      return (some (if negative then -n else n), rest)
    else some (none, c :: rest)
  | [] => some (none, [])

/-- A number after its sign. -/
def numberBody (negative : Bool) (cs : List Char) : Except ReadError (Read Toml) :=
  match cs with
  | 'i' :: 'n' :: 'f' :: rest =>
    .ok (.float (Double.ofMagnitude negative Double.infiniteMagnitude), rest)
  | 'n' :: 'a' :: 'n' :: rest => .ok (.float Double.nan, rest)
  | cs =>
    match wholeDigits? cs with
    | none => refuse cs
    | some (whole, rest) =>
      let fraction? : Option (Read (Option (List Char))) := match rest with
        | '.' :: places => (groupedDigits? Char.isDigit places).map fun (ds, rest) =>
            (some ds, rest)
        | rest => some (none, rest)
      match fraction? with
      | none => refuse rest
      | some (fraction, rest) =>
        match exponentDigits? rest with
        | none => refuse rest
        | some (exponent, rest) =>
          if fraction.isNone && exponent.isNone then
            let n : Int := Literal.digitsValue whole
            smallInteger (if negative then -n else n) rest
          else
            let places := fraction.getD []
            let x := Decimal.toDouble negative
              ⟨Literal.digitsValue (whole ++ places), exponent.getD 0 - places.length⟩
            if !negative && !Double.isFinite x then .error .outOfRange else .ok (.float x, rest)

def numberValue (cs : List Char) : Except ReadError (Read Toml) :=
  let radix (n : Nat) (digits : List Char) : Except ReadError (Read Toml) :=
    match radixInteger? n digits with
    | some (n, rest) => smallInteger n rest
    | none => refuse digits
  match cs with
  | '0' :: 'x' :: rest => radix 16 rest
  | '0' :: 'o' :: rest => radix 8 rest
  | '0' :: 'b' :: rest => radix 2 rest
  | cs =>
    let (negative, body) := Literal.splitSign cs
    numberBody negative body

/-! ## Values -/

/-- The items of an array, the first one due now or the end. -/
def arrayItems (item : List Char → Except ReadError (Read Toml)) :
    (fuel : Nat) → List Char → Except ReadError (Read (List Toml))
  | 0, _ => .error .unexpectedEnd
  | fuel + 1, cs =>
    match skipAll cs with
    | ']' :: rest => .ok ([], rest)
    | cs => do
      let (v, rest) ← item cs
      match skipAll rest with
      | ',' :: rest => do
        let (vs, rest) ← arrayItems item fuel rest
        .ok (v :: vs, rest)
      | ']' :: rest => .ok ([v], rest)
      | rest => refuse rest

/-- The pairs of an inline table, one due now. -/
def inlinePairs (item : List Char → Except ReadError (Read Toml)) :
    (fuel : Nat) → Layout → List Char → Except ReadError (Read Layout)
  | 0, _, _ => .error .unexpectedEnd
  | fuel + 1, pairs, cs => do
    let ((keys, key), rest) ← dottedKey cs
    match rest with
    | '=' :: rest => do
      let (v, rest) ← item (skipSpace rest)
      let pairs ← (Layout.assign [] keys key v pairs).mapError .conflict
      match skipSpace rest with
      | ',' :: rest => inlinePairs item fuel pairs rest
      | '\x7d' :: rest => .ok (pairs, rest)
      | rest => refuse rest
    | rest => refuse rest

def word (expected : List Char) (v : Toml) (cs : List Char) : Except ReadError (Read Toml) :=
  if expected.isPrefixOf cs then .ok (v, cs.drop expected.length) else refuse cs

/-- A value in which containers nest at most `depth` deep. -/
def value (depth : Nat) (cs : List Char) : Except ReadError (Read Toml) :=
  match cs with
  | '"' :: _ | '\'' :: _ => do
    let (s, rest) ← stringValue cs
    .ok (.string s, rest)
  | '[' :: rest =>
    match depth with
    | 0 => .error .tooDeep
    | depth + 1 => do
      let (items, rest) ← arrayItems (value depth) (rest.length + 1) rest
      .ok (.array items, rest)
  | '\x7b' :: rest =>
    match depth with
    | 0 => .error .tooDeep
    | depth + 1 =>
      match skipSpace rest with
      | '\x7d' :: rest => .ok (.table [], rest)
      | rest => do
        let (pairs, rest) ← inlinePairs (value depth) (rest.length + 1) (.table false false []) rest
        .ok (pairs.finish, rest)
  | 't' :: _ => word ['t', 'r', 'u', 'e'] (.boolean true) cs
  | 'f' :: _ => word ['f', 'a', 'l', 's', 'e'] (.boolean false) cs
  | cs =>
    match datetime? cs with
    | some (text, rest) => .ok (.datetime text, rest)
    | none => numberValue cs

/-! ## Documents -/

/-- A document so far: the tree and the table whose keys are being read. -/
structure Document where
  root : Layout
  place : List String

/-- One expression: a header or a key with its value. -/
def expression (d : Document) (cs : List Char) : Except ReadError (Read Document) :=
  match cs with
  | '[' :: '[' :: rest => do
    let ((parents, key), rest) ← dottedKey rest
    match rest with
    | ']' :: ']' :: rest => do
      let root ← (Layout.openElement parents key d.root).mapError .conflict
      .ok (⟨root, parents ++ [key]⟩, rest)
    | rest => refuse rest
  | '[' :: rest => do
    let ((parents, key), rest) ← dottedKey rest
    match rest with
    | ']' :: rest => do
      let root ← (Layout.openTable parents key d.root).mapError .conflict
      .ok (⟨root, parents ++ [key]⟩, rest)
    | rest => refuse rest
  | cs => do
    let ((keys, key), rest) ← dottedKey cs
    match rest with
    | '=' :: rest => do
      let (v, rest) ← value maxDepth (skipSpace rest)
      let root ← (Layout.assign d.place keys key v d.root).mapError .conflict
      .ok (⟨root, d.place⟩, rest)
    | rest => refuse rest

/-- The expressions of a document, each on lines of its own. -/
def expressions : (fuel : Nat) → Document → List Char → Except ReadError Document
  | 0, _, _ => .error .unexpectedEnd
  | fuel + 1, d, cs =>
    match skipAll cs with
    | [] => .ok d
    | cs => do
      let (d, rest) ← expression d cs
      expressions fuel d (← endOfLine rest)

/-- The root table of a text. -/
def read (s : String) : Except ReadError Toml := do
  let cs := match s.toList with
    | '\ufeff' :: rest => rest
    | cs => cs
  let d ← expressions (cs.length + 1) ⟨.table false false [], []⟩ cs
  return d.root.finish

end CardPress.Toml
