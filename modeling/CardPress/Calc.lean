import CardPress.Files.Path
import CardPress.Number.Literal
import CardPress.Number.Machine
import CardPress.Text.Blank
import CardPress.Value.Json
import CardPress.Value.Order
import CardPress.Value.Reading

/-!
# Calculations

The fixed table of operations behind `calc` expressions. Operands arrive fully resolved and every
operation is a pure function of them. `calculate` looks an operation up by name and puts the name
into the fault if its operands do not fit.
-/

namespace CardPress.Calc

abbrev Operation := List Value → Except Fault Value

/-- The longest string, in bytes, or sequence that repeating may build. -/
def maxRepeatedLength : Nat := Nat.pow 2 24

/-- A fault of the operation being applied; `calculate` fills in its name. -/
def fail {α : Type} (cause : CalcFault) : Except Fault α :=
  .error (.calculation "" cause)

/-! ## Operands -/

def arity (args : List Value) (least most : Nat) : Except Fault Unit :=
  if args.length < least ∨ most < args.length then fail (.arity least most args.length) else .ok ()

def unary : List Value → Except Fault Value
  | [a] => .ok a
  | args => fail (.arity 1 1 args.length)

def binary : List Value → Except Fault (Value × Value)
  | [a, b] => .ok (a, b)
  | args => fail (.arity 2 2 args.length)

def number (v : Value) : Except Fault Float :=
  match v.number? with
  | some x => .ok x
  | none => fail (.notNumber v.kind)

def numbers (args : List Value) : Except Fault (Float × Float) := do
  let (a, b) ← binary args
  return (← number a, ← number b)

/-- A whole number, clamped to 64 bits. -/
def integer (v : Value) : Except Fault Int := do
  let x ← number v
  match Double.whole? x with
  | some n => return max Double.leastInt64 (min Double.greatestInt64 n)
  | none => fail (.notInteger x)

/-- A sequence as the only operand stands for its items. -/
def spread : List Value → List Value
  | [.sequence items] => items
  | args => args

/-! ## Arithmetic -/

/-- Strings and sequences are joined, everything else is added as numbers. -/
def add (a b : Value) : Except Fault Value :=
  match a, b with
  | .string x, .string y => .ok (.string (x ++ y))
  | .sequence x, .sequence y => .ok (.sequence (x ++ y))
  | a, b =>
    match a.number?, b.number? with
    | some x, some y => .ok (.number (x + y))
    | _, _ => fail (.cannotAdd a.kind b.kind)

/-- How often something of the given length is to be repeated, with a way to compute products; a
negative count is none. -/
def repetitionsWith (product : Nat → Nat → Option Nat) (length : Nat) (count : Value) :
    Except Fault Nat := do
  let times := (← integer count).toNat
  if length = 0 then return 0
  match product length times with
  | some total => if total ≤ maxRepeatedLength then return times else fail .repetitionTooLarge
  | none => fail .repetitionTooLarge

/-- How often, where the length of the result is computed with 64 bits. -/
def repetitions (length : Nat) (count : Value) : Except Fault Nat :=
  repetitionsWith (Machine.product? 64) length count

def repeatString (s : String) (count : Value) : Except Fault Value := do
  let times ← repetitions s.utf8ByteSize count
  return .string (String.join (List.replicate times s))

def repeatItems (items : List Value) (count : Value) : Except Fault Value := do
  let times ← repetitions items.length count
  return .sequence (List.replicate times items).flatten

/-- Repeats a string or a sequence, whichever side it is on, and multiplies numbers. -/
def multiply (a b : Value) : Except Fault Value :=
  match a, b with
  | .string s, n | n, .string s => repeatString s n
  | .sequence items, n | n, .sequence items => repeatItems items n
  | a, b => return .number ((← number a) * (← number b))

def divisor (x : Float) : Except Fault Float :=
  if Double.isZero x then fail .divisionByZero else .ok x

def divide (args : List Value) : Except Fault Value := do
  let (a, b) ← numbers args
  return .number (a / (← divisor b))

def floorDivide (args : List Value) : Except Fault Value := do
  let (a, b) ← numbers args
  return .number (a / (← divisor b)).floor

/-- The remainder with the sign of the divisor. -/
def modulo (args : List Value) : Except Fault Value := do
  let (a, b) ← numbers args
  let b ← divisor b
  return .number (a - b * (a / b).floor)

/-- The power of ten that rounding to `digits` places scales by: the count is cut to 32 bits. -/
def roundingExponent (digits : Int) : Int :=
  digits.bmod (Nat.pow 2 32)

/-- To a whole number or to a count of places, halves going to even. -/
def round (args : List Value) : Except Fault Value := do
  arity args 1 2
  let x ← number (args.headD .null)
  let digits ← match (args[1]? : Option Value) with
    | none | some .null => pure 0
    | some d => integer d
  let scale := Double.powInt 10.0 (roundingExponent digits)
  return .number (Double.roundEven (x * scale) / scale)

def sum (args : List Value) : Except Fault Value :=
  (spread args).foldlM add (.number 0.0)

/-- The first of the items that compares as `wanted` with all before it. -/
def extreme (wanted : Ordering) (args : List Value) : Except Fault Value :=
  match spread args with
  | [] => fail .noOperands
  | first :: rest =>
    rest.foldlM (fun best item =>
      match Value.compare? item best with
      | none => fail (.cannotCompare item.kind best.kind)
      | some o => .ok (if o = wanted then item else best)) first

/-! ## Containers -/

/-- The place an index names in a container, with a way to keep sums; negative indices count from
the end. The length is taken as a number of 64 bits with sign. -/
def placeWith {m : Type → Type} [Monad m] (keep : Int → m Int) (length : Nat) (index : Int) :
    m (Except Fault Nat) := do
  let count := (Machine.wrapped 64 length).run
  let i ← if index < 0 then keep (count + index) else pure index
  return if i < 0 ∨ count ≤ i then fail (.indexOutOfRange index length) else .ok i.toNat

/-- The place an index names, where sums are not checked. -/
def place (length : Nat) (index : Int) : Except Fault Nat :=
  (placeWith (Machine.wrapped 64) length index).run

def getItem (container key : Value) : Except Fault Value :=
  match container with
  | .sequence items => do
    let i ← place items.length (← integer key)
    return items.getD i .null
  | .string s => do
    let chars := s.toList
    let i ← place chars.length (← integer key)
    return .string (String.ofList ((chars.drop i).take 1))
  | .mapping fields =>
    match key.string? with
    | none => fail (.keyNotString key.kind)
    | some k =>
      match fields.get? k with
      | some v => .ok v
      | none => fail (.keyNotFound k)
  | other => fail (.cannotIndex other.kind)

def dictGet (args : List Value) : Except Fault Value := do
  arity args 2 3
  let fields ← (args.headD .null).readMapping "dict.get"
  let key ← (args.getD 1 .null).readString "dict.get"
  return (fields.get? key).getD (args.getD 2 .null)

/-- Whether one list stands somewhere inside another. -/
def hasInfix (part : List Char) : List Char → Bool
  | [] => part.isEmpty
  | c :: rest => part.isPrefixOf (c :: rest) || hasInfix part rest

def contains (container item : Value) : Except Fault Bool :=
  match container with
  | .sequence items => .ok (items.any fun x => Value.alike x item)
  | .mapping fields => .ok (item.string?.any fields.contains)
  | .string s => return hasInfix (← item.readString "contains").toList s.toList
  | other => fail (.notContainer other.kind)

/-! ## Text -/

/-- The operand a replacement field names, and the index for the next field without a name. -/
def fieldOperand (values : List Value) (next : Nat) (field : List Char) :
    Except Fault (Value × Nat) := do
  let (index, next) ←
    if field.isEmpty then pure (next, next + 1)
    else match Literal.index? (Text.trim (String.ofList field)) with
      | some index => pure (index, next)
      | none => fail (.unsupportedField (String.ofList field))
  match values[index]? with
  | some v => return (v, next)
  | none => fail (.noOperandFor index)

/-- The rest of a template. `field` holds the characters of an open replacement field, last first;
`next` is the index for the next field without a name. Doubled braces stand for themselves. -/
def formatFrom (values : List Value) :
    (field : Option (List Char)) → (next : Nat) → List Char → Except Fault String
  | none, _, [] => .ok ""
  | some _, _, [] => fail .openField
  | none, next, '\x7b' :: '\x7b' :: rest => return "\x7b" ++ (← formatFrom values none next rest)
  | none, next, '\x7d' :: '\x7d' :: rest => return "\x7d" ++ (← formatFrom values none next rest)
  | none, next, '\x7b' :: rest => formatFrom values (some []) next rest
  | none, _, '\x7d' :: _ => fail .loneBrace
  | none, next, c :: rest => return String.singleton c ++ (← formatFrom values none next rest)
  | some field, next, '\x7d' :: rest => do
    let (v, next) ← fieldOperand values next field.reverse
    return v.text ++ (← formatFrom values none next rest)
  | some field, next, c :: rest => formatFrom values (some (c :: field)) next rest

def format (args : List Value) : Except Fault Value :=
  match args with
  | [] => fail .missingFormat
  | template :: values => do
    let template ← template.readString "str.format"
    return .string (← formatFrom values none 0 template.toList)

def joinPath (args : List Value) : Except Fault Value := do
  return .string (Path.join (← args.mapM (Value.readString "path.join")))

/-! ## Conversions -/

/-- A string is read as a whole number, a number loses its fraction. -/
def toInteger (v : Value) : Except Fault Value :=
  match v with
  | .string s =>
    match Literal.integer? (Text.trim s) with
    | some n => .ok (.number (Double.ofInt n))
    | none => fail (.badInteger s)
  | v => return .number (Double.truncate (← number v))

def toNumber (v : Value) : Except Fault Value :=
  match v with
  | .string s =>
    match Literal.double? (Text.trim s) with
    | some x => .ok (.number x)
    | none => fail (.badNumber s)
  | v => return .number (← number v)

def loadJson (v : Value) : Except Fault Value := do
  match Json.read (← v.readString "json.loads") with
  | .ok j => return Value.ofJson j
  | .error e => throw (.json e)

/-! ## The table -/

def ordered (accept : Ordering → Bool) (args : List Value) : Except Fault Value := do
  let (a, b) ← binary args
  match Value.compare? a b with
  | some o => return .bool (accept o)
  | none => fail (.cannotOrder a.kind b.kind)

def onPair (f : Value → Value → Except Fault Value) : Operation := fun args => do
  let (a, b) ← binary args
  f a b

def onNumbers (f : Float → Float → Float) : Operation := fun args => do
  let (a, b) ← numbers args
  return .number (f a b)

def onOne (f : Value → Except Fault Value) : Operation := fun args => do
  f (← unary args)

def choose (args : List Value) : Except Fault Value := do
  arity args 3 3
  return if (args.headD .null).isTruthy then args.getD 1 .null else args.getD 2 .null

/-- All operations, in the order they are listed to users. -/
def operations : List (String × Operation) := [
  ("+", onPair add),
  ("-", onNumbers (· - ·)),
  ("*", onPair multiply),
  ("/", divide),
  ("//", floorDivide),
  ("**", onNumbers Float.pow),
  ("%", modulo),
  ("round", round),
  ("sum", sum),
  ("min", extreme .lt),
  ("max", extreme .gt),
  ("getitem", onPair getItem),
  ("dict.get", dictGet),
  ("str.format", format),
  ("path.join", joinPath),
  ("if", choose),
  ("contains", onPair fun a b => return .bool (← contains a b)),
  ("not", onOne fun a => return .bool !a.isTruthy),
  ("eq", onPair fun a b => return .bool (Value.alike a b)),
  ("ne", onPair fun a b => return .bool !Value.alike a b),
  ("gt", ordered (·.isGT)),
  ("ge", ordered (·.isGE)),
  ("lt", ordered (·.isLT)),
  ("le", ordered (·.isLE)),
  ("int", onOne toInteger),
  ("float", onOne toNumber),
  ("str", onOne fun a => return .string a.text),
  ("and", onPair fun a b => return if a.isTruthy then b else a),
  ("or", onPair fun a b => return if a.isTruthy then a else b),
  ("all", fun args => return .bool ((spread args).all Value.isTruthy)),
  ("any", fun args => return .bool ((spread args).any Value.isTruthy)),
  ("is", onPair fun a b => return .bool (Value.identical a b)),
  ("is_not", onPair fun a b => return .bool !Value.identical a b),
  ("json.dumps", onOne fun a => return .string a.toJson.text),
  ("json.loads", onOne loadJson)]

def names : List String :=
  operations.map (·.1)

def operation? (name : String) : Option Operation :=
  operations.lookup name

/-- Put the operation's name into a fault of its operands. -/
def named (name : String) : Fault → Fault
  | .calculation _ cause => .calculation name cause
  | other => other

/-- Apply the operation with a name to resolved operands. -/
def calculate (name : String) (args : List Value) : Except Fault Value :=
  match operation? name with
  | none => .error (.unknownOperation name)
  | some op => (op args).mapError (named name)

end CardPress.Calc
