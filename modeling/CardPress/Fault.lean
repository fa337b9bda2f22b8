import CardPress.Font.Face
import CardPress.Json.Reader
import CardPress.Text.Quoted
import CardPress.Value

/-!
# Faults

Everything that can go wrong while a face is drawn, as causes; `Fault.message` is the wording. A
fault inside a step is wrapped in `Fault.step`, which names the face and the step;
`Fault.rootCause` looks through the wrappers.
-/

namespace CardPress

/-- Why an operation of a calculation does not apply to its operands. -/
inductive CalcFault where
  | arity (least most got : Nat)
  | notNumber (found : Value.Kind)
  | notInteger (x : Float)
  | cannotAdd (left right : Value.Kind)
  | repetitionTooLarge
  | divisionByZero
  | noOperands
  | cannotCompare (left right : Value.Kind)
  | cannotOrder (left right : Value.Kind)
  | indexOutOfRange (index : Int) (length : Nat)
  | keyNotString (found : Value.Kind)
  | keyNotFound (key : String)
  | cannotIndex (found : Value.Kind)
  | notContainer (found : Value.Kind)
  | missingFormat
  | openField
  | unsupportedField (field : String)
  | noOperandFor (index : Nat)
  | loneBrace
  | badInteger (text : String)
  | badNumber (text : String)
  | described (text : String)

namespace CalcFault

def message : CalcFault → String
  | .arity least most got =>
    let expected := if least = most then toString least else s!"{least} to {most}"
    s!"expected {expected} arguments, got {got}"
  | .notNumber found => "expected a number, got " ++ found.name
  | .notInteger x => "expected an integer, got " ++ Double.text x
  | .cannotAdd left right => "cannot add " ++ left.name ++ " and " ++ right.name
  | .repetitionTooLarge => "repetition too large"
  | .divisionByZero => "division by zero"
  | .noOperands => "empty argument list"
  | .cannotCompare left right => "cannot compare " ++ left.name ++ " with " ++ right.name
  | .cannotOrder left right => "cannot order " ++ left.name ++ " and " ++ right.name
  | .indexOutOfRange index length => s!"index {index} out of range for length {length}"
  | .keyNotString found => "mapping keys are strings, got " ++ found.name
  | .keyNotFound key => "key not found: " ++ key
  | .cannotIndex found => "cannot index into " ++ found.name
  | .notContainer found => found.name ++ " is not a container"
  | .missingFormat => "missing format string"
  | .openField => "unterminated replacement field"
  | .unsupportedField field => "unsupported replacement field: \x7b" ++ field ++ "\x7d"
  | .noOperandFor index => s!"no argument for replacement field {index}"
  | .loneBrace => "single '\x7d' in format string"
  | .badInteger text => "invalid integer literal: " ++ Text.quoted text
  | .badNumber text => "invalid number literal: " ++ Text.quoted text
  | .described text => text

end CalcFault

/-- Why the file store refuses. -/
inductive FileFault where
  | notFound
  | isDirectory
  | notDirectory
  | notText
  | alreadyExists
  | other (text : String)
  deriving DecidableEq, Repr

def FileFault.message : FileFault → String
  | .notFound => "no such file or directory"
  | .isDirectory => "is a directory"
  | .notDirectory => "not a directory"
  | .notText => "not valid UTF-8"
  | .alreadyExists => "already exists"
  | .other text => text

/-- Why an image cannot be read or written. -/
inductive ImageFault where
  | file (fault : FileFault)
  | unknownFormat
  | cannotWrite
  | damaged
  | other (text : String)
  deriving DecidableEq, Repr

def ImageFault.message : ImageFault → String
  | .file fault => fault.message
  | .unknownFormat => "image format not known"
  | .cannotWrite => "image cannot be written in this format"
  | .damaged => "damaged image"
  | .other text => text

inductive Fault where
  | unknownExpression (kind : String)
  | missingParameter (context parameter : String)
  | invalidParameter (parameter expected found : String)
  | resolutionOverflow (limit : Nat)
  | templateCycle (chain : List String)
  | duplicateLabel (label : String)
  | unknownTemplate (label : String)
  | unlabelledTemplate
  | duplicateRegistration (registry tag : String)
  | unknownStep (kind : String)
  | keyConflict (key : String) (isGlobal : Bool)
  | keyMissing (key : String) (isGlobal : Bool)
  | unknownWriteMode (name : String)
  | calculation (operation : String) (cause : CalcFault)
  | unknownOperation (name : String)
  | image (cause : ImageFault)
  | font (path : String) (cause : Font.FaceError)
  | file (cause : FileFault)
  | json (cause : Json.ReadError)
  | step (face : Option String) (index : Nat) (kind : String) (source : Fault)

instance : Inhabited Fault := ⟨.unlabelledTemplate⟩

/-- The label shown for a face without one. -/
def unlabelled : String := "<unlabelled>"

namespace Fault

def cacheName (isGlobal : Bool) : String :=
  if isGlobal then "global" else "local"

def message : Fault → String
  | .unknownExpression kind => "Unknown deferred value kind: " ++ kind
  | .missingParameter context parameter =>
    "Missing required parameter '" ++ parameter ++ "' for " ++ context
  | .invalidParameter parameter expected found =>
    "Invalid parameter '" ++ parameter ++ "': expected " ++ expected ++ ", found " ++ found
  | .resolutionOverflow limit => s!"Deferred value did not resolve within {limit} steps"
  | .templateCycle chain => "Template cycle detected: " ++ " -> ".intercalate chain
  | .duplicateLabel label => "Duplicate template label: " ++ label
  | .unknownTemplate label => "Template not found: " ++ label
  | .unlabelledTemplate => "Cannot register a card face without a label as a template"
  | .duplicateRegistration registry tag =>
    "Duplicate " ++ registry ++ " registration for tag: " ++ tag
  | .unknownStep kind => "Unknown step kind: " ++ kind
  | .keyConflict key isGlobal =>
    "Key already exists in " ++ cacheName isGlobal ++ " cache: " ++ key
  | .keyMissing key isGlobal => "Key not found in " ++ cacheName isGlobal ++ " cache: " ++ key
  | .unknownWriteMode name => "Unrecognised cache write mode: " ++ name
  | .calculation operation cause => "Calculation '" ++ operation ++ "' failed: " ++ cause.message
  | .unknownOperation name => "Unknown calculation: " ++ name
  | .image cause => "Image error: " ++ cause.message
  | .font path cause => "Failed to load font " ++ path ++ ": " ++ cause.message
  | .file cause => "IO error: " ++ cause.message
  | .json cause => "JSON error: " ++ cause.message
  | .step face index kind source =>
    "Step " ++ toString index ++ " (" ++ kind ++ ") of card face '" ++ face.getD unlabelled ++
      "' failed: " ++ source.message

/-- The innermost fault. -/
def rootCause : Fault → Fault
  | .step _ _ _ source => source.rootCause
  | other => other

end Fault

end CardPress
