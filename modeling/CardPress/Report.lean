import CardPress.Deck
import CardPress.Press

/-!
# Reports

Drawing a whole deck: every face that is neither a template nor left out is drawn in turn, in one
run with one global cache, and a face that fails does not stop the others. The report tells what
became of each.
-/

namespace CardPress

def engineVersion : String := "1.0.0"

inductive FaceOutcome where
  | rendered (width height : Nat)
  /-- It has no size, neither its own nor an inherited one. -/
  | unrenderable
  | cancelled
  /-- A template, or marked to be left out. -/
  | skipped
  | failed (error : String)
  deriving DecidableEq, Repr

structure FaceReport where
  index : Nat
  label : Option String
  definitionHash : String
  outcome : FaceOutcome

structure Report where
  definitionsHash : String
  faces : List FaceReport

namespace FaceOutcome

def isFailed : FaceOutcome → Bool
  | failed _ => true
  | _ => false

/-- The name of the outcome and what belongs to it. -/
def members : FaceOutcome → List (String × Json)
  | rendered width height =>
    [("status", .string "rendered"), ("width", .int width), ("height", .int height)]
  | unrenderable => [("status", .string "unrenderable")]
  | cancelled => [("status", .string "cancelled")]
  | skipped => [("status", .string "skipped")]
  | failed error => [("status", .string "failed"), ("error", .string error)]

end FaceOutcome

/-- A text or null. -/
def Json.ofText? (s : Option String) : Json :=
  (s.map Json.string).getD .null

def Size.toJson? (s : Option Size) : Json :=
  match s with
  | some s => .array [.int s.width, .int s.height]
  | none => .null

def FaceReport.toJson (r : FaceReport) : Json :=
  .object <| [
    ("index", .int r.index),
    ("label", .ofText? r.label),
    ("definition_hash", .string r.definitionHash)] ++ r.outcome.members

def FaceSummary.toJson (s : FaceSummary) : Json :=
  .object <| [
    ("index", .int s.index),
    ("label", .ofText? s.label),
    ("is_template", .bool s.isTemplate),
    ("templates", .array (s.templates.map .string)),
    ("size", Size.toJson? s.size),
    ("steps", .int s.steps)] ++ (s.error.map fun e => ("error", Json.string e)).toList

namespace Report

/-- Places of the faces that failed. -/
def failures (r : Report) : List Nat :=
  (r.faces.filter (·.outcome.isFailed)).map (·.index)

def isSuccess (r : Report) : Bool :=
  r.failures.isEmpty

/-- The report of a run with some name and times. -/
def toJson (r : Report) (runId startedAt finishedAt : String) : Json :=
  .object [
    ("run_id", .string runId),
    ("engine_version", .string engineVersion),
    ("started_at", .string startedAt),
    ("finished_at", .string finishedAt),
    ("definitions_hash", .string r.definitionsHash),
    ("faces", .array (r.faces.map FaceReport.toJson))]

end Report

namespace Press

/-- Draw a face and say what became of it. One that cannot be composed, or has no size, is not
begun. -/
def outcome (press : Press) (face : CardFace) (run : Run) : FaceOutcome × Run :=
  match press.pool.compose face with
  | .error fault => (.failed fault.message, run)
  | .ok composition =>
    if composition.size.isNone then (.unrenderable, run)
    else
      match press.generate face run with
      | (.ok (some image), run) => (.rendered image.canvas.width image.canvas.height, run)
      | (.ok none, run) => (.cancelled, run)
      | (.error fault, run) => (.failed fault.message, run)

/-- The report on one face of a deck. -/
def reportFace (press : Press) (definition : CardDefinition) (face : CardFace) (index : Nat)
    (run : Run) : FaceReport × Run :=
  let (outcome, run) :=
    if face.isTemplate || face.skipsGeneration then (.skipped, run) else press.outcome face run
  let run := match outcome with
    | .failed error => run.record ⟨.error, "Card face failed", [
        ("index", toString index), ("label", face.displayLabel), ("error", error)]⟩
    | _ => run
  (⟨index, face.label, definition.hash, outcome⟩, run)

/-- Reports on faces in turn. -/
def reportFaces (press : Press) : List ((CardDefinition × CardFace) × Nat) → Run →
    List FaceReport × Run
  | [], run => ([], run)
  | ((definition, face), index) :: rest, run =>
    let (report, run) := press.reportFace definition face index run
    let (reports, run) := press.reportFaces rest run
    (report :: reports, run)

end Press

namespace Deck

/-- Draw all faces. There is no report if the deck has no pool. -/
def generateAll (d : Deck) (capabilities : Capabilities) (config : Config) (run : Run) :
    Except Fault Report × Run :=
  match d.pool with
  | .error fault => (.error fault, run)
  | .ok pool =>
    let press : Press := ⟨capabilities, pool, config⟩
    let run := run.record ⟨.info, "Starting generation run", [("faces", toString d.faces.length)]⟩
    let (faces, run) := press.reportFaces (d.definitions.zip d.faces).zipIdx run
    let report : Report := ⟨CardDefinition.hashAll d.definitions, faces⟩
    let run := run.record ⟨.info, "Generation run finished", [
      ("failures", toString report.failures.length)]⟩
    (.ok report, run)

end Deck

end CardPress
