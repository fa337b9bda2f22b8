import CardPress.Card.Definition
import CardPress.Files.Store
import CardPress.Pool

/-!
# Decks

The faces of a definitions file. Every labelled face is a template of the deck's pool. `validate`
composes every face without drawing any.
-/

namespace CardPress

/-- Why a definitions file gives no deck. -/
inductive DeckFault where
  | unreadable (path : String) (cause : FileFault)
  | notJson (cause : Json.ReadError)
  | mismatch (cause : CardDefinition.Mismatch)

def DeckFault.message : DeckFault → String
  | .unreadable path cause => "Failed to read definitions " ++ path ++ ": " ++ cause.message
  | .notJson cause => "Invalid definitions: " ++ cause.message
  | .mismatch cause => "Invalid definitions: " ++ cause

structure Deck where
  definitions : List CardDefinition

/-- What composing a face gives, with the error text in place of a composition that fails. -/
structure FaceSummary where
  index : Nat
  label : Option String
  isTemplate : Bool
  templates : List String
  size : Option Size
  steps : Nat
  error : Option String

namespace Deck

/-- Definitions from the text of a file. -/
def parse (text : String) : Except DeckFault Deck := do
  let j ← (Json.readKnown CardDefinition.isField text).mapError .notJson
  return ⟨← (CardDefinition.decodeAll j).mapError .mismatch⟩

def load (files : FileStore) (path : String) : Except DeckFault Deck := do
  let text ← (files.readText path).mapError (.unreadable path)
  parse text

/-- Faces in file order; the serial number of a face is its place. -/
def faces (d : Deck) : List CardFace :=
  d.definitions.zipIdx.map fun (definition, i) => definition.face i

/-- Register the labelled ones of some faces in turn. -/
def registerLabelled (pool : TemplatePool) (faces : List CardFace) : Except Fault TemplatePool :=
  pool.changed ((faces.filter (·.label.isSome)).forM TemplatePool.register)

/-- Every labelled face under its label. -/
def pool (d : Deck) : Except Fault TemplatePool :=
  registerLabelled .empty d.faces

def summary (pool : TemplatePool) (index : Nat) (face : CardFace) : FaceSummary :=
  let blank : FaceSummary := {
    index := index
    label := face.label
    isTemplate := face.isTemplate
    templates := []
    size := none
    steps := 0
    error := none }
  match pool.compose face with
  | .ok c => { blank with
      templates := c.templates.map (·.displayLabel)
      size := c.size
      steps := c.steps.length }
  | .error fault => { blank with error := some fault.message }

/-- Compose every face; a face that fails does not keep the others from being composed. -/
def validate (d : Deck) : Except Fault (List FaceSummary) := do
  let pool ← d.pool
  return d.faces.zipIdx.map fun (face, i) => summary pool i face

end Deck

end CardPress
