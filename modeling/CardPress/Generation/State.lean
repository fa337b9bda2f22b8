import CardPress.ImageFile

/-!
# The state of a generation

Drawing a face reads and changes a state of two parts: the run, which all faces drawn together
share, and the draft, which belongs to the face being drawn and is gone with it. A fault ends the
drawing but not the changes made before.

A draft also has a counter for how deep resolving is nested, and a state has the drafts of the faces
around. They are kept when a face is drawn in cells (`Press.drawInCells`); drawing as it is here
goes by the levels that are left and gets along without them.
-/

namespace CardPress

inductive Level where
  | debug | info | warn | error
  deriving DecidableEq, Repr

/-- A message with named texts. -/
structure LogEntry where
  level : Level
  message : String
  fields : List (String × String)

structure Run where
  globalCache : Mapping
  files : FileStore
  /-- Above all stamps in use. -/
  nextStamp : Nat
  log : Array LogEntry

structure Draft where
  cache : Mapping
  /-- The canvas that the running step works on; nothing before the first step runs. -/
  working : Option Image
  /-- How many values are being resolved within one another. -/
  depth : Nat

namespace Generation

structure State where
  run : Run
  draft : Draft
  /-- The drafts of the faces on whose behalf this one is drawn, innermost first. -/
  around : List Draft

/-- The state in which a face begins to be drawn: its draft starts from the global cache. -/
def State.fresh (run : Run) : State :=
  ⟨run, ⟨run.globalCache, none, 0⟩, []⟩

end Generation

/-- Something done while a face is drawn. -/
abbrev Generation := EStateM Fault Generation.State

namespace Run

/-- A run that begins with some files and a global cache. -/
def start (files : FileStore) (globalCache : Mapping) : Run where
  globalCache := globalCache
  files := files
  nextStamp := (Value.mapping globalCache).greatestStamp + 1
  log := #[]

def record (r : Run) (entry : LogEntry) : Run :=
  { r with log := r.log.push entry }

/-- Do something that begins with an empty draft. Of the run before, only its global cache, its
files and its log have a part in what comes out. -/
def perform {α : Type} (r : Run) (x : Generation α) : Except Fault α × Run :=
  let r := { r with nextStamp := (Value.mapping r.globalCache).greatestStamp + 1 }
  match x ⟨r, ⟨∅, none, 0⟩, []⟩ with
  | .ok a s => (.ok a, s.run)
  | .error fault s => (.error fault, s.run)

end Run

namespace Generation

def ofExcept {α : Type} : Except Fault α → Generation α
  | .ok a => pure a
  | .error fault => throw fault

instance : MonadLift (Except Fault) Generation := ⟨ofExcept⟩

def modifyRun (f : Run → Run) : Generation Unit :=
  modify fun s => { s with run := f s.run }

def modifyDraft (f : Draft → Draft) : Generation Unit :=
  modify fun s => { s with draft := f s.draft }

def log (level : Level) (message : String) (fields : List (String × String)) : Generation Unit :=
  modifyRun fun r => r.record ⟨level, message, fields⟩

def info (message : String) (fields : List (String × String)) : Generation Unit :=
  log .info message fields

/-- A stamp that no handle has. -/
def freshStamp : Generation Nat :=
  modifyGet fun s => (s.run.nextStamp, { s with run.nextStamp := s.run.nextStamp + 1 })

/-- A new handle to a canvas. -/
def newImage (canvas : Canvas) : Generation Image := do
  return ⟨← freshStamp, canvas⟩

/-- Faults in another form. -/
def mapFault {α : Type} (f : Fault → Fault) (x : Generation α) : Generation α :=
  EStateM.adaptExcept f x

/-- Do something in a draft of its own, which starts from the global cache; the draft from before
comes back whether that succeeds or fails. -/
def inNewDraft {α : Type} (x : Generation α) : Generation α := fun s =>
  match x (.fresh s.run) with
  | .ok a t => .ok a { s with run := t.run }
  | .error fault t => .error fault { s with run := t.run }

/-! ## Files -/

/-- The message of an entry that names a file to be read. -/
def readingMessage : String := "Reading file"

def readImage (path : String) : Generation Image := do
  log .debug readingMessage [("path", path)]
  match (← get).run.files.readImage path with
  | .ok canvas => newImage canvas
  | .error fault => throw (.image fault)

def readFile (path : String) : Generation ByteArray := do
  log .debug readingMessage [("path", path)]
  match (← get).run.files.read path with
  | .ok content => return content
  | .error fault => throw (.file fault)

/-- Replace the files by what becomes of them. -/
def updateFiles (f : FileStore → Except FileFault FileStore) : Generation Unit := do
  match f (← get).run.files with
  | .ok files => modifyRun fun r => { r with files := files }
  | .error fault => throw (.file fault)

def writeImage (path : String) (canvas : Canvas) : Generation Unit := do
  let (outcome, files) := (← get).run.files.writeImage path canvas
  modifyRun fun r => { r with files := files }
  match outcome with
  | .ok () => return
  | .error fault => throw (.image fault)

end Generation

end CardPress
