import CardPress.Fault
import CardPress.Files.Path
import CardPress.Text.Utf8

/-!
# File stores

A tree of directories and files as a value. Nodes are kept under their normalised path, names joined
by slashes; the working directory is the empty path and always exists.
-/

namespace CardPress

/-- What stands at a path. -/
inductive Node where
  | directory
  | file (content : ByteArray)

structure FileStore where
  nodes : Dict Node

namespace FileStore

def empty : FileStore := ⟨∅⟩

/-- A normalised path: names from the working directory on. A leading slash is a name of its own,
and so is every step out of the working directory. -/
abbrev Place := List String

def Place.key (place : Place) : String :=
  "/".intercalate place

/-- Roots always exist: the working directory, the absolute one and those above. -/
def Place.isRoot (place : Place) : Bool :=
  place.all fun name => name == "" || name == ".."

def node? (s : FileStore) (place : Place) : Option Node :=
  if place.isRoot then some .directory else s.nodes.get? place.key

def put (s : FileStore) (place : Place) (node : Node) : FileStore :=
  ⟨s.nodes.insert place.key node⟩

/-- The names of a path; an absolute one begins with the empty name. -/
def names (path : String) : List String :=
  let parts := ((path.splitOn "/").filter fun p => p ≠ "" ∧ p ≠ ".")
  match path.toList with
  | '/' :: _ => "" :: parts
  | _ => parts

/-- One step down or up, from a place that has to be a directory. -/
def step (s : FileStore) (place : Place) (name : String) : Except FileFault Place :=
  match s.node? place with
  | none => .error .notFound
  | some (.file _) => .error .notDirectory
  | some .directory =>
    if name = ".." then
      if place.isRoot then .ok (if place = [""] then place else place ++ [name])
      else .ok place.dropLast
    else if 255 < name.utf8ByteSize then .error (.other "name too long")
    else .ok (place ++ [name])

/-- Whether the path asks for a directory. -/
def namesDirectory (path : String) : Bool :=
  match path.toList.reverse with
  | '/' :: _ | ['.'] | '.' :: '/' :: _ => true
  | _ => false

/-- Paths no file can have. -/
def checkPath (path : String) : Except FileFault Unit :=
  if path = "" then .error .notFound
  else if path.toList.contains '\x00' then .error (.other "null character in path")
  else if 4095 < path.utf8ByteSize then .error (.other "path too long")
  else .ok ()

/-- The place a path leads to; all directories on the way have to exist. -/
def locate (s : FileStore) (path : String) : Except FileFault Place := do
  checkPath path
  (names path).foldlM s.step []

def read (s : FileStore) (path : String) : Except FileFault ByteArray := do
  let place ← s.locate path
  match s.node? place with
  | none => .error .notFound
  | some .directory => .error .isDirectory
  | some (.file content) => if namesDirectory path then .error .notDirectory else .ok content

def readText (s : FileStore) (path : String) : Except FileFault String := do
  match Utf8.decode? (← s.read path) with
  | some text => .ok text
  | none => .error .notText

/-- Create a file or replace its content. -/
def write (s : FileStore) (path : String) (content : ByteArray) : Except FileFault FileStore := do
  let place ← s.locate path
  match s.node? place with
  | some .directory => .error .isDirectory
  | _ => if namesDirectory path then .error .isDirectory else .ok (s.put place (.file content))

/-- The step of `createDirectories`: a missing directory is made. -/
def enter (state : FileStore × Place) (name : String) : Except FileFault (FileStore × Place) := do
  let (s, place) := state
  let place ← s.step place name
  match s.node? place with
  | some .directory => .ok (s, place)
  | some (.file _) => .error .alreadyExists
  | none => .ok (s.put place .directory, place)

/-- Make a directory and all directories on the way to it. -/
def createDirectories (s : FileStore) (path : String) : Except FileFault FileStore := do
  if path = "" then return s
  checkPath path
  return (← (names path).foldlM enter (s, [])).1

/-- Put a file into the store, with the directories on the way to it. -/
def place (s : FileStore) (path : String) (content : ByteArray) : Except FileFault FileStore := do
  let s ← s.createDirectories ("/".intercalate (path.splitOn "/").dropLast)
  s.write path content

end FileStore

end CardPress
