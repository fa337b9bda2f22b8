import CardPress.Calendar
import CardPress.Command
import Std.Time.DateTime.Timestamp

/-!
# The program

Runs a command on the files of the disk. What a command reads only shows as it runs, so it is run
again with the files it asked for until it asks for no others; then its files are written.
-/

namespace CardPress.Program

def usage : String :=
  "Usage: cardpress [-c FILE | --cards FILE] [--config FILE] generate|templates|validate\n\n" ++
  "  generate   Draw every card face and print the report of the run\n" ++
  "  templates  List labelled faces with the templates they inherit from and their size\n" ++
  "  validate   Compose every face without drawing it\n"

/-- A name for a run: sixteen random bytes, marked as such. -/
def runId : IO String := do
  let bytes ← IO.getRandomBytes 16
  let marked := bytes.toList.zipIdx.map fun (b, i) =>
    if i = 6 then b % 16 + 0x40 else if i = 8 then b % 64 + 0x80 else b
  let group (start length : Nat) : String :=
    String.join (((marked.drop start).take length).map fun b =>
      let digits := Text.hex b.toNat
      if digits.length < 2 then "0" ++ digits else digits)
  return "-".intercalate [group 0 4, group 4 2, group 6 2, group 8 2, group 10 6]

def now : IO String := do
  let t := (← Std.Time.Timestamp.now).toNanosecondsSinceUnixEpoch.val.toNat
  return Calendar.text (t / 1000000000) (t % 1000000000)

/-- Put a file of the disk into a store; one that cannot be read is left out. -/
def load (store : FileStore) (path : String) : IO FileStore := do
  try
    let content ← IO.FS.readBinFile path
    match store.place path content with
    | .ok store => return store
    | .error _ => return store
  catch _ => return store

/-- The files that a run asked for. -/
def wanted (run : Run) : List String :=
  run.log.toList.filterMap fun e =>
    if e.message = Generation.readingMessage then e.fields.lookup "path" else none

/-- Run a command until it asks for no file that has not been tried. -/
partial def settle (arguments : List String) (occasion : Command.Occasion) (tried : List String)
    (store : FileStore) : IO (FileStore × Command.Outcome) := do
  let outcome := Command.execute arguments occasion store
  match (wanted outcome.run).filter (!tried.contains ·) with
  | [] => return (store, outcome)
  | paths => settle arguments occasion (paths ++ tried) (← paths.foldlM load store)

/-- Write to the disk what a command added to its files or changed in them. -/
def writeBack (before after : FileStore) : IO Unit :=
  after.nodes.entries.forM fun (path, node) =>
    match node, before.nodes.get? path with
    | .directory, some .directory => return
    | .directory, _ => IO.FS.createDirAll path
    | .file content, some (.file old) =>
      if content.data = old.data then return else IO.FS.writeBinFile path content
    | .file content, _ => IO.FS.writeBinFile path content

def levelName : Level → String
  | .debug => "DEBUG"
  | .info => "INFO"
  | .warn => "WARN"
  | .error => "ERROR"

def logLine (e : LogEntry) : String :=
  " ".intercalate ([levelName e.level, e.message] ++ e.fields.map fun (k, v) => k ++ "=" ++ v)

end CardPress.Program

open CardPress Program in
def main (arguments : List String) : IO UInt32 := do
  let name ← runId
  let start ← now
  let named := match Command.parse arguments with
    | .ok invocation => invocation.cards :: invocation.config.toList
    | .error _ => []
  let store ← named.foldlM load .empty
  let (before, _) ← settle arguments ⟨name, start, start⟩ named store
  let outcome := Command.execute arguments ⟨name, start, ← now⟩ before
  writeBack before outcome.run.files
  for e in outcome.run.log do
    if e.level ≠ .debug then IO.eprintln (logLine e)
  match outcome.output with
  | some document => IO.println document.canonical.pretty
  | none => if outcome.exitCode = 0 then IO.print usage else IO.eprint usage
  return UInt32.ofNat outcome.exitCode
