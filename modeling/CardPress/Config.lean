import CardPress.Card.Definition
import CardPress.Files.Store
import CardPress.Toml.Reader

/-!
# Configuration

The limits of resolving, what is logged, where images go, and free values that expressions can read.
Every setting has a default; unknown ones are refused.
-/

namespace CardPress

/-- Why a configuration cannot be used. -/
inductive ConfigFault where
  | unreadable (path : String) (cause : FileFault)
  | notToml (cause : Toml.ReadError)
  | mismatch (cause : String)

def ConfigFault.message : ConfigFault → String
  | .unreadable path cause => "Failed to read config " ++ path ++ ": " ++ cause.message
  | .notToml cause => "Invalid config: " ++ cause.message
  | .mismatch cause => "Invalid config: " ++ cause

structure Config where
  /-- How often one value may be unwrapped. -/
  maxChain : Nat
  /-- How deep expressions may nest in the parameters of others. -/
  maxDepth : Nat
  logsAll : Bool
  /-- Where images are saved if a step names no directory. -/
  outputDirectory : String
  values : Mapping

namespace Config

def standard : Config where
  maxChain := 64
  maxDepth := 128
  logsAll := false
  outputDirectory := "Cards"
  values := ∅

open CardDefinition (Mismatch expected decodeText decodeBool)

/-- A whole number of 64 bits without sign. -/
def decodeCount : Json → Except Mismatch Nat
  | .int n => if 0 ≤ n ∧ n < Nat.pow 2 64 then .ok n.toNat else expected "a number of 64 bits"
  | _ => expected "a whole number"

def decodeValues : Json → Except Mismatch Mapping
  | .object members => .ok (Dict.ofList (Value.ofJsonMembers members))
  | _ => expected "an object"

/-- The settings in order, each with what reading it does. -/
def fields : List (String × (Config → Json → Except Mismatch Config)) := [
  ("max_resolution_chain", fun c j => return { c with maxChain := ← decodeCount j }),
  ("max_resolution_depth", fun c j => return { c with maxDepth := ← decodeCount j }),
  ("do_log_all", fun c j => return { c with logsAll := ← decodeBool j }),
  ("output_dir", fun c j => return { c with outputDirectory := ← decodeText j }),
  ("values", fun c j => return { c with values := ← decodeValues j })]

def decodeMembers (c : Config) : List (String × Json) → Except Mismatch Config
  | [] => .ok c
  | (key, j) :: rest =>
    match fields.lookup key with
    | none => .error ("unknown setting " ++ key)
    | some field => do decodeMembers (← field c j) rest

/-- Settings without names; there must not be more items than settings. -/
def decodeItems (c : Config) :
    List (String × (Config → Json → Except Mismatch Config)) → List Json → Except Mismatch Config
  | _, [] => .ok c
  | [], _ :: _ => .error "too many settings"
  | (_, field) :: fields, j :: rest => do decodeItems (← field c j) fields rest

def decode : Json → Except Mismatch Config
  | .object members => decodeMembers standard members
  | .array items => decodeItems standard fields items
  | _ => expected "a configuration"

def parse (text : String) : Except ConfigFault Config := do
  let t ← (Toml.read text).mapError .notToml
  (decode t.toJson).mapError .mismatch

def load (files : FileStore) (path : String) : Except ConfigFault Config := do
  let text ← (files.readText path).mapError (.unreadable path)
  parse text

def toJson (c : Config) : Json :=
  .object [
    ("max_resolution_chain", .int c.maxChain),
    ("max_resolution_depth", .int c.maxDepth),
    ("do_log_all", .bool c.logsAll),
    ("output_dir", .string c.outputDirectory),
    ("values", (Value.mapping c.values).toJson)]

end Config

end CardPress
