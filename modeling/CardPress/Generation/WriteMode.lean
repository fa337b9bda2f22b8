import CardPress.Fault

/-!
# Cache write modes

What writing to a cache does about a key that exists already, or does not.
-/

namespace CardPress

inductive WriteMode where
  /-- The key must be new. -/
  | add
  /-- The key must exist. -/
  | update
  | addOrUpdate
  /-- An existing key is left alone. -/
  | addOrSkip
  deriving DecidableEq, Repr

namespace WriteMode

def parse (name : String) : Except Fault WriteMode :=
  match name with
  | "add" => .ok .add
  | "update" => .ok .update
  | "add_or_update" => .ok .addOrUpdate
  | "add_or_skip" => .ok .addOrSkip
  | other => .error (.unknownWriteMode other)

def name : WriteMode → String
  | .add => "Add"
  | .update => "Update"
  | .addOrUpdate => "AddOrUpdate"
  | .addOrSkip => "AddOrSkip"

/-- Whether to write a key, given whether the cache has it. -/
def admits (mode : WriteMode) (key : String) (exists? isGlobal : Bool) : Except Fault Bool :=
  match mode, exists? with
  | .add, true => .error (.keyConflict key isGlobal)
  | .update, false => .error (.keyMissing key isGlobal)
  | .addOrSkip, true => .ok false
  | _, _ => .ok true

end WriteMode

end CardPress
