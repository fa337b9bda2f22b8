import CardPress.Toml

/-!
# Tables of a TOML document

Headers and dotted keys build one tree. A table is *implicit* while only paths through it have been
named, and *dotted* if a dotted key made it. A table is defined once: by a header, which may
complete an implicit table but no dotted one, or by dotted keys, which extend no table with a
header.
-/

namespace CardPress.Toml

/-- A tree under construction. The last table of an array of tables stands first. -/
inductive Layout where
  | value (v : Toml)
  | table (implicit dotted : Bool) (entries : List (String × Layout))
  | tables (newestFirst : List Layout)

namespace Layout

instance : Inhabited Layout := ⟨.value default⟩

/-- A key that is taken already, or that leads through something that is no table. -/
inductive Conflict where
  | duplicateKey (key : String)
  | notTable (key : String)
  deriving DecidableEq, Repr

def entries : Layout → List (String × Layout)
  | .table _ _ entries => entries
  | _ => []

def isDotted : Layout → Bool
  | .table _ dotted _ => dotted
  | _ => false

/-- The same table with other entries. -/
def withEntries (t : Layout) (entries : List (String × Layout)) : Layout :=
  match t with
  | .table implicit dotted _ => .table implicit dotted entries
  | t => t

/-- Replace or append an entry. -/
def set (t : Layout) (key : String) (child : Layout) : Layout :=
  let present := t.entries.any (·.1 = key)
  t.withEntries <|
    if present then t.entries.map fun (k, c) => if k = key then (k, child) else (k, c)
    else t.entries ++ [(key, child)]

/-- Change the table at the end of a path, making the tables on the way that are missing. Through an
array of tables the path leads into its newest table. -/
def modifyAt (change : Layout → Except Conflict Layout) (dotted : Bool) :
    (path : List String) → Layout → Except Conflict Layout
  | [], t => change t
  | key :: path, t =>
    match t.entries.lookup key with
    | none => do
      return t.set key (← modifyAt change dotted path (.table true dotted []))
    | some (.tables (newest :: older)) => do
      return t.set key (.tables ((← modifyAt change dotted path newest) :: older))
    | some (.table implicit d entries) =>
      if dotted && !implicit then .error (.duplicateKey key)
      else do
        return t.set key (← modifyAt change dotted path (.table implicit d entries))
    | some _ => .error (.notTable key)

/-- Bind a key that is still free. Dotted keys go into dotted tables only, plain keys into
others. -/
def bind (key : String) (v : Toml) (plain : Bool) (t : Layout) : Except Conflict Layout :=
  if t.isDotted = plain then .error (.duplicateKey key)
  else if t.entries.any (·.1 = key) then .error (.duplicateKey key)
  else .ok (t.set key (.value v))

/-- A key and its value in the table at a path. -/
def assign (place : List String) (keys : List String) (key : String) (v : Toml) (root : Layout) :
    Except Conflict Layout :=
  modifyAt (modifyAt (bind key v keys.isEmpty) true keys) false place root

/-- The header of a table. -/
def openTable (parents : List String) (key : String) (root : Layout) : Except Conflict Layout :=
  modifyAt (fun t =>
    match t.entries.lookup key with
    | none => .ok (t.set key (.table false false []))
    | some (.table true false entries) => .ok (t.set key (.table false false entries))
    | some _ => .error (.duplicateKey key)) false parents root

/-- The header of one more table of an array. -/
def openElement (parents : List String) (key : String) (root : Layout) : Except Conflict Layout :=
  modifyAt (fun t =>
    match t.entries.lookup key with
    | none => .ok (t.set key (.tables [.table false false []]))
    | some (.tables older) => .ok (t.set key (.tables (.table false false [] :: older)))
    | some _ => .error (.duplicateKey key)) false parents root

mutual

def finish : Layout → Toml
  | .value v => v
  | .table _ _ entries => .table (finishEntries entries)
  | .tables newestFirst => .array (finishItems newestFirst).reverse

def finishItems : List Layout → List Toml
  | [] => []
  | t :: rest => t.finish :: finishItems rest

def finishEntries : List (String × Layout) → List (String × Toml)
  | [] => []
  | (k, t) :: rest => (k, t.finish) :: finishEntries rest

end

end Layout

end CardPress.Toml
