import CardPress.Fault

/-!
# Registries

Entries under tags. A tag is registered once: a second registration fails instead of replacing the
first.
-/

namespace CardPress

structure Registry (α : Type) where
  kind : String
  entries : Dict α

namespace Registry

variable {α : Type}

def new (kind : String) : Registry α :=
  ⟨kind, ∅⟩

def get? (r : Registry α) (tag : String) : Option α :=
  r.entries.get? tag

def contains (r : Registry α) (tag : String) : Bool :=
  r.entries.contains tag

/-- In ascending order. -/
def tags (r : Registry α) : List String :=
  r.entries.keys

def size (r : Registry α) : Nat :=
  r.entries.size

def isEmpty (r : Registry α) : Bool :=
  r.entries.isEmpty

def register (r : Registry α) (tag : String) (entry : α) : Except Fault (Registry α) :=
  if r.contains tag then .error (.duplicateRegistration r.kind tag)
  else .ok { r with entries := r.entries.insert tag entry }

/-- Register a list of entries in turn, up to the first that fails. -/
def registerAll (r : Registry α) (entries : List (String × α)) : Except Fault (Registry α) :=
  entries.foldlM (fun r (tag, entry) => r.register tag entry) r

/-- The registry as logs show it. -/
def text (r : Registry α) : String :=
  "Registry \x7b kind: " ++ Text.quoted r.kind ++ ", tags: [" ++
    ", ".intercalate (r.tags.map Text.quoted) ++ "] \x7d"

theorem get?_register {r s : Registry α} {tag : String} {entry : α}
    (h : r.register tag entry = .ok s) (k : String) :
    s.get? k = if k = tag then some entry else r.get? k := by
  unfold register at h
  split at h
  · cases h
  · cases h
    exact Dict.get?_insert r.entries tag k entry

theorem register_eq_error_iff (r : Registry α) (tag : String) (entry : α) :
    r.register tag entry = .error (.duplicateRegistration r.kind tag) ↔ r.contains tag = true := by
  unfold register
  split <;> simp_all

end Registry

end CardPress
