/-!
# Dictionaries with text keys

A `Dict` is a list of entries in ascending key order, each key once. Every operation keeps that
order (`Dict.Sorted`); `get?` is the view the others are described by.
-/

namespace CardPress

structure Dict (α : Type u) where
  entries : List (String × α)
  deriving Repr

namespace Dict

variable {α β : Type}

instance : EmptyCollection (Dict α) := ⟨⟨[]⟩⟩

instance : Inhabited (Dict α) := ⟨∅⟩

/-- The value bound to a key. -/
def get? (d : Dict α) (key : String) : Option α :=
  d.entries.lookup key

def contains (d : Dict α) (key : String) : Bool :=
  (d.get? key).isSome

def keys (d : Dict α) : List String :=
  d.entries.map (·.1)

def size (d : Dict α) : Nat :=
  d.entries.length

def isEmpty (d : Dict α) : Bool :=
  d.entries.isEmpty

/-- Put an entry in its place, replacing the value of a key that is there already. -/
def insertEntry (key : String) (value : α) : List (String × α) → List (String × α)
  | [] => [(key, value)]
  | (k, v) :: rest =>
    if key < k then (key, value) :: (k, v) :: rest
    else if key = k then (key, value) :: rest
    else (k, v) :: insertEntry key value rest

def insert (d : Dict α) (key : String) (value : α) : Dict α :=
  ⟨insertEntry key value d.entries⟩

def erase (d : Dict α) (key : String) : Dict α :=
  ⟨d.entries.filter (·.1 ≠ key)⟩

/-- Of entries with one key the last counts. -/
def ofList (entries : List (String × α)) : Dict α :=
  entries.foldl (fun d (k, v) => d.insert k v) ∅

/-- The same keys with other values. -/
def map (f : α → β) (d : Dict α) : Dict β :=
  ⟨d.entries.map fun (k, v) => (k, f v)⟩

/-- The same keys with values computed in key order. -/
def mapM {m : Type → Type} [Monad m] (f : α → m β) (d : Dict α) : m (Dict β) := do
  return ⟨← d.entries.mapM fun (k, v) => do return (k, ← f v)⟩

/-- Keys strictly ascend. -/
def Sorted (d : Dict α) : Prop :=
  d.entries.Pairwise (·.1 < ·.1)

@[simp] theorem get?_empty (key : String) : (∅ : Dict α).get? key = none := rfl

@[simp] theorem contains_eq_isSome (d : Dict α) (key : String) :
    d.contains key = (d.get? key).isSome := rfl

theorem lookup_insertEntry (key k : String) (value : α) (entries : List (String × α)) :
    (insertEntry key value entries).lookup k =
      if k = key then some value else entries.lookup k := by
  have head (j : String) (v : α) (rest : List (String × α)) :
      ((j, v) :: rest).lookup k = if k = j then some v else rest.lookup k := by
    by_cases h : k = j
    · simp [h]
    · simp [List.lookup_cons, beq_eq_false_iff_ne.2 h, h]
  induction entries with
  | nil => simp [insertEntry, head]
  | cons e rest ih =>
    obtain ⟨j, v⟩ := e
    by_cases hlt : key < j
    · simp [insertEntry, hlt, head]
    by_cases heq : key = j
    · subst heq
      by_cases hk : k = key <;> simp [insertEntry, head, hk]
    · by_cases hk : k = j
      · subst hk
        simp [insertEntry, hlt, heq, head, Ne.symm heq]
      · simp [insertEntry, hlt, heq, head, hk, ih]

theorem get?_insert (d : Dict α) (key k : String) (value : α) :
    (d.insert key value).get? k = if k = key then some value else d.get? k :=
  lookup_insertEntry key k value d.entries

@[simp] theorem get?_insert_self (d : Dict α) (key : String) (value : α) :
    (d.insert key value).get? key = some value := by
  simp [get?_insert]

theorem get?_insert_of_ne (d : Dict α) {key k : String} (h : k ≠ key) (value : α) :
    (d.insert key value).get? k = d.get? k := by
  simp [get?_insert, h]

@[simp] theorem sorted_empty : (∅ : Dict α).Sorted := List.Pairwise.nil

theorem mem_insertEntry {key : String} {value : α} {entries : List (String × α)}
    {e : String × α} (h : e ∈ insertEntry key value entries) : e = (key, value) ∨ e ∈ entries := by
  induction entries with
  | nil => simpa [insertEntry] using h
  | cons x rest ih =>
    obtain ⟨j, v⟩ := x
    simp only [insertEntry] at h
    split at h
    · simpa using h
    · split at h
      · rcases List.mem_cons.1 h with h | h
        · exact .inl h
        · exact .inr (List.mem_cons_of_mem _ h)
      · rcases List.mem_cons.1 h with h | h
        · exact .inr (h ▸ List.mem_cons_self)
        · exact (ih h).imp id (List.mem_cons_of_mem _)

/-- Inserting keeps the keys in order. -/
theorem Sorted.insert {d : Dict α} (h : d.Sorted) (key : String) (value : α) :
    (d.insert key value).Sorted := by
  obtain ⟨entries⟩ := d
  simp only [Sorted, Dict.insert] at h ⊢
  induction entries with
  | nil => simp [insertEntry]
  | cons e rest ih =>
    obtain ⟨k, v⟩ := e
    have ⟨hk, hr⟩ := List.pairwise_cons.1 h
    simp only [insertEntry]
    split
    · next hlt =>
      refine List.pairwise_cons.2 ⟨fun e he => ?_, h⟩
      rcases List.mem_cons.1 he with rfl | he
      · exact hlt
      · exact String.lt_trans hlt (hk e he)
    · next hlt =>
      split
      · next heq =>
        subst heq
        exact List.pairwise_cons.2 ⟨hk, hr⟩
      · next hne =>
        refine List.pairwise_cons.2 ⟨fun e he => ?_, ih hr⟩
        rcases mem_insertEntry he with rfl | he
        · exact String.not_le.1 fun hle => hne (String.le_antisymm hle (String.not_lt.1 hlt))
        · exact hk e he

theorem sorted_ofList (entries : List (String × α)) : (ofList entries).Sorted := by
  unfold ofList
  suffices ∀ d : Dict α, d.Sorted → (entries.foldl (fun d (k, v) => d.insert k v) d).Sorted from
    this ∅ sorted_empty
  induction entries with
  | nil => exact fun d h => h
  | cons e rest ih => exact fun d h => ih _ (h.insert e.1 e.2)

end Dict

end CardPress
