import CardPress.Dict
import Mathlib.Data.List.Forall2
import Mathlib.Data.List.Nodup
import Mathlib.Data.List.Perm.Basic
import Mathlib.Data.List.Perm.Subperm
import Mathlib.Data.List.Sort

/-!
# Dictionaries and their lookups

A dictionary in key order is determined by what it binds its keys to. One that is made from entries
binds the keys of these entries, each to the value it comes with if it comes once.

## Main results

* `Dict.ext_of_sorted` — dictionaries that bind the same are the same.
* `Dict.get?_ofList` — what a dictionary of entries binds.
-/

namespace CardPress

variable {α β : Type} {entries : List (String × α)}

theorem mem_of_lookup_eq_some {tag : String} {entry : α}
    (h : entries.lookup tag = some entry) : (tag, entry) ∈ entries := by
  obtain ⟨before, behind, he, -⟩ := List.lookup_eq_some_iff.1 h
  rw [he]
  exact List.mem_append_right _ List.mem_cons_self

namespace Dict

variable {d d' : Dict α} {k : String} {v : α}

theorem nodup_keys (h : d.Sorted) : (d.entries.map (·.1)).Nodup := by
  refine List.Pairwise.map _ (fun e e' hlt heq => ?_) h
  exact String.lt_irrefl e'.1 (heq ▸ hlt)

theorem contains_iff (d : Dict α) (key : String) : d.contains key ↔ key ∈ d.keys := by
  rw [contains, get?, List.lookup_isSome_iff, keys, List.mem_map]
  simp only [beq_iff_eq, @eq_comm _ key]

theorem lookup_cons (j k : String) (v : α) (rest : List (String × α)) :
    ((j, v) :: rest).lookup k = if k = j then some v else rest.lookup k := by
  by_cases hk : k = j
  · simp [hk]
  · simp [List.lookup_cons, beq_eq_false_iff_ne.2 hk, hk]

/-- Looking a key up finds the entry with that key if there is just one. -/
theorem lookup_eq_some_iff (h : (entries.map (·.1)).Nodup) :
    entries.lookup k = some v ↔ (k, v) ∈ entries := by
  induction entries with
  | nil => simp
  | cons e rest ih =>
    obtain ⟨j, w⟩ := e
    obtain ⟨hj, hrest⟩ := List.nodup_cons.1 h
    rw [lookup_cons, List.mem_cons]
    by_cases hk : k = j
    · subst hk
      have hnotmem : (k, v) ∉ rest := fun hmem => hj (List.mem_map.2 ⟨(k, v), hmem, rfl⟩)
      simp [hnotmem, eq_comm]
    · simp [hk, ih hrest]

theorem get?_eq_some_iff (h : d.Sorted) : d.get? k = some v ↔ (k, v) ∈ d.entries :=
  lookup_eq_some_iff (nodup_keys h)

/-- Dictionaries that bind the same are the same. -/
theorem ext_of_sorted (h : d.Sorted) (h' : d'.Sorted) (hget : ∀ k, d.get? k = d'.get? k) :
    d = d' := by
  have hperm : d.entries.Perm d'.entries := by
    refine (List.perm_ext_iff_of_nodup (nodup_keys h).of_map (nodup_keys h').of_map).2 ?_
    rintro ⟨k, v⟩
    rw [← get?_eq_some_iff h, ← get?_eq_some_iff h', hget]
  have heq : d.entries = d'.entries :=
    hperm.eq_of_pairwise (fun e e' _ _ hlt hgt => absurd hgt (String.lt_asymm hlt)) h h'
  cases d
  cases d'
  exact congrArg mk heq

/-- Dictionaries of one size have related entries in the same places if what is under each key of
the one is related to what is under that key in the other. -/
theorem forall₂_entries_iff {R : α → α → Prop} (h : d.Sorted) (h' : d'.Sorted) :
    List.Forall₂ (fun e f => e.1 = f.1 ∧ R e.2 f.2) d.entries d'.entries ↔
      d.size = d'.size ∧ ∀ k v, d.get? k = some v → ∃ w, d'.get? k = some w ∧ R v w := by
  constructor
  · intro hall
    obtain ⟨hlength, hget⟩ := List.forall₂_iff_get.1 hall
    refine ⟨hlength, fun k v hk => ?_⟩
    obtain ⟨i, hi⟩ := List.get_of_mem ((get?_eq_some_iff h).1 hk)
    have hentry := hget i i.2 (hlength ▸ i.2)
    rw [Fin.eta, hi] at hentry
    refine ⟨_, (get?_eq_some_iff h').2 ?_, hentry.2⟩
    have hkey : k = _ := hentry.1
    rw [hkey]
    exact List.get_mem _ _
  · rintro ⟨hsize, hget⟩
    have hsubset : d.entries.map (·.1) ⊆ d'.entries.map (·.1) := by
      intro k hk
      obtain ⟨e, he, rfl⟩ := List.mem_map.1 hk
      obtain ⟨w, hw, -⟩ := hget e.1 e.2 ((get?_eq_some_iff h).2 he)
      exact List.mem_map.2 ⟨(e.1, w), (get?_eq_some_iff h').1 hw, rfl⟩
    have hperm : (d.entries.map (·.1)).Perm (d'.entries.map (·.1)) := by
      refine (List.subperm_of_subset (nodup_keys h) hsubset).perm_of_length_le ?_
      rw [List.length_map, List.length_map]
      exact hsize.ge
    have hkeys : d.entries.map (·.1) = d'.entries.map (·.1) :=
      hperm.eq_of_pairwise (fun j k _ _ (hlt : j < k) hgt => absurd hgt (String.lt_asymm hlt))
        (List.pairwise_map.2 h) (List.pairwise_map.2 h')
    refine List.forall₂_iff_get.2 ⟨hsize, fun i hi hi' => ?_⟩
    have hkey : (d.entries.get ⟨i, hi⟩).1 = (d'.entries.get ⟨i, hi'⟩).1 := by
      have hmap := congrArg (·[i]?) hkeys
      simpa [hi, hi'] using hmap
    obtain ⟨w, hw, hR⟩ := hget _ _ ((get?_eq_some_iff h).2 (List.get_mem d.entries ⟨i, hi⟩))
    have hw' := (get?_eq_some_iff h').2 (List.get_mem d'.entries ⟨i, hi'⟩)
    rw [← hkey, hw, Option.some.injEq] at hw'
    exact ⟨hkey, hw' ▸ hR⟩

theorem mem_entries_ofList {e : String × α} (h : e ∈ (ofList entries).entries) : e ∈ entries := by
  suffices hfold : ∀ d : Dict α, e ∈ (entries.foldl (fun d e => d.insert e.1 e.2) d).entries →
      e ∈ d.entries ∨ e ∈ entries by
    exact (hfold ∅ h).resolve_left (List.not_mem_nil)
  clear h
  induction entries with
  | nil => exact fun d h => .inl h
  | cons x rest ih =>
    intro d h
    rcases ih _ h with h | h
    · rcases mem_insertEntry h with rfl | h
      · exact .inr List.mem_cons_self
      · exact .inl h
    · exact .inr (List.mem_cons_of_mem _ h)

/-- Of entries with one key the last counts. -/
theorem get?_ofList (entries : List (String × α)) (k : String) :
    (ofList entries).get? k = entries.reverse.lookup k := by
  suffices hfold : ∀ d : Dict α, (entries.foldl (fun d e => d.insert e.1 e.2) d).get? k =
      (entries.reverse.lookup k).or (d.get? k) by
    exact (hfold ∅).trans (by rw [get?_empty, Option.or_none])
  induction entries with
  | nil => exact fun d => rfl
  | cons e rest ih =>
    intro d
    obtain ⟨j, v⟩ := e
    rw [List.foldl_cons, ih, get?_insert, List.reverse_cons, List.lookup_append, Option.or_assoc,
      lookup_cons]
    by_cases hk : k = j <;> simp [hk]

/-- Entries with keys of their own are all bound. -/
theorem get?_ofList_eq_some_iff (h : (entries.map (·.1)).Nodup) :
    (ofList entries).get? k = some v ↔ (k, v) ∈ entries := by
  rw [get?_ofList, lookup_eq_some_iff (by rw [List.map_reverse]; exact List.nodup_reverse.2 h),
    List.mem_reverse]

theorem ofList_entries (h : d.Sorted) : ofList d.entries = d := by
  refine ext_of_sorted (sorted_ofList _) h fun k => Option.ext fun v => ?_
  rw [get?_ofList_eq_some_iff (nodup_keys h), get?_eq_some_iff h]

theorem map_insert (f : α → β) (d : Dict α) (k : String) (v : α) :
    (d.insert k v).map f = (d.map f).insert k (f v) := by
  obtain ⟨entries⟩ := d
  refine congrArg mk ?_
  induction entries with
  | nil => rfl
  | cons e rest ih =>
    simp only [insert, map, List.map_cons, insertEntry] at ih ⊢
    split
    · rfl
    · split
      · rfl
      · rw [List.map_cons, ih]

/-- The values of a dictionary of entries may be changed before or after it is made. -/
theorem map_ofList (f : α → β) (entries : List (String × α)) :
    (ofList entries).map f = ofList (entries.map fun e => (e.1, f e.2)) := by
  suffices hfold : ∀ d : Dict α, (entries.foldl (fun d e => d.insert e.1 e.2) d).map f =
      (entries.map fun e => (e.1, f e.2)).foldl (fun d e => d.insert e.1 e.2) (d.map f) from
    hfold ∅
  induction entries with
  | nil => exact fun d => rfl
  | cons e rest ih =>
    intro d
    rw [List.foldl_cons, ih, map_insert, List.map_cons, List.foldl_cons]

end Dict

end CardPress
