import Mathlib.Data.List.Perm.Basic

/-!
# Tables with distinct keys

A table is a list of keys with their values.  Where no key occurs twice, what is looked up under a
key is the value that stands beside it, and the order of the table does not matter.

Main results:

- Theorem `lookup_eq_some_iff_mem`: looking up is finding, in a table with distinct keys.
- Theorem `lookup_perm`: such a table answers alike in every order.
-/

namespace FailFast

variable {α β : Type} {entries order : List (String × α)} {key : String} {value : α}

/-- What is looked up stands in the table. -/
theorem mem_of_lookup (h : entries.lookup key = some value) : (key, value) ∈ entries := by
  obtain ⟨before, after, hsplit, _⟩ := List.lookup_eq_some_iff.mp h
  rw [hsplit]
  exact List.mem_append_right _ List.mem_cons_self

/-- In a table with distinct keys all that stands there is found. -/
theorem lookup_eq_some_iff_mem (hdistinct : (entries.map Prod.fst).Nodup) :
    entries.lookup key = some value ↔ (key, value) ∈ entries := by
  refine ⟨mem_of_lookup, ?_⟩
  intro hmem
  obtain ⟨before, after, rfl⟩ := List.append_of_mem hmem
  refine List.lookup_eq_some_iff.mpr ⟨before, after, rfl, ?_⟩
  rw [List.map_append, List.map_cons] at hdistinct
  intro entry hentry
  have hne := (List.nodup_append.mp hdistinct).2.2 entry.1 (List.mem_map_of_mem hentry) key
    List.mem_cons_self
  simpa using hne.symm

/-- Nothing is found under a key that does not occur. -/
theorem lookup_eq_none_iff_not_mem : entries.lookup key = none ↔ key ∉ entries.map Prod.fst := by
  rw [List.lookup_eq_none_iff, List.mem_map]
  constructor
  · rintro h ⟨entry, hentry, rfl⟩
    simpa using h entry hentry
  · intro h entry hentry
    have hne : key ≠ entry.1 := fun heq => h ⟨entry, hentry, heq.symm⟩
    simpa using hne

/-- The order of a table with distinct keys does not matter. -/
theorem lookup_perm (hperm : order.Perm entries) (hdistinct : (entries.map Prod.fst).Nodup)
    (key : String) : order.lookup key = entries.lookup key := by
  have horder : (order.map Prod.fst).Nodup := (hperm.map Prod.fst).nodup_iff.mpr hdistinct
  refine Option.ext fun value => ?_
  rw [lookup_eq_some_iff_mem horder, lookup_eq_some_iff_mem hdistinct, hperm.mem_iff]

/-- Looking up in a table whose values were replaced. -/
theorem lookup_map_value (f : α → β) (entries : List (String × α)) (key : String) :
    (entries.map fun entry => (entry.1, f entry.2)).lookup key = (entries.lookup key).map f := by
  induction entries with
  | nil => rfl
  | cons entry rest ih =>
      rw [List.map_cons, List.lookup_cons, List.lookup_cons, ih]
      cases key == entry.1 <;> rfl

/-- Keys that are given values by position are among the keys. -/
theorem keys_zip_sublist (keys : List String) (values : List α) :
    ((keys.zip values).map Prod.fst).Sublist keys := by
  induction keys generalizing values with
  | nil => exact List.Sublist.slnil
  | cons key rest ih =>
      cases values with
      | nil => exact List.nil_sublist _
      | cons value values => exact (ih values).cons_cons key

end FailFast
