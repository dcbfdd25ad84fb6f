/-!
# Tables sorted by key

A table is a list of keys with their values.  `Table.insert` keeps it sorted by key, in the order of
code points, and lets a new value replace the old one.

Main results:

- `find?_insert_self`, `find?_insert_of_ne`: what is found after an insertion.
- `find?_erase_self`, `find?_erase_of_ne`: what is found without a key.
- `find?_eq_some_iff_mem`: what is found is what the table holds.
- `insert_perm`: what the table holds after an insertion under a new key.
-/

namespace LayerNet

/-- Keys with their values. -/
abbrev Table (α : Type) := List (String × α)

namespace Table

variable {α : Type}

/-- Puts a value at the place of its key; a value of the same key is replaced. -/
def insert (key : String) (value : α) : Table α → Table α
  | [] => [(key, value)]
  | (k, v) :: rest =>
    if key < k then (key, value) :: (k, v) :: rest
    else if key = k then (key, value) :: rest
    else (k, v) :: insert key value rest

/-- The value of a key. -/
def find? (key : String) : Table α → Option α
  | [] => none
  | (k, v) :: rest => if k = key then some v else find? key rest

/-- Whether a key has a value. -/
def contains (key : String) (table : Table α) : Bool :=
  (find? key table).isSome

/-- The table without a key. -/
def erase (key : String) (table : Table α) : Table α :=
  table.filter fun entry => entry.1 != key

/-- The keys, in order. -/
def keys (table : Table α) : List String :=
  table.map Prod.fst

/-- The sorted table of pairs; of equal keys the last is kept. -/
def ofPairs (pairs : List (String × α)) : Table α :=
  pairs.foldl (fun table pair => insert pair.1 pair.2 table) []

@[simp]
theorem find?_nil (key : String) : find? key ([] : Table α) = none :=
  rfl

@[simp]
theorem find?_insert_self (key : String) (value : α) (table : Table α) :
    find? key (insert key value table) = some value := by
  induction table with
  | nil => simp [insert, find?]
  | cons pair rest ih =>
    obtain ⟨k, v⟩ := pair
    unfold insert
    split
    · simp [find?]
    · split
      · simp [find?]
      · rename_i h
        simp [find?, Ne.symm h, ih]

/-- Other keys are not touched. -/
theorem find?_insert_of_ne {key other : String} (h : other ≠ key) (value : α) (table : Table α) :
    find? other (insert key value table) = find? other table := by
  induction table with
  | nil => simp [insert, find?, Ne.symm h]
  | cons pair rest ih =>
    obtain ⟨k, v⟩ := pair
    unfold insert
    split
    · simp [find?, Ne.symm h]
    · split
      · rename_i hk
        subst hk
        simp [find?, Ne.symm h]
      · simp [find?, ih]

theorem find?_erase_self (key : String) (table : Table α) : find? key (erase key table) = none := by
  induction table with
  | nil => rfl
  | cons pair rest ih =>
    obtain ⟨k, v⟩ := pair
    by_cases h : k = key
    · simpa [erase, h] using ih
    · simpa [erase, h, find?] using ih

theorem find?_erase_of_ne {key other : String} (h : other ≠ key) (table : Table α) :
    find? other (erase key table) = find? other table := by
  induction table with
  | nil => rfl
  | cons pair rest ih =>
    obtain ⟨k, v⟩ := pair
    by_cases hk : k = key
    · simpa [erase, hk, find?, Ne.symm h] using ih
    · by_cases ho : k = other
      · subst ho
        simp [erase, h, find?]
      · simpa [erase, hk, find?, ho] using ih

/-! ## Keys and entries -/

/-- A key is not found exactly if it is not there. -/
theorem find?_eq_none_iff {key : String} {table : Table α} :
    find? key table = none ↔ key ∉ keys table := by
  induction table with
  | nil => simp [keys]
  | cons pair rest ih =>
    obtain ⟨k, v⟩ := pair
    by_cases h : k = key
    · simp [find?, keys, h]
    · simp [find?, keys, h, Ne.symm h, ih]

@[simp]
theorem contains_eq_true_iff {key : String} {table : Table α} :
    contains key table = true ↔ key ∈ keys table := by
  rw [contains, Option.isSome_iff_ne_none, ne_eq, find?_eq_none_iff, Classical.not_not]

/-- If no key stands twice, what is found for a key is what stands with it. -/
theorem find?_eq_some_iff_mem {key : String} {value : α} {table : Table α}
    (h : (keys table).Nodup) : find? key table = some value ↔ (key, value) ∈ table := by
  induction table with
  | nil => simp
  | cons pair rest ih =>
    obtain ⟨k, v⟩ := pair
    rw [keys, List.map_cons, List.nodup_cons] at h
    by_cases hk : k = key
    · subst hk
      have hnot : (k, value) ∉ rest := fun hmem => h.1 (List.mem_map.2 ⟨_, hmem, rfl⟩)
      simp [find?, hnot, eq_comm]
    · simp [find?, hk, Ne.symm hk, ih h.2]

/-- An insertion under a new key adds one entry and keeps all others. -/
theorem insert_perm {key : String} {table : Table α} (value : α) (h : key ∉ keys table) :
    (insert key value table).Perm ((key, value) :: table) := by
  induction table with
  | nil => exact List.Perm.refl _
  | cons pair rest ih =>
    obtain ⟨k, v⟩ := pair
    rw [keys, List.map_cons, List.mem_cons, not_or] at h
    unfold insert
    split
    · exact List.Perm.refl _
    · rw [if_neg h.1]
      exact ((ih h.2).cons (k, v)).trans (List.Perm.swap _ _ _)

end Table

end LayerNet
