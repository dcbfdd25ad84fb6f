import Mathlib.Data.List.Induction
import Mathlib.Data.List.Nodup
import Mathlib.Data.String.Basic
import LayerNet.Table

/-!
# What a table is determined by

In a sorted table no key stands twice, and what is found for the keys determines the table.  A table
that is made of pairs is sorted, and holds for each key the last of its values.  So it makes no
difference whether the pairs are put in order before or after something is done to each of them, as
long as different keys stay different.

Main definitions:

- `Table.Sorted`: tables whose keys ascend.

Main results:

- `Sorted.eq_of_find?`: a sorted table is determined by what is found in it.
- `find?_foldl_insert`: what is found after pairs are put in one after another.
- `find?_ofPairs`, `ofPairs_cons`: the last value of each key is kept.
- `perm_ofPairs`: if no key comes twice, all pairs are kept.
- `ofPairs_map_ofPairs`: making a table twice.
-/

namespace LayerNet
namespace Table

variable {α β : Type} {table table' : Table α}

/-! ## Sorted tables -/

/-- Whether the keys ascend. -/
def Sorted (table : Table α) : Prop :=
  table.Pairwise fun entry other => entry.1 < other.1

theorem sorted_nil : Sorted ([] : Table α) :=
  List.Pairwise.nil

theorem sorted_cons {entry : String × α} {rest : Table α} :
    Sorted (entry :: rest) ↔ (∀ other ∈ rest, entry.1 < other.1) ∧ Sorted rest :=
  List.pairwise_cons

/-- A sorted table has no key twice. -/
theorem Sorted.nodup_keys (h : Sorted table) : (keys table).Nodup := by
  rw [keys, List.Nodup, List.pairwise_map]
  exact h.imp fun hlt => ne_of_lt hlt

/-- What stands in a table after an insertion was put there or stood there before. -/
theorem mem_of_mem_insert {key : String} {value : α} {entry : String × α}
    (h : entry ∈ insert key value table) : entry = (key, value) ∨ entry ∈ table := by
  induction table with
  | nil => exact Or.inl (List.mem_singleton.mp h)
  | cons head rest ih =>
      rcases head with ⟨k, v⟩
      unfold insert at h
      split at h
      · exact List.mem_cons.mp h
      · split at h
        · exact (List.mem_cons.mp h).imp_right (List.mem_cons_of_mem _)
        · rcases List.mem_cons.mp h with rfl | h
          · exact Or.inr List.mem_cons_self
          · exact (ih h).imp_right (List.mem_cons_of_mem _)

/-- Insertion keeps a table sorted. -/
theorem Sorted.insert (h : Sorted table) (key : String) (value : α) :
    Sorted (insert key value table) := by
  induction table with
  | nil => exact List.pairwise_singleton _ _
  | cons head rest ih =>
      rcases head with ⟨k, v⟩
      rcases sorted_cons.mp h with ⟨hhead, hrest⟩
      unfold Table.insert
      split
      · rename_i hlt
        refine sorted_cons.mpr ⟨fun other hother => ?_, h⟩
        rcases List.mem_cons.mp hother with rfl | hother
        · exact hlt
        · exact lt_trans hlt (hhead other hother)
      · split
        · rename_i heq
          subst heq
          exact sorted_cons.mpr ⟨hhead, hrest⟩
        · rename_i hnot hne
          refine sorted_cons.mpr ⟨fun other hother => ?_, ih hrest⟩
          rcases mem_of_mem_insert hother with rfl | hother
          · exact lt_of_le_of_ne (not_lt.mp hnot) (Ne.symm hne)
          · exact hhead other hother

/-- A key below all others is not there. -/
theorem find?_eq_none_of_lt {key : String} (h : ∀ entry ∈ table, key < entry.1) :
    find? key table = none := by
  refine find?_eq_none_iff.mpr fun hmem => ?_
  rcases List.mem_map.mp hmem with ⟨entry, hentry, rfl⟩
  exact lt_irrefl _ (h entry hentry)

/-- The first key of a sorted table is not greater than any key that is found. -/
theorem Sorted.le_of_find? {head : String × α} {rest : Table α} (h : Sorted (head :: rest))
    {key : String} (hfound : find? key (head :: rest) ≠ none) : head.1 ≤ key := by
  refine not_lt.mp fun hlt => hfound (find?_eq_none_of_lt fun entry hentry => ?_)
  rcases List.mem_cons.mp hentry with rfl | hentry
  · exact hlt
  · exact lt_trans hlt ((sorted_cons.mp h).1 entry hentry)

theorem find?_cons_self (key : String) (value : α) (rest : Table α) :
    find? key ((key, value) :: rest) = some value :=
  if_pos rfl

theorem find?_cons_of_ne {key other : String} (h : other ≠ key) (value : α) (rest : Table α) :
    find? key ((other, value) :: rest) = find? key rest :=
  if_neg h

/-- A sorted table is determined by what is found in it. -/
theorem Sorted.eq_of_find? (h : Sorted table) (h' : Sorted table')
    (heq : ∀ key, find? key table = find? key table') : table = table' := by
  induction table generalizing table' with
  | nil =>
      cases table' with
      | nil => rfl
      | cons head' rest' => simpa [find?] using heq head'.1
  | cons head rest ih =>
      cases table' with
      | nil => simpa [find?] using heq head.1
      | cons head' rest' =>
          rcases head with ⟨k, v⟩
          rcases head' with ⟨k', v'⟩
          -- each first key is found in the other table too, so neither is the greater one
          have hle : k ≤ k' := h.le_of_find? (by rw [heq, find?_cons_self]; simp)
          have hle' : k' ≤ k := h'.le_of_find? (by rw [← heq, find?_cons_self]; simp)
          obtain rfl : k = k' := le_antisymm hle hle'
          have hvalue := heq k
          rw [find?_cons_self, find?_cons_self, Option.some.injEq] at hvalue
          rw [hvalue, ih (sorted_cons.mp h).2 (sorted_cons.mp h').2 fun key => ?_]
          by_cases hkey : k = key
          · subst hkey
            rw [find?_eq_none_of_lt (sorted_cons.mp h).1, find?_eq_none_of_lt (sorted_cons.mp h').1]
          · rw [← find?_cons_of_ne hkey v, heq, find?_cons_of_ne hkey]

/-! ## What is found -/

theorem find?_append (key : String) (front back : Table α) :
    find? key (front ++ back) = (find? key front).or (find? key back) := by
  induction front with
  | nil => rfl
  | cons head front ih =>
      rcases head with ⟨k, v⟩
      by_cases hkey : k = key
      · subst hkey
        rw [List.cons_append, find?_cons_self, find?_cons_self, Option.some_or]
      · rw [List.cons_append, find?_cons_of_ne hkey, find?_cons_of_ne hkey, ih]

/-- If no key stands twice, the order does not matter. -/
theorem find?_reverse (h : (keys table).Nodup) (key : String) :
    find? key table.reverse = find? key table := by
  have hreverse : (keys table.reverse).Nodup := by
    rw [keys, List.map_reverse]
    exact List.nodup_reverse.mpr h
  refine Option.ext fun value => ?_
  rw [find?_eq_some_iff_mem hreverse, find?_eq_some_iff_mem h, List.mem_reverse]

section

variable {f : String → String} (g : α → β)

/-- Under other keys, all of them different, what is found is what was there. -/
theorem find?_map_of_injective (hf : Function.Injective f) (key : String) (table : Table α) :
    find? (f key) (table.map (Prod.map f g)) = (find? key table).map g := by
  induction table with
  | nil => rfl
  | cons head rest ih =>
      rcases head with ⟨k, v⟩
      by_cases hkey : k = key
      · subst hkey
        rw [List.map_cons, Prod.map_apply, find?_cons_self, find?_cons_self, Option.map_some]
      · rw [List.map_cons, Prod.map_apply, find?_cons_of_ne (hf.ne hkey), find?_cons_of_ne hkey, ih]

theorem find?_map_of_not_range {key : String} (hkey : ∀ k, f k ≠ key) (table : Table α) :
    find? key (table.map (Prod.map f g)) = none := by
  refine find?_eq_none_iff.mpr fun hmem => ?_
  rcases List.mem_map.mp hmem with ⟨entry, hentry, rfl⟩
  rcases List.mem_map.mp hentry with ⟨before, -, rfl⟩
  exact hkey before.1 rfl

end

/-! ## Pairs put into a table -/

theorem Sorted.foldl_insert (h : Sorted table) (pairs : List (String × α)) :
    Sorted (pairs.foldl (fun table pair => Table.insert pair.1 pair.2 table) table) := by
  induction pairs generalizing table with
  | nil => exact h
  | cons pair pairs ih => exact ih (h.insert pair.1 pair.2)

/-- The last value that is put in for a key is found, and what was there if there is none. -/
theorem find?_foldl_insert (key : String) (pairs : List (String × α)) (table : Table α) :
    find? key (pairs.foldl (fun table pair => Table.insert pair.1 pair.2 table) table) =
      (find? key pairs.reverse).or (find? key table) := by
  induction pairs using List.reverseRecOn with
  | nil => rfl
  | append_singleton pairs entry ih =>
      rcases entry with ⟨k, v⟩
      rw [List.foldl_concat, List.reverse_concat]
      by_cases hkey : k = key
      · subst hkey
        rw [find?_insert_self, find?_cons_self, Option.some_or]
      · rw [find?_insert_of_ne (Ne.symm hkey), ih, find?_cons_of_ne hkey]

/-! ## Tables of pairs -/

theorem sorted_ofPairs (pairs : List (String × α)) : Sorted (ofPairs pairs) :=
  sorted_nil.foldl_insert pairs

/-- Of each key the last value is kept. -/
theorem find?_ofPairs (key : String) (pairs : List (String × α)) :
    find? key (ofPairs pairs) = find? key pairs.reverse := by
  rw [ofPairs, find?_foldl_insert, find?_nil, Option.or_none]

/-- If no key comes twice, no value is lost. -/
theorem mem_ofPairs_iff {pairs : List (String × α)} (h : (keys pairs).Nodup)
    {entry : String × α} : entry ∈ ofPairs pairs ↔ entry ∈ pairs := by
  rcases entry with ⟨key, value⟩
  rw [← find?_eq_some_iff_mem (sorted_ofPairs pairs).nodup_keys, find?_ofPairs, find?_reverse h,
    find?_eq_some_iff_mem h]

/-- A table of pairs has the pairs, in the order of their keys. -/
theorem perm_ofPairs {pairs : List (String × α)} (h : (keys pairs).Nodup) :
    (ofPairs pairs).Perm pairs := by
  have hnodup : (ofPairs pairs).Nodup := (sorted_ofPairs pairs).nodup_keys.of_map
  exact (List.perm_ext_iff_of_nodup hnodup h.of_map).mpr fun _ => mem_ofPairs_iff h

/-- A value whose key comes again is left out. -/
theorem ofPairs_cons (key : String) (value : α) (pairs : List (String × α)) :
    ofPairs ((key, value) :: pairs) =
      if (find? key (ofPairs pairs)).isSome then ofPairs pairs
      else insert key value (ofPairs pairs) := by
  have hsorted : Sorted (if (find? key (ofPairs pairs)).isSome then ofPairs pairs
      else insert key value (ofPairs pairs)) := by
    split
    · exact sorted_ofPairs pairs
    · exact (sorted_ofPairs pairs).insert key value
  refine (sorted_ofPairs _).eq_of_find? hsorted fun other => ?_
  rw [find?_ofPairs, List.reverse_cons, find?_append, ← find?_ofPairs]
  by_cases hkey : key = other
  · subst hkey
    rw [find?_cons_self]
    split <;> rename_i hfound
    · rcases Option.isSome_iff_exists.mp hfound with ⟨last, hlast⟩
      rw [hlast, Option.some_or]
    · rw [find?_insert_self, Option.not_isSome_iff_eq_none.mp hfound, Option.none_or]
  · rw [find?_cons_of_ne hkey, find?_nil, Option.or_none]
    split
    · rfl
    · rw [find?_insert_of_ne (Ne.symm hkey)]

/-- Pairs may be put in order before something is done to each of them. -/
theorem ofPairs_map_ofPairs {f : String → String} (hf : Function.Injective f) (g : α → β)
    (pairs : List (String × α)) :
    ofPairs ((ofPairs pairs).map (Prod.map f g)) = ofPairs (pairs.map (Prod.map f g)) := by
  refine (sorted_ofPairs _).eq_of_find? (sorted_ofPairs _) fun key => ?_
  rw [find?_ofPairs, find?_ofPairs, ← List.map_reverse, ← List.map_reverse]
  by_cases hkey : ∃ k, f k = key
  · rcases hkey with ⟨k, rfl⟩
    rw [find?_map_of_injective g hf, find?_map_of_injective g hf,
      find?_reverse (sorted_ofPairs pairs).nodup_keys, find?_ofPairs]
  · rw [find?_map_of_not_range g (not_exists.mp hkey),
      find?_map_of_not_range g (not_exists.mp hkey)]

end Table
end LayerNet
