import Mathlib.Data.List.Nodup
import Mathlib.Order.Bounds.Basic
import LayerNet.NameRegistry

/-!
# Fresh names

The search for a name that is not taken passes over the taken names of its base one by one.  The
names of a base are all different, so a search with as many tries as there are taken names cannot
run out of tries: it ends at the first free name.

Main results:

- `exists_skipped_of_freshWithin`: what a search with a bound passes over.
- `fresh_spec`: the name found is the first free one, and the registry has counted up to it.
- `fresh_not_mem`: the name found is not taken.
- `isLeast_count_fresh`: the number that the search stops at.
- `count_fresh_le`: how far the registry counts at most.
- `count_le_count_fresh`: no counter goes back.
- `search_fresh`: the search as a loop without a bound ends, with the same name.
- `search_next_iff`: it ends with nothing else.
- `searchBelow_fresh_iff`: when it ends if the counters have a limit.
-/

namespace LayerNet
namespace NameRegistry

/-- A search with a bound passes over taken names, and ends at a free one or after all its tries. -/
theorem exists_skipped_of_freshWithin (taken : List String) (base : String) (tries : Nat)
    (registry : NameRegistry) :
    ∃ skipped, (freshWithin taken base tries registry).1
        = numbered base (registry.count base + skipped + 1) ∧
      (freshWithin taken base tries registry).2.count base = registry.count base + skipped + 1 ∧
      (∀ i < skipped, numbered base (registry.count base + i + 1) ∈ taken) ∧
      (numbered base (registry.count base + skipped + 1) ∉ taken ∨ skipped = tries) := by
  induction tries generalizing registry with
  | zero => exact ⟨0, rfl, count_next_self registry base, by simp, Or.inr rfl⟩
  | succ tries ih =>
      by_cases htaken : numbered base (registry.count base + 1) ∈ taken
      · rcases ih (registry.next base).2 with ⟨skipped, hname, hcount, hskipped, hend⟩
        rw [count_next_self] at hname hcount hskipped hend
        have hrun : freshWithin taken base (tries + 1) registry =
            freshWithin taken base tries (registry.next base).2 := by
          simp [freshWithin, htaken]
        have hshift (i : Nat) :
            registry.count base + 1 + i + 1 = registry.count base + (i + 1) + 1 := by
          omega
        rw [hrun]
        refine ⟨skipped + 1, ?_, ?_, ?_, ?_⟩
        · rw [hname, hshift]
        · rw [hcount, hshift]
        · intro i hi
          cases i with
          | zero => exact htaken
          | succ i =>
              rw [← hshift]
              exact hskipped i (by omega)
        · rw [← hshift]
          exact hend.imp_right (congrArg (· + 1))
      · have hrun : freshWithin taken base (tries + 1) registry = registry.next base := by
          simp [freshWithin, htaken]
          rfl
        rw [hrun]
        exact ⟨0, rfl, count_next_self registry base, by simp, Or.inl htaken⟩

/-- More names of one base than there are taken names are not all taken. -/
theorem le_length_of_numbered_mem {taken : List String} (base : String) (start : Nat) {n : Nat}
    (h : ∀ i < n, numbered base (start + i + 1) ∈ taken) : n ≤ taken.length := by
  let names := (List.range n).map fun i => numbered base (start + i + 1)
  have hnodup : names.Nodup := by
    refine List.Nodup.map ?_ List.nodup_range
    intro i j hij
    have := numbered_injective hij
    omega
  have hsubset : names ⊆ taken := by
    intro name hname
    rcases List.mem_map.mp hname with ⟨i, hi, rfl⟩
    exact h i (List.mem_range.mp hi)
  simpa [names] using hnodup.length_le_of_subset hsubset

/-- The name found is the first one above the count that is not taken, and the registry has counted
up to it. -/
theorem fresh_spec (registry : NameRegistry) (taken : List String) (base : String) :
    ∃ n, registry.count base < n ∧ (registry.fresh taken base).1 = numbered base n ∧
      (registry.fresh taken base).2.count base = n ∧ numbered base n ∉ taken ∧
      ∀ m, registry.count base < m → m < n → numbered base m ∈ taken := by
  rcases exists_skipped_of_freshWithin taken base taken.length registry with
    ⟨skipped, hname, hcount, hskipped, hend⟩
  have hfree : numbered base (registry.count base + skipped + 1) ∉ taken := by
    rcases hend with hfree | hall
    · exact hfree
    · intro hmem
      have hle : taken.length + 1 ≤ taken.length := by
        refine le_length_of_numbered_mem base (registry.count base) fun i hi => ?_
        rcases Nat.lt_or_eq_of_le (Nat.le_of_lt_succ hi) with hlt | heq
        · exact hskipped i (by omega)
        · rw [heq, ← hall]
          exact hmem
      omega
  refine ⟨registry.count base + skipped + 1, by omega, hname, hcount, hfree, ?_⟩
  intro m hlow hhigh
  have hm : m = registry.count base + (m - registry.count base - 1) + 1 := by omega
  rw [hm]
  exact hskipped _ (by omega)

theorem fresh_not_mem (registry : NameRegistry) (taken : List String) (base : String) :
    (registry.fresh taken base).1 ∉ taken := by
  rcases fresh_spec registry taken base with ⟨n, -, hname, -, hfree, -⟩
  rw [hname]
  exact hfree

theorem fresh_fst (registry : NameRegistry) (taken : List String) (base : String) :
    (registry.fresh taken base).1 = numbered base ((registry.fresh taken base).2.count base) := by
  rcases fresh_spec registry taken base with ⟨n, -, hname, hcount, -⟩
  rw [hname, hcount]

/-- A search stops at the least number above the count that gives a name which is not taken. -/
theorem isLeast_count_fresh (registry : NameRegistry) (taken : List String) (base : String) :
    IsLeast {n | registry.count base < n ∧ numbered base n ∉ taken}
      ((registry.fresh taken base).2.count base) := by
  rcases fresh_spec registry taken base with ⟨n, hlow, -, hcount, hfree, hskipped⟩
  rw [hcount]
  refine ⟨⟨hlow, hfree⟩, fun m hm => Nat.le_of_not_lt fun hlt => ?_⟩
  exact hm.2 (hskipped m hm.1 hlt)

/-- A search passes over every taken name at most once. -/
theorem count_fresh_le (registry : NameRegistry) (taken : List String) (base : String) :
    (registry.fresh taken base).2.count base ≤ registry.count base + taken.length + 1 := by
  rcases fresh_spec registry taken base with ⟨n, hlow, -, hcount, -, hskipped⟩
  have hpassed : n - registry.count base - 1 ≤ taken.length := by
    refine le_length_of_numbered_mem base (registry.count base) fun i hi => ?_
    exact hskipped _ (by omega) (by omega)
  omega

/-! ## Counters of other bases -/

theorem count_le_count_next (registry : NameRegistry) (base other : String) :
    registry.count other ≤ (registry.next base).2.count other := by
  by_cases h : stem other = stem base
  · rw [count_congr registry h, count_congr (registry.next base).2 h, count_next_self]
    exact Nat.le_succ _
  · exact Nat.le_of_eq (count_next_of_ne registry h).symm

/-- What every name that is given out keeps, a search keeps, however many names it passes over. -/
theorem freshWithin_induction {P : NameRegistry → Prop} {base : String}
    (hnext : ∀ registry, P registry → P (registry.next base).2) (taken : List String) (tries : Nat)
    {registry : NameRegistry} (h : P registry) :
    P (freshWithin taken base tries registry).2 := by
  induction tries generalizing registry with
  | zero => exact hnext registry h
  | succ tries ih =>
      unfold freshWithin
      by_cases htaken : taken.contains (registry.next base).1 = true
      · simp only [htaken, if_true]
        exact ih (hnext registry h)
      · simp only [htaken]
        exact hnext registry h

/-- No counter goes back while a free name is searched for. -/
theorem count_le_count_freshWithin (taken : List String) (base other : String) (tries : Nat)
    (registry : NameRegistry) :
    registry.count other ≤ (freshWithin taken base tries registry).2.count other :=
  freshWithin_induction (fun later h => Nat.le_trans h (count_le_count_next later base other)) taken
    tries (Nat.le_refl _)

theorem count_le_count_fresh (registry : NameRegistry) (taken : List String)
    (base other : String) : registry.count other ≤ (registry.fresh taken base).2.count other :=
  count_le_count_freshWithin taken base other taken.length registry

/-! ## The search as a loop -/

/-- The search for a free name as a loop without a bound: as long as the name at hand is taken, the
next name of the base is looked at.  It relates the name and the registry at the start to those at
the end, so that there is something at the end only if the loop ends. -/
inductive Search (taken : List String) (base : String) :
    String × NameRegistry → String × NameRegistry → Prop where
  | free {name : String} {registry : NameRegistry} (hfree : name ∉ taken) :
      Search taken base (name, registry) (name, registry)
  | taken {name : String} {registry : NameRegistry} {found : String × NameRegistry}
      (htaken : name ∈ taken) (rest : Search taken base (registry.next base) found) :
      Search taken base (name, registry) found

/-- The loop has one outcome only. -/
theorem Search.unique {taken : List String} {base : String}
    {start found found' : String × NameRegistry} (h : Search taken base start found)
    (h' : Search taken base start found') : found = found' := by
  induction h with
  | free hfree =>
      cases h' with
      | free => rfl
      | taken htaken _ => exact absurd htaken hfree
  | taken htaken _ ih =>
      cases h' with
      | free hfree => exact absurd htaken hfree
      | taken _ rest => exact ih rest

/-- The loop with counters that hold only numbers below a limit, such as words of 64 bits: it goes
on to the next name as long as there is room for its number. -/
inductive SearchBelow (limit : Nat) (taken : List String) (base : String) :
    NameRegistry → String × NameRegistry → Prop where
  | free {registry : NameRegistry} (hroom : registry.count base + 1 < limit)
      (hfree : (registry.next base).1 ∉ taken) :
      SearchBelow limit taken base registry (registry.next base)
  | taken {registry : NameRegistry} {found : String × NameRegistry}
      (hroom : registry.count base + 1 < limit) (htaken : (registry.next base).1 ∈ taken)
      (rest : SearchBelow limit taken base (registry.next base).2 found) :
      SearchBelow limit taken base registry found

section

variable {limit : Nat} {taken : List String} {base : String} {registry : NameRegistry}
  {found : String × NameRegistry}

/-- A loop with a limit does what the loop without one does. -/
theorem SearchBelow.search (h : SearchBelow limit taken base registry found) :
    Search taken base (registry.next base) found := by
  induction h with
  | free _ hfree => exact .free hfree
  | taken _ htaken _ ih => exact .taken htaken ih

theorem SearchBelow.count_lt (h : SearchBelow limit taken base registry found) :
    found.2.count base < limit := by
  induction h with
  | @free registry hroom _ =>
      rw [count_next_self]
      exact hroom
  | taken _ _ _ ih => exact ih

/-- If there is room for the last number, there is room for all numbers on the way, as the count
only grows. -/
theorem searchBelow_freshWithin {tries : Nat}
    (hfree : (freshWithin taken base tries registry).1 ∉ taken)
    (hlimit : (freshWithin taken base tries registry).2.count base < limit) :
    SearchBelow limit taken base registry (freshWithin taken base tries registry) := by
  induction tries generalizing registry with
  | zero => exact .free (count_next_self registry base ▸ hlimit) hfree
  | succ tries ih =>
      unfold freshWithin at hfree hlimit ⊢
      by_cases htaken : (registry.next base).1 ∈ taken
      · simp only [List.contains_iff_mem.mpr htaken, if_true] at hfree hlimit ⊢
        have hroom : registry.count base + 1 < limit := by
          rw [← count_next_self]
          exact Nat.lt_of_le_of_lt (count_le_count_freshWithin taken base base tries _) hlimit
        exact .taken hroom htaken (ih hfree hlimit)
      · simp only [List.contains_iff_mem, if_neg htaken] at hlimit ⊢
        exact .free (count_next_self registry base ▸ hlimit) htaken

theorem searchBelow_fresh (hlimit : (registry.fresh taken base).2.count base < limit) :
    SearchBelow limit taken base registry (registry.fresh taken base) :=
  searchBelow_freshWithin (fresh_not_mem registry taken base) hlimit

end

/-- The loop without a bound ends, with the name that the bounded search finds. -/
theorem search_fresh (registry : NameRegistry) (taken : List String) (base : String) :
    Search taken base (registry.next base) (registry.fresh taken base) :=
  (searchBelow_fresh (Nat.lt_succ_self _)).search

theorem search_next_iff {registry : NameRegistry} {taken : List String} {base : String}
    {found : String × NameRegistry} :
    Search taken base (registry.next base) found ↔ found = registry.fresh taken base := by
  constructor
  · intro h
    exact h.unique (search_fresh registry taken base)
  · rintro rfl
    exact search_fresh registry taken base

/-- With a limit the loop ends with this name exactly if the number of the name is below the
limit. -/
theorem searchBelow_fresh_iff {limit : Nat} {registry : NameRegistry} {taken : List String}
    {base : String} :
    SearchBelow limit taken base registry (registry.fresh taken base) ↔
      (registry.fresh taken base).2.count base < limit :=
  ⟨SearchBelow.count_lt, searchBelow_fresh⟩

end NameRegistry
end LayerNet
