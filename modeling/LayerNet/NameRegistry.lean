import LayerNet.Decimal.Digits
import LayerNet.Table
import LayerNet.Text.CodePoints

/-!
# Generated names

A registry counts, for every stem, how many names it has given out; the next name is the stem, an
underscore and the next number.  The stem of a base is the base without the underscores at its end,
so that bases that differ only there share a counter.

Main definitions:

- `NameRegistry.next`: the next name of a base.
- `NameRegistry.fresh`: the next name of a base that is not among given names.
-/

namespace LayerNet

/-- How many names have been given out for each stem. -/
structure NameRegistry where
  counters : Table Nat := []

namespace NameRegistry

/-- The base without the underscores at its end. -/
def stem (base : String) : String :=
  Text.trimEnd (· = '_') base

/-- How many names have been given out for a base. -/
def count (registry : NameRegistry) (base : String) : Nat :=
  (Table.find? (stem base) registry.counters).getD 0

/-- The name with the given number. -/
def numbered (base : String) (n : Nat) : String :=
  stem base ++ "_" ++ Decimal.natText n

/-- The next name of a base, and the registry that has counted it. -/
def next (registry : NameRegistry) (base : String) : String × NameRegistry :=
  let n := registry.count base + 1
  (numbered base n, ⟨Table.insert (stem base) n registry.counters⟩)

/-- The next name of a base that is not taken, at most `tries` names being passed over. -/
def freshWithin (taken : List String) (base : String) :
    Nat → NameRegistry → String × NameRegistry
  | 0, registry => registry.next base
  | tries + 1, registry =>
    let (name, registry) := registry.next base
    if taken.contains name then freshWithin taken base tries registry else (name, registry)

/-- The next name of a base that is not taken.  The names of a base are all different, so of any
`taken.length + 1` of them one is free. -/
def fresh (registry : NameRegistry) (taken : List String) (base : String) :
    String × NameRegistry :=
  freshWithin taken base taken.length registry

/-- The names of one base are all different. -/
theorem numbered_injective {base : String} {m n : Nat} (h : numbered base m = numbered base n) :
    m = n :=
  Decimal.natText_injective ((String.append_right_inj _).1 h)

/-- The next name has the next number. -/
@[simp]
theorem next_fst (registry : NameRegistry) (base : String) :
    (registry.next base).1 = numbered base (registry.count base + 1) :=
  rfl

@[simp]
theorem count_next_self (registry : NameRegistry) (base : String) :
    (registry.next base).2.count base = registry.count base + 1 := by
  simp [next, count]

/-- Bases of other stems are counted on their own. -/
theorem count_next_of_ne (registry : NameRegistry) {base other : String}
    (h : stem other ≠ stem base) : (registry.next base).2.count other = registry.count other := by
  simp [next, count, Table.find?_insert_of_ne h]

/-- Bases of one stem share a counter. -/
theorem count_congr (registry : NameRegistry) {base other : String} (h : stem base = stem other) :
    registry.count base = registry.count other := by
  rw [count, h, count]

end NameRegistry

end LayerNet
