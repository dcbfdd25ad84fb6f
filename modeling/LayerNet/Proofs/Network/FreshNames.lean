import LayerNet.Proofs.Network.Failures
import LayerNet.Proofs.Text.Trimming

/-!
# Names generated for a network

A generated name has the least number above the count of its base that gives a free name.  Names
that users gave may stand in its way, and other networks may have moved the counter on; but a
network has only so many names, and the search passes over each of them at most once.

Main definition:

- `NameRegistry.IsStemOf`: a base without the underscores at its end.

Main results:

- `Builder.add_unnamed`: what adding a layer with a generated name can do.
- `Network.fresh_of_reachable`: the name, the registry and the network after a search.
-/

namespace LayerNet

namespace NameRegistry

/-! ## Stems -/

/-- Whether a base is a text that ends in no underscore, with underscores behind it. -/
def IsStemOf (bare base : String) : Prop :=
  bare.toList.getLast? ≠ some '_' ∧ ∃ k, base = bare ++ String.ofList (List.replicate k '_')

theorem isStemOf_iff {bare base : String} : IsStemOf bare base ↔ bare = stem base := by
  constructor
  · rintro ⟨hlast, k, rfl⟩
    have hkept : ∀ c ∈ bare.toList.getLast?, decide (c = '_') = false := by
      intro c hc
      refine decide_eq_false ?_
      rintro rfl
      exact hlast hc
    have hrun : ∀ c ∈ List.replicate k '_', decide (c = '_') = true := by
      intro c hc
      exact decide_eq_true (List.eq_of_mem_replicate hc)
    rw [stem, Text.trimEnd, String.toList_append, String.toList_ofList,
      Text.trimEndChars_append hkept hrun, String.ofList_toList]
  · rintro rfl
    rcases Text.exists_trimEndChars (· = '_') base.toList with ⟨run, hsplit, hrun, hlast⟩
    have hreplicate : run = List.replicate run.length '_' :=
      List.eq_replicate_of_mem fun c hc => of_decide_eq_true (hrun c hc)
    refine ⟨fun hmem => ?_, run.length, ?_⟩
    · rw [stem, Text.trimEnd, String.toList_ofList] at hmem
      exact absurd rfl (of_decide_eq_false (hlast '_' hmem))
    · rw [stem, Text.trimEnd, ← hreplicate, ← String.ofList_append, ← hsplit, String.ofList_toList]

end NameRegistry

/-! ## Layers with generated names -/

namespace Builder

/-- A layer that is given no name is refused, or it is put at the end under the name that a search
finds; what the search counted stays counted in any case. -/
theorem add_unnamed {b : Builder} {spec : LayerSpec} {name : String} {after : NameRegistry}
    (hunnamed : spec.name = none)
    (hfound : b.registry.fresh (Table.keys b.network.ids) spec.kind.baseName = (name, after))
    (inputs : List LayerId) :
    (∃ e, b.add spec inputs = (.error e, ⟨b.network, after⟩)) ∨
      ∃ layer, layer.name = name ∧ b.network.ExtendedBy [layer] (b.network.push layer) ∧
        b.add spec inputs = (.ok b.network.size, ⟨b.network.push layer, after⟩) := by
  have hchosen : b.chooseName spec = (.ok name, after) := by
    rw [chooseName_of_unnamed b hunnamed, hfound]
  rcases add_cases b spec inputs with ⟨e, hadd⟩ | ⟨layer, hname, -, hadd⟩
  · rw [hchosen] at hadd
    exact Or.inl ⟨e, hadd⟩
  · have hfree : b.network.find? layer.name = none :=
      Table.find?_eq_none_iff.mpr (not_mem_keys_of_chooseName hname)
    rw [hchosen] at hname hadd
    exact Or.inr ⟨layer, (Except.ok.inj hname).symm, Network.extendedBy_push hfree, hadd⟩

end Builder

namespace Network

variable {net : Network}

/-- In every network that some history leads to, with every registry and for every base, the search
for a name finds the base without the underscores at its end, one underscore and a number: the least
one above the count of the base that gives a name which no layer has.  The number is greater than
the count by at most the number of layers and one more.  As a loop without a bound the search ends,
and with nothing else; counters that have a limit are enough for it exactly if the number is below
the limit.  The registry has counted up to the number then, and the counters of all other bases are
as they were.

If the search is for a new layer, then either the layer is refused and the network is as it was, or
the layer is put at the end under the name that was found, and all other layers and their names
stay. -/
theorem fresh_of_reachable (h : net.Reachable) (registry : NameRegistry) (base : String) :
    ∃ bare n after, NameRegistry.IsStemOf bare base ∧
      IsLeast {m | registry.count base < m ∧ bare ++ "_" ++ Decimal.natText m ∉ net.names} n ∧
      n ≤ registry.count base + net.size + 1 ∧
      registry.fresh (Table.keys net.ids) base = (bare ++ "_" ++ Decimal.natText n, after) ∧
      (∀ found, NameRegistry.Search (Table.keys net.ids) base (registry.next base) found ↔
        found = (bare ++ "_" ++ Decimal.natText n, after)) ∧
      (∀ limit, NameRegistry.SearchBelow limit (Table.keys net.ids) base registry
        (bare ++ "_" ++ Decimal.natText n, after) ↔ n < limit) ∧
      after.count base = n ∧ NameRegistry.AgreeBut base registry after ∧
      ∀ spec inputs, spec.name = none → spec.kind.baseName = base →
        (∃ e, (Builder.mk net registry).add spec inputs = (.error e, ⟨net, after⟩)) ∨
          ∃ layer, layer.name = bare ++ "_" ++ Decimal.natText n ∧
            net.ExtendedBy [layer] (net.push layer) ∧
            (Builder.mk net registry).add spec inputs =
              (.ok net.size, ⟨net.push layer, after⟩) := by
  have hname := NameRegistry.fresh_fst registry (Table.keys net.ids) base
  have hleast := NameRegistry.isLeast_count_fresh registry (Table.keys net.ids) base
  have hbound := NameRegistry.count_fresh_le registry (Table.keys net.ids) base
  have hothers := NameRegistry.agreeBut_fresh registry (Table.keys net.ids) base
  have hroom (limit : Nat) : NameRegistry.SearchBelow limit (Table.keys net.ids) base registry
      (registry.fresh (Table.keys net.ids) base) ↔
        (registry.fresh (Table.keys net.ids) base).2.count base < limit :=
    NameRegistry.searchBelow_fresh_iff
  -- the number is read off the registry that is left, and the table's keys are the names of the
  -- layers
  rcases hfound : registry.fresh (Table.keys net.ids) base with ⟨name, after⟩
  simp only [hfound] at hname hleast hbound hothers hroom
  obtain rfl : name = NameRegistry.numbered base (after.count base) := hname
  simp only [h.wellFormed.mem_keys_iff] at hleast
  rw [h.wellFormed.length_keys] at hbound
  refine ⟨NameRegistry.stem base, after.count base, after, NameRegistry.isStemOf_iff.mpr rfl,
    hleast, hbound, rfl, fun found => ?_, hroom, rfl, hothers, ?_⟩
  · rw [NameRegistry.search_next_iff, hfound]
    rfl
  · rintro spec inputs hunnamed rfl
    exact Builder.add_unnamed hunnamed hfound inputs

/-- A history in which users gave two names that the search will come upon. -/
def crowdedHistory : List Edit :=
  [.input { kind := .input (.batched [4]) false false, name := some "x" },
   .add { kind := .flatten, name := some "gate_3" } [0],
   .add { kind := .flatten, name := some "gate_2" } [1]]

/-- The network that the history leads to. -/
def crowded : Network :=
  (Builder.run ⟨{}, {}⟩ crowdedHistory).network

/-- A registry that has given out a name of the base before, and names of another one. -/
def usedRegistry : NameRegistry :=
  ⟨[("dense", 5), ("gate", 1)]⟩

/-- A layer of the user's own, with a base that ends in underscores. -/
def unnamedGate : LayerSpec :=
  { kind := .custom { className := "Gate", baseName := "gate__" } }

/-- The two names are passed over, and the layer gets the next one. -/
theorem fresh_crowded :
    crowded.Reachable ∧ usedRegistry.count "gate__" = 1 ∧
      ∃ after, IsLeast {m | 1 < m ∧ "gate" ++ "_" ++ Decimal.natText m ∉ crowded.names} 4 ∧
        NameRegistry.SearchBelow UInt64.size (Table.keys crowded.ids) "gate__" usedRegistry
          ("gate_4", after) ∧
        after.counters = [("dense", 5), ("gate", 4)] ∧
        ∃ layer, layer.name = "gate_4" ∧ crowded.ExtendedBy [layer] (crowded.push layer) ∧
          (Builder.mk crowded usedRegistry).add unnamedGate [2] =
            (.ok 3, ⟨crowded.push layer, after⟩) := by
  have hreachable : crowded.Reachable := ⟨{}, crowdedHistory, rfl⟩
  have hrun : usedRegistry.fresh (Table.keys crowded.ids) "gate__" =
      ("gate_4", ⟨[("dense", 5), ("gate", 4)]⟩) :=
    Prod.ext (by decide +kernel) (congrArg NameRegistry.mk (by decide +kernel))
  rcases fresh_of_reachable hreachable usedRegistry "gate__" with
    ⟨bare, n, after, hbare, hleast, -, hfresh, -, hroom, hcount, -, hadd⟩
  obtain rfl : bare = "gate" := (NameRegistry.isStemOf_iff.mp hbare).trans (by decide +kernel)
  rcases Prod.mk.inj (hrun.symm.trans hfresh) with ⟨-, rfl⟩
  obtain rfl : 4 = n := hcount
  refine ⟨hreachable, rfl, _, hleast, (hroom UInt64.size).mpr (by decide), rfl, ?_⟩
  rcases hadd unnamedGate [2] rfl rfl with ⟨e, hrefused⟩ | hadded
  · cases congrArg Prod.fst hrefused
  · exact hadded

end Network
end LayerNet
