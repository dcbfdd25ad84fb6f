import LayerNet.Proofs.Network.Document
import LayerNet.Proofs.Network.Failures
import LayerNet.Proofs.Network.PostOrder

/-!
# Chains of layers

A chain that is accepted puts an input and the layers behind it at the end of a network, each fed by
the one before it and nothing else.  What is behind a layer of the chain are the layers of the chain
up to there: the walk goes back to the input and emits the chain on its way, from the input on.
Whatever else the network holds, the assembly behind the last layer is the chain.

Main definition:

- `chainFeeding`: the names that feed the layer at a place of a chain.

Main results:

- `Builder.chain_eq_ok`: a chain that is accepted is put at the end of the network.
- `ExtendedBy.emits_chain`: what is behind a layer of the chain.
- `assemble_chain`: the assembly behind the last layer of a chain.
-/

namespace LayerNet

/-! ## Chains that are accepted -/

namespace Network

theorem size_pushAll (net : Network) (layers : List Layer) :
    (net.pushAll layers).size = net.size + layers.length := by
  induction layers generalizing net with
  | nil => rfl
  | cons layer layers ih =>
      have hnext :
          (net.pushAll (layer :: layers)).size = ((net.push layer).pushAll layers).size := rfl
      rw [hnext, ih, size_push, List.length_cons]
      omega

theorem ExtendedBy.size_eq {net net' : Network} {layers : List Layer}
    (h : net.ExtendedBy layers net') : net'.size = net.size + layers.length := by
  rw [h.eq_pushAll, size_pushAll]

end Network

namespace Builder

variable {b b' : Builder} {id : LayerId}

theorem addChain_eq_ok {last : LayerId} {specs : List LayerSpec}
    (h : b.addChain last specs = (.ok id, b')) (hlast : last + 1 = b.network.size) :
    ∃ layers, Chained [last] b.network.size specs layers ∧
      b.network.ExtendedBy layers b'.network ∧ id + 1 = b'.network.size := by
  induction specs generalizing b last with
  | nil =>
      cases h
      exact ⟨[], chained_nil _ _, Network.extendedBy_nil _, hlast⟩
  | cons spec specs ih =>
      unfold addChain at h
      split at h <;> rename_i hadd
      · cases congrArg Prod.fst h
      · rcases add_eq_ok hadd with ⟨layer, hmade, hfree, rfl, hnext⟩
        have hsize := (congrArg Network.size hnext).trans (Network.size_push _ _)
        rcases ih h hsize.symm with ⟨layers, hchained, hextended, hid⟩
        rw [hsize] at hchained
        rw [hnext] at hextended
        exact ⟨layer :: layers, hchained.cons hmade, hextended.cons hfree, hid⟩

/-- A chain that is accepted is put at the end of the network, one layer for each specification. -/
theorem chain_eq_ok {input : LayerSpec} {specs : List LayerSpec}
    (h : b.chain input specs = (.ok id, b')) :
    ∃ layers, Chained [] b.network.size (input :: specs) layers ∧
      b.network.ExtendedBy layers b'.network ∧ id = b.network.size + specs.length := by
  unfold chain at h
  split at h <;> rename_i hinput
  · cases congrArg Prod.fst h
  · rcases add_eq_ok hinput with ⟨layer, hmade, hfree, rfl, hnext⟩
    have hsize := (congrArg Network.size hnext).trans (Network.size_push _ _)
    rcases addChain_eq_ok h hsize.symm with ⟨layers, hchained, hextended, hid⟩
    have hlength : layers.length = specs.length := hchained.length_eq
    have hlast : id = b.network.size + specs.length := by
      rw [hextended.size_eq, hsize, hlength, Nat.add_right_comm] at hid
      exact Nat.succ.inj hid
    rw [hsize] at hchained
    rw [hnext] at hextended
    exact ⟨layer :: layers, hchained.cons hmade, hextended.cons hfree, hlast⟩

end Builder

/-! ## What is behind a chain -/

/-- The names that feed the layer at a place of a chain: none at the first place, and else that of
the layer before it. -/
def chainFeeding (layers : List Layer) : Nat → List String
  | 0 => []
  | place + 1 => (layers[place]?).toList.map Layer.name

namespace Network

variable {net net' : Network} {specs : List LayerSpec} {layers : List Layer} {place : Nat}

/-- The layers of a chain are found behind the old ones, each fed by the one before it. -/
theorem ExtendedBy.layer?_chain (h : net.ExtendedBy layers net')
    (hchained : Chained [] net.size specs layers) {layer : Layer}
    (hlayer : layers[place]? = some layer) :
    net'.layer? (net.size + place) = some layer ∧
      layer.inputs = chainInputs [] net.size place := by
  have hlt : place < specs.length := by
    rw [← hchained.length_eq]
    exact (List.getElem?_eq_some_iff.mp hlayer).1
  have hmade := hchained.made place _ layer (List.getElem?_eq_getElem hlt) hlayer
  exact ⟨(h.layer?_new place).trans hlayer, hmade.inputs_eq⟩

/-- Behind a layer of the chain there are the layers of the chain up to it. -/
theorem ExtendedBy.emits_chain (h : net.ExtendedBy layers net')
    (hchained : Chained [] net.size specs layers) (hplace : place < layers.length) :
    net'.Emits [] [net.size + place] (List.range' net.size (place + 1)) := by
  rcases h.layer?_chain hchained (List.getElem?_eq_getElem hplace) with ⟨hlayer, hinputs⟩
  induction place with
  | zero =>
      have hnone : net'.Emits [] layers[0].inputs [] := by
        rw [hinputs]
        exact .nil
      exact .emit List.not_mem_nil hlayer hnone .nil
  | succ place ih =>
      have hbefore : place < layers.length := Nat.lt_of_succ_lt hplace
      rcases h.layer?_chain hchained (List.getElem?_eq_getElem hbefore) with ⟨hlayer', hinputs'⟩
      rw [List.range'_1_concat]
      refine .emit List.not_mem_nil hlayer ?_ .nil
      rw [hinputs]
      exact ih hbefore hlayer' hinputs'

theorem ExtendedBy.record_chain (h : net.ExtendedBy layers net')
    (hchained : Chained [] net.size specs layers) {layer : Layer}
    (hlayer : layers[place]? = some layer) :
    net'.record (net.size + place) = .ok (layer.record (chainFeeding layers place)) := by
  rcases h.layer?_chain hchained hlayer with ⟨hat, hinputs⟩
  rw [record_eq_ok_iff]
  cases place with
  | zero =>
      rw [chainInputs] at hinputs
      exact ⟨layer, [], hat, hinputs ▸ rfl, rfl⟩
  | succ place =>
      have hlt : place < layers.length :=
        Nat.lt_of_succ_lt (List.getElem?_eq_some_iff.mp hlayer).1
      have hbefore := List.getElem?_eq_getElem hlt
      rcases h.layer?_chain hchained hbefore with ⟨hat', -⟩
      refine ⟨layer, [layers[place]], hat, ?_, ?_⟩
      · rw [hinputs, chainInputs, mapM_cons_eq_ok_iff]
        exact ⟨_, [], layer_eq_ok_iff.mpr hat', rfl, rfl⟩
      · rw [chainFeeding, hbefore]
        rfl

/-! ## Assemblies of chains -/

/-- An order that is a chain has the records of the chain. -/
theorem ExtendedBy.records_chain (h : net.ExtendedBy layers net')
    (hchained : Chained [] net.size specs layers) {records : List LayerRecord}
    (hrecords : (List.range' net.size layers.length).mapM net'.record = .ok records) :
    records = layers.mapIdx fun place layer => layer.record (chainFeeding layers place) := by
  have hlength : records.length = layers.length := by
    have hunits := map_eq_map_of_mapM_eq_ok (g := fun _ => ()) (k := fun _ => ()) hrecords
      fun _ _ _ => rfl
    simpa using (congrArg List.length hunits).symm
  apply List.ext_getElem?
  intro place
  rw [List.getElem?_mapIdx]
  by_cases hplace : place < layers.length
  · have hlayer := List.getElem?_eq_getElem hplace
    have hid : (List.range' net.size layers.length)[place]? = some (net.size + place) := by
      rw [List.getElem?_range' hplace, Nat.one_mul]
    rcases getElem?_of_mapM_eq_ok hrecords hid with ⟨record, hat, hrecord⟩
    rw [h.record_chain hchained hlayer, Except.ok.injEq] at hrecord
    rw [hat, hlayer, Option.map_some, hrecord]
  · rw [List.getElem?_eq_none (by omega), List.getElem?_eq_none (by omega)]
    rfl

/-- The records of a chain name the layer before as the only inbound one, and the first names
none. -/
theorem inbound_of_chain {records : List LayerRecord}
    (hrecords :
      records = layers.mapIdx fun place layer => layer.record (chainFeeding layers place)) :
    (∀ first, records[0]? = some first → first.inbound = [[]]) ∧
      ∀ place before record, records[place]? = some before → records[place + 1]? = some record →
        record.inbound = [[before.name]] := by
  constructor
  · intro first hfirst
    rw [hrecords, List.getElem?_mapIdx] at hfirst
    rcases Option.map_eq_some_iff.mp hfirst with ⟨layer, -, rfl⟩
    rfl
  · intro place before record hbefore hrecord
    rw [hrecords, List.getElem?_mapIdx] at hbefore hrecord
    rcases Option.map_eq_some_iff.mp hbefore with ⟨layer, hlayer, rfl⟩
    rcases Option.map_eq_some_iff.mp hrecord with ⟨next, -, rfl⟩
    rw [Layer.record, chainFeeding, hlayer]
    rfl

/-- A chain that is accepted can be assembled behind its last layer, and the assembly is the chain:
the order is that of the new layers, the input first; the records are those of these layers; the
first one names no inbound layers, and every other one names the one before it; and the only output
is the last one. -/
theorem assemble_chain {b b' : Builder} {input : LayerSpec} {specs : List LayerSpec} {id : LayerId}
    (hreachable : b.network.Reachable) (h : b.chain input specs = (.ok id, b')) :
    ∃ layers a, Chained [] b.network.size (input :: specs) layers ∧
      b.network.ExtendedBy layers b'.network ∧ id = b.network.size + specs.length ∧
      b'.network.assemble [id] = .ok a ∧
      a.order = List.range' b.network.size (specs.length + 1) ∧
      a.definition.layers =
        layers.mapIdx (fun place layer => layer.record (chainFeeding layers place)) ∧
      (∀ first, a.definition.layers[0]? = some first → first.inbound = [[]]) ∧
      (∀ place before record, a.definition.layers[place]? = some before →
        a.definition.layers[place + 1]? = some record → record.inbound = [[before.name]]) ∧
      ∃ last, a.definition.layers.getLast? = some last ∧
        a.definition.outputLayers = [last.name] := by
  have hnet' : b'.network.WellFormed := by
    have happly := Builder.wellFormed_apply hreachable.wellFormed (.chain input specs)
    rwa [Builder.apply, h] at happly
  rcases Builder.chain_eq_ok h with ⟨layers, hchained, hextended, rfl⟩
  have hlength : layers.length = specs.length + 1 := hchained.length_eq
  have hlast : specs.length < layers.length := by omega
  have hemits := hextended.emits_chain hchained hlast
  rcases exists_assemble_eq_ok hnet' (List.cons_ne_nil _ [])
    ((exists_emits_iff hnet').mp ⟨_, hemits⟩) with ⟨a, ha⟩
  have horder : a.order = List.range' b.network.size (specs.length + 1) :=
    (emits_of_assemble hnet' ha).functional hemits
  have hrecords : a.definition.layers =
      layers.mapIdx fun place layer => layer.record (chainFeeding layers place) := by
    rcases assemble_eq_ok_iff.mp ha with ⟨order, _, records, _, -, -, hmap, -, rfl⟩
    have heq : order = List.range' b.network.size (specs.length + 1) := horder
    rw [heq, ← hlength] at hmap
    exact hextended.records_chain hchained hmap
  rcases inbound_of_chain hrecords with ⟨hfirst, hlater⟩
  refine ⟨layers, a, hchained, hextended, rfl, ha, horder, hrecords, hfirst, hlater,
    layers[specs.length].record (chainFeeding layers specs.length), ?_, ?_⟩
  · rw [List.getLast?_eq_getElem?, hrecords, List.getElem?_mapIdx, List.length_mapIdx, hlength,
      Nat.add_sub_cancel, List.getElem?_eq_getElem hlast, Option.map_some]
  · have hat := hextended.layer?_chain hchained (List.getElem?_eq_getElem hlast)
    have houtputs : a.definition.outputLayers.map some =
        [b.network.size + specs.length].map (b'.network.names[·]?) :=
      outputLayers_of_assemble hnet' ha
    rw [List.map_singleton, getElem?_names, hat.1, Option.map_some] at houtputs
    exact List.map_injective_iff.mpr (fun _ _ heq => Option.some.inj heq) houtputs

/-- An input and two layers behind it, the first of them without a given name. -/
def endingChain : Except NetworkError LayerId × Builder :=
  Builder.dodgingBuilder.chain { kind := .input (.batched [4]) false false }
    [Builder.unnamedFlatten, { kind := .flatten, name := some "end" }]

/-- The first two layers of the network have cycles behind them; the chain has not. -/
theorem assemble_chain_endingChain :
    Builder.dodgingBuilder.network.Reachable ∧ endingChain.1 = .ok 5 ∧
      ∃ a, endingChain.2.network.assemble [5] = .ok a ∧ a.order = [3, 4, 5] ∧
        a.definition.outputLayers = ["end"] := by
  have hreachable : Builder.dodgingBuilder.network.Reachable := ⟨{}, dodgingHistory, rfl⟩
  have hok : endingChain.1 = .ok 5 := rfl
  rcases assemble_chain hreachable (Prod.ext hok rfl) with
    ⟨layers, a, hchained, -, -, ha, horder, hrecords, -, -, last, hlast, houtputs⟩
  have hlength : layers.length = 3 := hchained.length_eq
  rw [List.getLast?_eq_getElem?, hrecords, List.getElem?_mapIdx, List.length_mapIdx,
    hlength] at hlast
  rcases Option.map_eq_some_iff.mp hlast with ⟨layer, hlayer, rfl⟩
  have hname : layer.name = "end" := (hchained.made 2 _ layer rfl hlayer).given "end" rfl
  refine ⟨hreachable, hok, a, ha, horder, ?_⟩
  rw [houtputs, Layer.record, hname]

end Network
end LayerNet
