import LayerNet.Proofs.Distinct
import LayerNet.Proofs.Network.Assembly

/-!
# What a model definition says

A model definition refers to layers by their names.  Since names are all different in a well-formed
network, a name leads to one place of the document, and since layers follow their inputs in the
order of an assembly, the inputs of a layer stand before it.  The edges between the layers can be
read off the document alone.

Main definitions:

- `ModelDefinition.position?`, `ModelDefinition.edges`: what a document says of places and edges.
- `Network.Describes`: a document that says of an order of layers what the network says.

Main results:

- `Describes.sources`: the names of inputs lead to the inputs.
- `describes_of_assemble`: what the document of an assembly describes.
- `assemble_document`: all that the document of an assembly says of layers, inputs and outputs.
-/

namespace LayerNet

/-! ## Reading a document -/

namespace ModelDefinition

/-- The names of the layers, in order. -/
def layerNames (d : ModelDefinition) : List String :=
  d.layers.map LayerRecord.name

/-- The place of the layer of a name. -/
def position? (d : ModelDefinition) (name : String) : Option Nat :=
  d.layerNames.idxOf? name

/-- For each layer, the places of the layers that feed it. -/
def edges (d : ModelDefinition) : List (List (Option Nat)) :=
  d.layers.map fun record => record.inbound.flatten.map d.position?

end ModelDefinition

namespace Network

variable {net : Network} {order outputs : List LayerId} {d : ModelDefinition}

/-! ## Names of layers -/

/-- A name stands for one layer only. -/
theorem WellFormed.eq_of_names_eq (h : net.WellFormed) {id other : LayerId} (hid : id < net.size)
    (heq : net.names[id]? = net.names[other]?) : id = other := by
  rw [← length_names] at hid
  exact (List.getElem?_inj hid h.names_nodup).mp heq

/-- Different layers have different names, however they are listed. -/
theorem WellFormed.nodup_of_map_names (h : net.WellFormed) {ids : List LayerId}
    {names : List String} (hids : ids.Nodup) (hlt : ∀ id ∈ ids, id < net.size)
    (heq : names.map some = ids.map (net.names[·]?)) : names.Nodup := by
  have hmap : (ids.map (net.names[·]?)).Nodup :=
    List.Nodup.map_on (fun id hid other _ hname => h.eq_of_names_eq (hlt id hid) hname) hids
  rw [← heq] at hmap
  exact hmap.of_map

theorem names_of_layer_eq_ok {id : LayerId} {layer : Layer} (h : net.layer id = .ok layer) :
    net.names[id]? = some layer.name := by
  rw [getElem?_names, layer_eq_ok_iff.mp h, Option.map_some]

/-- The names of the layers that were looked up are the names at their ids. -/
theorem map_names_of_mapM_layer {ids : List LayerId} {layers : List Layer}
    (h : ids.mapM net.layer = .ok layers) :
    (layers.map Layer.name).map some = ids.map (net.names[·]?) := by
  rw [List.map_map]
  exact (map_eq_map_of_mapM_eq_ok h fun _ _ hlayer => names_of_layer_eq_ok hlayer).symm

/-! ## Documents of an order -/

/-- What a document says of layers in a given order, all of them different, if it says what the
network does. -/
structure Describes (net : Network) (order : List LayerId) (d : ModelDefinition) : Prop where
  order_nodup : order.Nodup
  follow : net.FollowInputs order
  lt_size : ∀ id ∈ order, id < net.size
  names_eq : d.layerNames.map some = order.map (net.names[·]?)
  inbound : ∀ (i : Nat) (id : LayerId), order[i]? = some id →
    ∃ record names, d.layers[i]? = some record ∧ record.inbound = [names] ∧
      names.map some = (net.inputs id).map (net.names[·]?)

theorem Describes.nodup_layerNames (h : net.Describes order d) (hnet : net.WellFormed) :
    d.layerNames.Nodup :=
  hnet.nodup_of_map_names h.order_nodup h.lt_size h.names_eq

/-- The name of a layer of the order leads to its place. -/
theorem Describes.position?_eq (h : net.Describes order d) (hnet : net.WellFormed) {i : Nat}
    {id : LayerId} (hi : order[i]? = some id) {name : String} (hname : net.names[id]? = some name) :
    d.position? name = some i := by
  have hat : (d.layerNames.map some)[i]? = (order.map (net.names[·]?))[i]? := by
    rw [h.names_eq]
  rw [List.getElem?_map, List.getElem?_map, hi, Option.map_some, hname] at hat
  rcases Option.map_eq_some_iff.mp hat with ⟨other, hother, heq⟩
  rw [Option.some.injEq] at heq
  exact idxOf?_eq_some_of_getElem? (h.nodup_layerNames hnet) (heq ▸ hother)

/-- The names of the inputs of a layer lead to places before it, at which these inputs stand. -/
theorem Describes.sources (h : net.Describes order d) (hnet : net.WellFormed) {i : Nat}
    {id : LayerId} (hi : order[i]? = some id) {names : List String}
    (hnames : names.map some = (net.inputs id).map (net.names[·]?)) :
    ∃ positions : List Nat, names.map d.position? = positions.map some ∧
      (∀ j ∈ positions, j < i) ∧ positions.map (order[·]?) = (net.inputs id).map some := by
  -- a place for each input, which its name must lead to since names are all different
  have hbefore : ∀ input ∈ net.inputs id, ∃ j, j < i ∧ order[j]? = some input := h.follow i id hi
  choose! place hplace using hbefore
  have hposition : ∀ input ∈ net.inputs id,
      (net.names[input]?).bind d.position? = some (place input) := by
    intro input hinput
    have hat : order[place input]? = some input := (hplace input hinput).2
    have hlt : input < net.names.length := by
      rw [length_names]
      exact h.lt_size input (List.mem_of_getElem? hat)
    rw [List.getElem?_eq_getElem hlt, Option.bind_some]
    exact h.position?_eq hnet hat (List.getElem?_eq_getElem hlt)
  refine ⟨(net.inputs id).map place, ?_, ?_, ?_⟩
  · calc
      names.map d.position? = (names.map some).map (·.bind d.position?) := by simp
      _ = (net.inputs id).map fun input => (net.names[input]?).bind d.position? := by
        rw [hnames, List.map_map]
        rfl
      _ = (net.inputs id).map fun input => some (place input) := List.map_congr_left hposition
      _ = ((net.inputs id).map place).map some := by
        rw [List.map_map]
        rfl
  · intro j hj
    rcases List.mem_map.mp hj with ⟨input, hinput, rfl⟩
    exact (hplace input hinput).1
  · rw [List.map_map]
    exact List.map_congr_left fun input hinput => (hplace input hinput).2

/-- The edges that the document tells are those of the network, from input to layer. -/
theorem Describes.map_edges (h : net.Describes order d) (hnet : net.WellFormed) :
    d.edges.map (·.map (·.bind (order[·]?))) = order.map fun id => (net.inputs id).map some := by
  apply List.ext_getElem?
  intro i
  rw [ModelDefinition.edges, List.map_map, List.getElem?_map, List.getElem?_map]
  cases hi : order[i]? with
  | none =>
      have hlength : d.layers.length = order.length := by
        simpa [ModelDefinition.layerNames] using congrArg List.length h.names_eq
      rw [List.getElem?_eq_none_iff, ← hlength] at hi
      rw [List.getElem?_eq_none hi]
      rfl
  | some id =>
      rcases h.inbound i id hi with ⟨record, names, hrecord, hinbound, hnames⟩
      rcases h.sources hnet hi hnames with ⟨positions, hpositions, -, hinputs⟩
      rw [hrecord, Option.map_some, Option.map_some, Function.comp_apply, hinbound,
        List.flatten_singleton, hpositions, ← hinputs, List.map_map]
      rfl

theorem inbound_of_record {id : LayerId} {record : LayerRecord} (h : net.record id = .ok record) :
    ∃ names, record.inbound = [names] ∧ names.map some = (net.inputs id).map (net.names[·]?) := by
  rcases record_eq_ok_iff.mp h with ⟨layer, feeding, hlayer, hfeeding, rfl⟩
  refine ⟨feeding.map Layer.name, rfl, ?_⟩
  rw [inputs_of_layer? hlayer]
  exact map_names_of_mapM_layer hfeeding

theorem names_of_record {id : LayerId} {record : LayerRecord} (h : net.record id = .ok record) :
    net.names[id]? = some record.name := by
  rcases record_eq_ok_iff.mp h with ⟨layer, feeding, hlayer, -, rfl⟩
  exact names_of_layer_eq_ok (layer_eq_ok_iff.mpr hlayer)

theorem describes_of_assemble (hnet : net.WellFormed) {a : Assembly}
    (ha : net.assemble outputs = .ok a) : net.Describes a.order a.definition := by
  rcases settled_of_assemble hnet ha with ⟨w, hsettled, horder⟩
  rcases assemble_eq_ok_iff.mp ha with ⟨order, _, records, _, -, -, hrecords, -, rfl⟩
  have hw : w.order = order := horder
  subst hw
  refine
    { order_nodup := hsettled.tracks.order_nodup
      follow := hsettled.tracks.follow
      lt_size := fun id hid => hsettled.lt_size hid
      names_eq := ?_
      inbound := ?_ }
  · rw [ModelDefinition.layerNames, List.map_map]
    exact (map_eq_map_of_mapM_eq_ok hrecords fun _ _ hrecord => names_of_record hrecord).symm
  · intro i id hi
    rcases getElem?_of_mapM_eq_ok hrecords hi with ⟨record, hat, hrecord⟩
    rcases inbound_of_record hrecord with ⟨names, hinbound, hnames⟩
    exact ⟨record, names, hat, hinbound, hnames⟩

/-! ## Inputs and outputs of a document -/

/-- Whether the layer of an id is an input layer. -/
def isInputLayer (net : Network) (id : LayerId) : Bool :=
  (net.layer? id).any fun layer => layer.kind.isInput

/-- Signatures are given by input layers only, and in their names. -/
theorem map_name_signatures (layers : List Layer) :
    (layers.filterMap Layer.signature?).map InputSignature.name =
      (layers.filter fun layer => layer.kind.isInput).map Layer.name := by
  induction layers with
  | nil => rfl
  | cons layer layers ih =>
      cases hshape : layer.kind.shape? with
      | none =>
          have hsignature : layer.signature? = none := by simp [Layer.signature?, hshape]
          have hinput : ¬ layer.kind.isInput = true := by simp [LayerKind.isInput, hshape]
          rw [List.filterMap_cons_none hsignature, List.filter_cons, if_neg hinput, ih]
      | some shape =>
          have hsignature : layer.signature? = some ⟨layer.name, shape, layer.elementType⟩ := by
            simp [Layer.signature?, hshape]
          have hinput : layer.kind.isInput = true := by simp [LayerKind.isInput, hshape]
          rw [List.filterMap_cons_some hsignature, List.filter_cons, if_pos hinput, List.map_cons,
            List.map_cons, ih]

theorem inputLayers_of_assemble {a : Assembly} (ha : net.assemble outputs = .ok a) :
    a.inputs.map InputSignature.name = a.definition.inputLayers ∧
      a.definition.inputLayers.map some =
        (a.order.filter net.isInputLayer).map (net.names[·]?) := by
  rcases assemble_eq_ok_iff.mp ha with ⟨order, layers, _, _, -, hlayers, -, -, rfl⟩
  refine ⟨rfl, ?_⟩
  have hinput : ∀ id layer, net.layer id = .ok layer →
      net.isInputLayer id = layer.kind.isInput := by
    intro id layer hlayer
    rw [isInputLayer, layer_eq_ok_iff.mp hlayer, Option.any_some]
  rw [map_name_signatures]
  exact map_names_of_mapM_layer (filter_mapM_eq_ok hlayers hinput)

/-- Outputs are named once each, whether repetitions are told by name or by id. -/
theorem outputLayers_of_assemble (hnet : net.WellFormed) {a : Assembly}
    (ha : net.assemble outputs = .ok a) :
    a.definition.outputLayers.map some = outputs.eraseDups.map (net.names[·]?) := by
  rcases settled_of_assemble hnet ha with ⟨w, hsettled, -⟩
  rcases assemble_eq_ok_iff.mp ha with ⟨_, _, _, outputLayers, -, -, -, houtputs, rfl⟩
  have hinj : ∀ id ∈ outputs, ∀ other ∈ outputs, net.names[id]? = net.names[other]? → id = other :=
    fun id hid _ _ heq => hnet.eq_of_names_eq (hsettled.output_spec hid).1 heq
  rw [← eraseDups_map _ hinj, ← map_names_of_mapM_layer houtputs]
  exact (eraseDups_map _ fun _ _ _ _ heq => Option.some.inj heq).symm

/-- The document of an assembly is closed and can be read without the network.  Its layers carry the
names of the layers in order, all different.  Each record has one list of inbound names, which lead
to places before that of the record, and these are the places of its inputs, in order and with
repetitions.  The inputs of the document are the input layers among its layers, in order.  The
outputs of the document are the requested ones, each once and in the order of the first requests,
and they are among its layers.  The edges of the network are the ones that the document tells. -/
theorem assemble_document (h : net.Reachable) {a : Assembly} (ha : net.assemble outputs = .ok a) :
    a.definition.layerNames.map some = a.order.map (net.names[·]?) ∧
      a.definition.layerNames.Nodup ∧
      (∀ (i : Nat) (id : LayerId), a.order[i]? = some id →
        ∃ (record : LayerRecord) (names : List String) (positions : List Nat),
          a.definition.layers[i]? = some record ∧ record.inbound = [names] ∧
          names.map a.definition.position? = positions.map some ∧ (∀ j ∈ positions, j < i) ∧
          positions.map (a.order[·]?) = (net.inputs id).map some) ∧
      (a.inputs.map InputSignature.name = a.definition.inputLayers ∧
        a.definition.inputLayers.map some =
          (a.order.filter net.isInputLayer).map (net.names[·]?)) ∧
      (a.definition.outputLayers.Nodup ∧
        a.definition.outputLayers.map some = outputs.eraseDups.map (net.names[·]?) ∧
        ∀ name ∈ a.definition.outputLayers, name ∈ a.definition.layerNames) ∧
      a.definition.edges.map (·.map (·.bind (a.order[·]?))) =
        a.order.map fun id => (net.inputs id).map some := by
  have hnet := h.wellFormed
  have hdoc : net.Describes a.order a.definition := describes_of_assemble hnet ha
  rcases settled_of_assemble hnet ha with ⟨w, hsettled, horder⟩
  have houtputs := outputLayers_of_assemble hnet ha
  refine ⟨hdoc.names_eq, hdoc.nodup_layerNames hnet, ?_, inputLayers_of_assemble ha, ?_,
    hdoc.map_edges hnet⟩
  · intro i id hi
    rcases hdoc.inbound i id hi with ⟨record, names, hrecord, hinbound, hnames⟩
    rcases hdoc.sources hnet hi hnames with ⟨positions, hpositions, hbefore, hinputs⟩
    exact ⟨record, names, positions, hrecord, hinbound, hpositions, hbefore, hinputs⟩
  · refine ⟨?_, houtputs, ?_⟩
    · refine hnet.nodup_of_map_names (nodup_eraseDups outputs) (fun id hid => ?_) houtputs
      exact (hsettled.output_spec (List.mem_eraseDups.mp hid)).1
    · intro name hname
      have hmem : some name ∈ a.definition.outputLayers.map some := List.mem_map_of_mem hname
      rw [houtputs] at hmem
      rcases List.mem_map.mp hmem with ⟨output, houtput, hat⟩
      have hdone : output ∈ a.order :=
        horder ▸ hsettled.mem_order output (List.mem_eraseDups.mp houtput)
      have hlisted : some name ∈ a.definition.layerNames.map some := by
        rw [hdoc.names_eq]
        exact List.mem_map.mpr ⟨output, hdone, hat⟩
      rcases List.mem_map.mp hlisted with ⟨other, hother, heq⟩
      exact Option.some.inj heq ▸ hother

/-- The layer "c" is asked for twice and named once. -/
theorem assemble_document_tangled :
    ∃ a, tangled.assemble [3, 2, 3] = .ok a ∧ a.definition.layerNames.Nodup ∧
      a.definition.outputLayers = ["c", "b"] ∧ "c" ∈ a.definition.layerNames := by
  rcases exists_assemble_tangled with ⟨a, ha⟩
  rcases assemble_document reachable_tangled ha with
    ⟨-, hnodup, -, -, ⟨-, houtputs, hlisted⟩, -⟩
  have hnamed : a.definition.outputLayers.map some = ["c", "b"].map some := houtputs
  have heq : a.definition.outputLayers = ["c", "b"] :=
    List.map_injective_iff.mpr (fun _ _ h => Option.some.inj h) hnamed
  exact ⟨a, ha, hnodup, heq, hlisted "c" (heq ▸ List.mem_cons_self)⟩

end Network
end LayerNet
