import LayerNet.Network.History
import LayerNet.Proofs.Naming.Fresh

/-!
# Well-formed networks

Every network that comes about by a history of edits is well formed: no two layers share a name,
the table of ids says where each name stands, and every layer has parameters and inputs that were
checked.  The empty network is well formed, and so is what each edit makes of a well-formed one:
an edit puts new layers at the end, replaces the inputs of one layer, or changes no layer at all.

Main results:

- `WellFormed.push`, `WellFormed.setInputs`: the two ways in which layers change.
- `Builder.wellFormed_apply`: what one edit keeps.
- `Builder.wellFormed_run`, `Network.Reachable.wellFormed`: what a history keeps.
- `run_names_ids_inputs_kinds`: names, table, inputs and kinds after any history.
-/

namespace LayerNet

/-! ## What is checked -/

/-- A layer with right parameters, as many inputs as its kind takes, and all of them among the
first `size` layers. -/
structure Layer.FitsIn (size : Nat) (layer : Layer) : Prop where
  fault?_eq_none : layer.kind.fault? = none
  accepts : layer.kind.arity.accepts layer.inputs.length = true
  inputs_lt : ∀ input ∈ layer.inputs, input < size

/-- A layer fits in a larger network. -/
theorem Layer.FitsIn.mono {size size' : Nat} {layer : Layer} (h : layer.FitsIn size)
    (hle : size ≤ size') : layer.FitsIn size' :=
  ⟨h.fault?_eq_none, h.accepts, fun input hmem => Nat.lt_of_lt_of_le (h.inputs_lt input hmem) hle⟩

namespace Network

/-- A network whose names are all different and stand in the table with their ids, and whose
layers all fit in. -/
structure WellFormed (net : Network) : Prop where
  names_nodup : net.names.Nodup
  ids_perm : net.ids.Perm net.names.zipIdx
  fits : ∀ layer ∈ net.layers, layer.FitsIn net.size

variable {net : Network}

/-! ## The table of ids -/

@[simp]
theorem length_names (net : Network) : net.names.length = net.size := by
  simp [names, size]

theorem getElem?_names (net : Network) (id : LayerId) :
    net.names[id]? = (net.layer? id).map Layer.name := by
  simp [names, layer?]

/-- The keys of the table are the names. -/
theorem WellFormed.keys_perm (h : net.WellFormed) : (Table.keys net.ids).Perm net.names := by
  have hmap := h.ids_perm.map Prod.fst
  rwa [List.zipIdx_map_fst] at hmap

/-- A name is a key of the table exactly if a layer has it. -/
theorem WellFormed.mem_keys_iff (h : net.WellFormed) {name : String} :
    name ∈ Table.keys net.ids ↔ name ∈ net.names :=
  h.keys_perm.mem_iff

/-- The table of names is as large as the network. -/
theorem WellFormed.length_keys (h : net.WellFormed) : (Table.keys net.ids).length = net.size := by
  rw [h.keys_perm.length_eq, length_names]

/-- A name is found at the id of its layer. -/
theorem WellFormed.find?_eq_some_iff (h : net.WellFormed) {name : String} {id : LayerId} :
    net.find? name = some id ↔ ∃ layer, net.layer? id = some layer ∧ layer.name = name := by
  have hkeys : (Table.keys net.ids).Nodup := h.keys_perm.nodup_iff.mpr h.names_nodup
  rw [find?, Table.find?_eq_some_iff_mem hkeys, h.ids_perm.mem_iff, List.mem_zipIdx_iff_getElem?,
    getElem?_names, Option.map_eq_some_iff]

theorem WellFormed.fits_of_layer? (h : net.WellFormed) {id : LayerId} {layer : Layer}
    (hlayer : net.layer? id = some layer) : layer.FitsIn net.size :=
  h.fits layer (Array.mem_of_getElem? hlayer)

/-! ## New layers and new inputs -/

theorem wellFormed_empty : ({} : Network).WellFormed where
  names_nodup := List.nodup_nil
  ids_perm := List.Perm.refl []
  fits := by simp

theorem size_push (net : Network) (layer : Layer) : (net.push layer).size = net.size + 1 :=
  Array.size_push layer

/-- A new layer has the next number, and the others keep theirs. -/
theorem layer?_push (net : Network) (layer : Layer) (id : LayerId) :
    (net.push layer).layer? id = if id = net.size then some layer else net.layer? id :=
  Array.getElem?_push

theorem names_push (net : Network) (layer : Layer) :
    (net.push layer).names = net.names ++ [layer.name] := by
  simp [names, push]

/-- A layer under a new name that fits in may be put at the end. -/
theorem WellFormed.push (h : net.WellFormed) {layer : Layer} (hname : layer.name ∉ net.names)
    (hfits : layer.FitsIn net.size) : (net.push layer).WellFormed where
  names_nodup := by
    rw [names_push]
    simpa using h.names_nodup.concat hname
  ids_perm := by
    have hkey : layer.name ∉ Table.keys net.ids := fun hmem => hname (h.mem_keys_iff.mp hmem)
    rw [names_push, List.zipIdx_append, Nat.zero_add, length_names]
    calc
      (net.push layer).ids.Perm ((layer.name, net.size) :: net.ids) :=
        Table.insert_perm net.size hkey
      List.Perm _ ((layer.name, net.size) :: net.names.zipIdx) := h.ids_perm.cons _
      List.Perm _ (net.names.zipIdx ++ [(layer.name, net.size)]) :=
        (List.perm_append_singleton _ _).symm
  fits := by
    intro other hmem
    rw [size_push]
    rcases Array.mem_push.mp hmem with hold | rfl
    · exact (h.fits other hold).mono (Nat.le_succ _)
    · exact hfits.mono (Nat.le_succ _)

@[simp]
theorem size_setInputs (net : Network) (id : LayerId) (inputs : List LayerId) :
    (net.setInputs id inputs).size = net.size := by
  simp [setInputs, size]

/-- Rewiring changes the inputs of one layer and nothing else. -/
theorem layer?_setInputs (net : Network) (id : LayerId) (inputs : List LayerId) (other : LayerId) :
    (net.setInputs id inputs).layer? other =
      if id = other then (net.layer? other).map fun layer => { layer with inputs }
      else net.layer? other := by
  simp only [setInputs, layer?, Array.getElem?_modify]

/-- New inputs leave the names as they are. -/
@[simp]
theorem names_setInputs (net : Network) (id : LayerId) (inputs : List LayerId) :
    (net.setInputs id inputs).names = net.names := by
  apply List.ext_getElem?
  intro other
  rw [getElem?_names, getElem?_names, layer?_setInputs]
  split
  · rw [Option.map_map]
    rfl
  · rfl

/-- Inputs that fit in may replace those of a layer. -/
theorem WellFormed.setInputs (h : net.WellFormed) {id : LayerId} {layer : Layer}
    {inputs : List LayerId} (hlayer : net.layer? id = some layer)
    (hfits : Layer.FitsIn net.size { layer with inputs }) :
    (net.setInputs id inputs).WellFormed where
  names_nodup := by
    rw [names_setInputs]
    exact h.names_nodup
  ids_perm := by
    rw [names_setInputs]
    exact h.ids_perm
  fits := by
    intro other hmem
    rw [size_setInputs]
    rcases Array.mem_iff_getElem?.mp hmem with ⟨i, hi⟩
    change (net.setInputs id inputs).layer? i = some other at hi
    rw [layer?_setInputs] at hi
    split at hi <;> rename_i hid
    · rw [← hid, hlayer, Option.map_some, Option.some.injEq] at hi
      exact hi ▸ hfits
    · exact h.fits_of_layer? hi

/-! ## Operations on networks -/

theorem checkInputs_eq_ok_iff {name : String} {kind : LayerKind} {inputs : List LayerId} :
    net.checkInputs name kind inputs = .ok () ↔
      kind.arity.accepts inputs.length = true ∧ ∀ input ∈ inputs, input < net.size := by
  unfold checkInputs
  split <;> rename_i haccepts
  · simp_all
  · split <;> rename_i hfind
    · have hmem := List.mem_of_find?_eq_some hfind
      have hle := List.find?_some hfind
      simp only [reduceCtorEq, false_iff, not_and, not_forall]
      intro _
      exact ⟨_, hmem, by simpa using hle⟩
    · simp_all

/-- A layer is placed exactly if it fits in, and then at the end. -/
theorem place_eq_ok {name : String} {spec : LayerSpec} {inputs : List LayerId} {net' : Network}
    (h : net.place name spec inputs = .ok net') :
    ∃ layer : Layer, layer.name = name ∧ layer.FitsIn net.size ∧ net' = net.push layer := by
  unfold place at h
  split at h
  · simp at h
  · rename_i hfault
    split at h
    · simp at h
    · rename_i hcheck
      rcases checkInputs_eq_ok_iff.mp hcheck with ⟨haccepts, hinputs⟩
      exact ⟨_, rfl, ⟨hfault, haccepts, hinputs⟩, (Except.ok.inj h).symm⟩

/-- The inputs of a layer are replaced only by inputs that fit in. -/
theorem rewire_eq_ok {id : LayerId} {inputs : List LayerId} {net' : Network}
    (hnet : net.WellFormed) (h : net.rewire id inputs = .ok net') :
    ∃ layer, net.layer? id = some layer ∧ Layer.FitsIn net.size { layer with inputs } ∧
      net' = net.setInputs id inputs := by
  unfold rewire at h
  split at h
  · simp at h
  · rename_i layer hlayer
    split at h
    · simp at h
    · rename_i hcheck
      rw [layer_eq_ok_iff] at hlayer
      rcases checkInputs_eq_ok_iff.mp hcheck with ⟨haccepts, hinputs⟩
      exact ⟨layer, hlayer, ⟨(hnet.fits_of_layer? hlayer).fault?_eq_none, haccepts, hinputs⟩,
        (Except.ok.inj h).symm⟩

end Network

/-! ## Edits -/

namespace Builder

variable {b : Builder}

/-- A layer that is given no name gets the one that a search finds. -/
theorem chooseName_of_unnamed (b : Builder) {spec : LayerSpec} (h : spec.name = none) :
    b.chooseName spec =
      (.ok (b.registry.fresh (Table.keys b.network.ids) spec.kind.baseName).1,
        (b.registry.fresh (Table.keys b.network.ids) spec.kind.baseName).2) := by
  rw [chooseName, h]

/-- A name that was chosen for a new layer is not in use. -/
theorem not_mem_keys_of_chooseName {spec : LayerSpec} {name : String}
    (h : (b.chooseName spec).1 = .ok name) : name ∉ Table.keys b.network.ids := by
  unfold chooseName at h
  split at h
  · split at h
    · simp at h
    · rename_i hfree
      rw [Table.contains_eq_true_iff] at hfree
      exact Except.ok.inj h ▸ hfree
  · exact Except.ok.inj h ▸ NameRegistry.fresh_not_mem _ _ _

/-- What adding a layer can do: it fails and keeps the network, or it puts a layer that fits in
under the chosen name at the end.  The registry is left as it was for the choice in any case. -/
theorem add_cases (b : Builder) (spec : LayerSpec) (inputs : List LayerId) :
    (∃ e, b.add spec inputs = (.error e, ⟨b.network, (b.chooseName spec).2⟩)) ∨
      ∃ layer, (b.chooseName spec).1 = .ok layer.name ∧ layer.FitsIn b.network.size ∧
        b.add spec inputs =
          (.ok b.network.size, ⟨b.network.push layer, (b.chooseName spec).2⟩) := by
  unfold add
  split <;> rename_i hname
  · exact Or.inl ⟨_, by rw [hname]⟩
  · split <;> rename_i hplace
    · exact Or.inl ⟨_, by rw [hname]⟩
    · rcases Network.place_eq_ok hplace with ⟨layer, hlayer, hfits, rfl⟩
      exact Or.inr ⟨layer, by rw [hname, hlayer], hfits, by rw [hname]⟩

/-- Adding a layer keeps the network well formed, also when it fails. -/
theorem wellFormed_add (h : b.network.WellFormed) (spec : LayerSpec) (inputs : List LayerId) :
    (b.add spec inputs).2.network.WellFormed := by
  rcases add_cases b spec inputs with ⟨e, hadd⟩ | ⟨layer, hname, hfits, hadd⟩
  · rw [hadd]
    exact h
  · rw [hadd]
    have hfree : layer.name ∉ Table.keys b.network.ids := not_mem_keys_of_chooseName hname
    exact h.push (fun hmem => hfree (h.mem_keys_iff.mpr hmem)) hfits

/-- What every added layer keeps, a chain of them keeps, however far it gets. -/
theorem addChain_induction {P : Network → Prop}
    (hadd : ∀ (b : Builder) spec inputs, P b.network → P (b.add spec inputs).2.network)
    (h : P b.network) (last : LayerId) (specs : List LayerSpec) :
    P (b.addChain last specs).2.network := by
  induction specs generalizing b last with
  | nil => exact h
  | cons spec specs ih =>
      have hnext := hadd b spec [last] h
      unfold addChain
      split <;> rename_i hb
      · rw [hb] at hnext
        exact hnext
      · rw [hb] at hnext
        exact ih hnext _

/-- What every addition keeps is kept by a chain: it is nothing but additions, up to the first that
fails. -/
theorem chain_induction {P : Network → Prop}
    (hadd : ∀ (b : Builder) spec inputs, P b.network → P (b.add spec inputs).2.network)
    (h : P b.network) (input : LayerSpec) (specs : List LayerSpec) :
    P (b.chain input specs).2.network := by
  have hinput : P (b.input input).2.network := hadd b input [] h
  unfold chain
  split <;> rename_i hb
  · rw [hb] at hinput
    exact hinput
  · rw [hb] at hinput
    exact addChain_induction hadd hinput _ specs

/-- Rewiring keeps the network well formed: it checks what an addition checks. -/
theorem wellFormed_rewire (h : b.network.WellFormed) (id : LayerId) (inputs : List LayerId) :
    (b.rewire id inputs).2.network.WellFormed := by
  unfold rewire
  split
  · exact h
  · rename_i network hrewire
    rcases Network.rewire_eq_ok h hrewire with ⟨layer, hlayer, hfits, rfl⟩
    exact h.setInputs hlayer hfits

/-- No edit breaks a well-formed network, whether it fails or not. -/
theorem wellFormed_apply (h : b.network.WellFormed) (edit : Edit) :
    (b.apply edit).network.WellFormed := by
  cases edit with
  | add spec inputs => exact wellFormed_add h spec inputs
  | input spec => exact wellFormed_add h spec []
  | chain input specs =>
      have hadd (b : Builder) (spec : LayerSpec) (inputs : List LayerId)
          (h : b.network.WellFormed) : (b.add spec inputs).2.network.WellFormed :=
        wellFormed_add h spec inputs
      exact chain_induction hadd h input specs
  | rewire id inputs => exact wellFormed_rewire h id inputs
  | share registry => exact h

/-- No history breaks a well-formed network. -/
theorem wellFormed_run (h : b.network.WellFormed) (edits : List Edit) :
    (b.run edits).network.WellFormed := by
  induction edits generalizing b with
  | nil => exact h
  | cons edit edits ih => exact ih (wellFormed_apply h edit)

end Builder

/-- The run lemma: whatever the history, its network is well formed. -/
theorem Network.Reachable.wellFormed {net : Network} (h : net.Reachable) : net.WellFormed := by
  rcases h with ⟨registry, edits, rfl⟩
  exact Builder.wellFormed_run Network.wellFormed_empty edits

/-- After any history from the empty network, with any registry: the names are all different; the
table of ids holds every name with the place of its layer and nothing else, so that a name is found
exactly where its layer stands; all inputs are layers of the network; and every layer has right
parameters and as many inputs as its kind takes. -/
theorem run_names_ids_inputs_kinds (registry : NameRegistry) (edits : List Edit) :
    let net := (Builder.run ⟨{}, registry⟩ edits).network
    net.names.Nodup ∧
      (net.ids.Perm net.names.zipIdx ∧ ∀ name id, net.find? name = some id ↔
        ∃ layer, net.layer? id = some layer ∧ layer.name = name) ∧
      (∀ id layer, net.layer? id = some layer → ∀ input ∈ layer.inputs, input < net.size) ∧
      ∀ id layer, net.layer? id = some layer →
        layer.kind.fault? = none ∧ layer.kind.arity.accepts layer.inputs.length = true := by
  intro net
  have h : net.WellFormed := Builder.wellFormed_run Network.wellFormed_empty edits
  refine ⟨h.names_nodup, ⟨h.ids_perm, fun _ _ => h.find?_eq_some_iff⟩, ?_, ?_⟩
  · intro id layer hlayer
    exact (h.fits_of_layer? hlayer).inputs_lt
  · intro id layer hlayer
    exact ⟨(h.fits_of_layer? hlayer).fault?_eq_none, (h.fits_of_layer? hlayer).accepts⟩

/-- A history in which a generated name has to dodge one that was given, a name is given twice, and
inputs are replaced by a later layer, by none, and by one that does not exist. -/
def dodgingHistory : List Edit :=
  [.input { kind := .input (.batched [4]) false false, name := some "x" },
   .add { kind := .flatten, name := some "flatten_1" } [0],
   .add { kind := .flatten, name := some "flatten_1" } [1],
   .add { kind := .flatten } [1],
   .rewire 1 [2], .rewire 1 [], .rewire 1 [7]]

theorem names_ids_inputs_kinds_dodgingHistory :
    let net := (Builder.run ⟨{}, {}⟩ dodgingHistory).network
    net.names = ["x", "flatten_1", "flatten_2"] ∧ net.names.Nodup ∧
      net.find? "flatten_2" = some 2 ∧ (net.inputs 1 = [2] ∧ 2 < net.size) ∧
      LayerKind.fault? .flatten = none := by
  intro net
  have h := run_names_ids_inputs_kinds {} dodgingHistory
  refine ⟨by decide, h.1, ?_, ⟨by decide, ?_⟩, ?_⟩
  · exact (h.2.1.2 "flatten_2" 2).mpr ⟨_, rfl, rfl⟩
  · exact h.2.2.1 1 _ rfl 2 (List.mem_singleton_self 2)
  · exact (h.2.2.2 1 _ rfl).1

end LayerNet
