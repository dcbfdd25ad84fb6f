import LayerNet.Proofs.Network.WellFormed

/-!
# Operations that fail

A layer that is refused leaves the network as it is; a name that was generated for it stays used, so
that the counter of its kind may have moved on.  Inputs that are refused change nothing at all.  A
chain of layers is not undone: the layers before the one that is refused stay, each fed by the one
before it.

Main definitions:

- `Layer.MadeFrom`: what a layer has from its specification.
- `Network.ExtendedBy`: a network with new layers at its end, and nothing else changed.
- `Chained`: layers made from specifications, each fed by the one before it.
- `Builder.StopsWith`: what is left of a chain that comes to a layer that is refused.

Main results:

- `Builder.add_eq_error`, `Builder.add_eq_ok`: what adding a layer does to a builder.
- `Builder.chain_eq_error`: a chain that is refused is left so.
- `Builder.kept_of_failure`: all operations together.
-/

namespace LayerNet

/-! ## Counters -/

namespace NameRegistry

/-- Registries that agree in all counters but the one of a base. -/
def AgreeBut (base : String) (registry registry' : NameRegistry) : Prop :=
  ∀ key, key ≠ stem base →
    Table.find? key registry'.counters = Table.find? key registry.counters

/-- Counting on one base keeps registries alike on all others. -/
theorem AgreeBut.next {base : String} {registry registry' : NameRegistry}
    (h : AgreeBut base registry registry') : AgreeBut base registry (registry'.next base).2 := by
  intro key hkey
  rw [← h key hkey]
  exact Table.find?_insert_of_ne hkey _ _

/-- A search for a free name counts for its base only. -/
theorem agreeBut_fresh (registry : NameRegistry) (taken : List String) (base : String) :
    AgreeBut base registry (registry.fresh taken base).2 :=
  freshWithin_induction (fun _ h => h.next) taken taken.length fun _ _ => rfl

end NameRegistry

/-! ## New layers -/

/-- A layer of a specification, fed by given inputs.  It has the name that the specification gives,
or one that was generated for its kind. -/
structure Layer.MadeFrom (spec : LayerSpec) (inputs : List LayerId) (layer : Layer) : Prop where
  kind_eq : layer.kind = spec.kind
  elementType_eq : layer.elementType = spec.elementType.getD default
  trainable_eq : layer.trainable = spec.trainable
  inputs_eq : layer.inputs = inputs
  given : ∀ name, spec.name = some name → layer.name = name
  generated : spec.name = none →
    ∃ n, layer.name = NameRegistry.numbered spec.kind.baseName n

namespace Network

/-- Puts layers at the end, one after another. -/
def pushAll (net : Network) (layers : List Layer) : Network :=
  layers.foldl push net

/-- A network with new layers at its end.  Old layers are as they were, with their inputs; the new
ones have the next ids and are found there under names that were not in use; and every other name is
found where it was, or nowhere. -/
structure ExtendedBy (net : Network) (layers : List Layer) (net' : Network) : Prop where
  eq_pushAll : net' = net.pushAll layers
  layer?_old : ∀ id, id < net.size → net'.layer? id = net.layer? id
  layer?_new : ∀ place, net'.layer? (net.size + place) = layers[place]?
  find?_old : ∀ name, name ∉ layers.map Layer.name → net'.find? name = net.find? name
  find?_new : ∀ place layer, layers[place]? = some layer →
    net.find? layer.name = none ∧ net'.find? layer.name = some (net.size + place)

variable {net net' : Network} {layer : Layer} {layers : List Layer}

/-- A layer is found by its name as soon as it is there. -/
theorem find?_push_self (net : Network) (layer : Layer) :
    (net.push layer).find? layer.name = some net.size :=
  Table.find?_insert_self _ _ _

theorem find?_push_of_ne (net : Network) {layer : Layer} {name : String} (h : name ≠ layer.name) :
    (net.push layer).find? name = net.find? name :=
  Table.find?_insert_of_ne h _ _

/-- A name that is not found after a layer was put at the end is not the name of this layer. -/
theorem ne_of_find?_push_eq_none {name : String} (h : (net.push layer).find? name = none) :
    name ≠ layer.name := by
  rintro rfl
  rw [find?_push_self] at h
  cases h

theorem extendedBy_nil (net : Network) : net.ExtendedBy [] net where
  eq_pushAll := rfl
  layer?_old _ _ := rfl
  layer?_new _ := Array.getElem?_eq_none (Nat.le_add_right _ _)
  find?_old _ _ := rfl
  find?_new place layer h := by cases h

/-- A layer under a new name goes before the layers behind it. -/
theorem ExtendedBy.cons (hname : net.find? layer.name = none)
    (h : (net.push layer).ExtendedBy layers net') : net.ExtendedBy (layer :: layers) net' where
  eq_pushAll := h.eq_pushAll
  layer?_old id hid := by
    have hlt : id < (net.push layer).size := by
      rw [size_push]
      omega
    rw [h.layer?_old id hlt, layer?_push, if_neg (Nat.ne_of_lt hid)]
  layer?_new place := by
    cases place with
    | zero =>
        have hlt : net.size < (net.push layer).size := by
          rw [size_push]
          omega
        rw [Nat.add_zero, h.layer?_old _ hlt, layer?_push, if_pos rfl]
        rfl
    | succ place =>
        have hnew := h.layer?_new place
        rw [size_push, Nat.add_right_comm, Nat.add_assoc] at hnew
        exact hnew
  find?_old name hother := by
    rw [List.map_cons, List.mem_cons, not_or] at hother
    rw [h.find?_old name hother.2, find?_push_of_ne net hother.1]
  find?_new place other hother := by
    cases place with
    | zero =>
        -- No layer behind the first one can have its name, as that is found by now.
        have hfirst : other = layer := (Option.some.inj hother).symm
        subst hfirst
        have hlater : other.name ∉ layers.map Layer.name := by
          intro hmem
          rcases List.mem_map.mp hmem with ⟨later, hlater, heq⟩
          rcases List.mem_iff_getElem?.mp hlater with ⟨i, hi⟩
          exact ne_of_find?_push_eq_none (h.find?_new i later hi).1 heq
        rw [h.find?_old _ hlater, find?_push_self]
        exact ⟨hname, rfl⟩
    | succ place =>
        rcases h.find?_new place other hother with ⟨hfree, hfound⟩
        rw [find?_push_of_ne net (ne_of_find?_push_eq_none hfree)] at hfree
        rw [size_push, Nat.add_right_comm, Nat.add_assoc] at hfound
        exact ⟨hfree, hfound⟩

/-- A layer under a new name at the end changes nothing else. -/
theorem extendedBy_push (h : net.find? layer.name = none) :
    net.ExtendedBy [layer] (net.push layer) :=
  (extendedBy_nil _).cons h

end Network

/-! ## Chains -/

/-- What feeds the layer at a place of a chain: the layer before it, and at the first place what is
given.  The first layer has the id `start`. -/
def chainInputs (inputs : List LayerId) (start : LayerId) : Nat → List LayerId
  | 0 => inputs
  | place + 1 => [start + place]

theorem chainInputs_succ (inputs : List LayerId) (start : LayerId) (place : Nat) :
    chainInputs inputs start (place + 1) = chainInputs [start] (start + 1) place := by
  cases place with
  | zero => rfl
  | succ place =>
      rw [chainInputs, chainInputs, Nat.add_right_comm]
      rfl

/-- Layers made from specifications, one from each, in a chain. -/
structure Chained (inputs : List LayerId) (start : LayerId) (specs : List LayerSpec)
    (layers : List Layer) : Prop where
  length_eq : layers.length = specs.length
  made : ∀ place spec (layer : Layer), specs[place]? = some spec → layers[place]? = some layer →
    layer.MadeFrom spec (chainInputs inputs start place)

theorem chained_nil (inputs : List LayerId) (start : LayerId) : Chained inputs start [] [] where
  length_eq := rfl
  made place spec layer h := by cases h

theorem Chained.cons {inputs : List LayerId} {start : LayerId} {spec : LayerSpec} {layer : Layer}
    {specs : List LayerSpec} {layers : List Layer} (hlayer : layer.MadeFrom spec inputs)
    (h : Chained [start] (start + 1) specs layers) :
    Chained inputs start (spec :: specs) (layer :: layers) where
  length_eq := congrArg (· + 1) h.length_eq
  made place other made hother hmade := by
    cases place with
    | zero =>
        cases hother
        cases hmade
        exact hlayer
    | succ place =>
        rw [chainInputs_succ]
        exact h.made place other made hother hmade

/-! ## Builders -/

namespace Builder

variable {b b' : Builder} {spec : LayerSpec} {e : NetworkError}

theorem registry_chooseName_of_named (h : spec.name ≠ none) :
    (b.chooseName spec).2 = b.registry := by
  rcases Option.ne_none_iff_exists'.mp h with ⟨name, hname⟩
  rw [chooseName, hname]
  dsimp only
  split <;> rfl

/-- Only a name that is generated is counted, and only for its base. -/
theorem agreeBut_chooseName (b : Builder) (spec : LayerSpec) :
    NameRegistry.AgreeBut spec.kind.baseName b.registry (b.chooseName spec).2 := by
  by_cases hname : spec.name = none
  · rw [chooseName_of_unnamed b hname]
    exact NameRegistry.agreeBut_fresh _ _ _
  · rw [registry_chooseName_of_named hname]
    exact fun _ _ => rfl

/-- Whichever check refuses a layer, only the choice of its name has had an effect. -/
theorem add_eq_error {inputs : List LayerId} (h : b.add spec inputs = (.error e, b')) :
    b' = ⟨b.network, (b.chooseName spec).2⟩ := by
  rcases add_cases b spec inputs with ⟨e', hadd⟩ | ⟨layer, -, -, hadd⟩
  · rw [hadd] at h
    exact (congrArg Prod.snd h).symm
  · rw [hadd] at h
    cases congrArg Prod.fst h

/-- A layer that is added is made from its specification, and stands at the end under a new name. -/
theorem add_eq_ok {inputs : List LayerId} {id : LayerId} (h : b.add spec inputs = (.ok id, b')) :
    ∃ layer : Layer, layer.MadeFrom spec inputs ∧ b.network.find? layer.name = none ∧
      id = b.network.size ∧ b'.network = b.network.push layer := by
  unfold add at h
  split at h <;> rename_i hname
  · cases congrArg Prod.fst h
  · rename_i name registry
    have hchosen : (b.chooseName spec).1 = .ok name := congrArg Prod.fst hname
    split at h <;> rename_i hplace
    · cases congrArg Prod.fst h
    · unfold Network.place at hplace
      split at hplace
      · cases hplace
      · split at hplace
        · cases hplace
        · cases hplace
          cases h
          refine ⟨_, ⟨rfl, rfl, rfl, rfl, ?_, ?_⟩, ?_, rfl, rfl⟩
          · intro given hgiven
            rw [chooseName, hgiven] at hchosen
            dsimp only at hchosen
            split at hchosen
            · cases hchosen
            · exact (Except.ok.inj hchosen).symm
          · intro hunnamed
            rw [chooseName_of_unnamed b hunnamed] at hchosen
            exact ⟨_, (Except.ok.inj hchosen).symm.trans (NameRegistry.fresh_fst _ _ _)⟩
          · exact Table.find?_eq_none_iff.mpr (not_mem_keys_of_chooseName hchosen)

/-- A chain of specifications, the first fed by given inputs, has come to a layer that was refused.
The layers before it have been added, and nothing else. -/
def StopsWith (b : Builder) (inputs : List LayerId) (specs : List LayerSpec) (e : NetworkError)
    (b' : Builder) : Prop :=
  ∃ done failing rest layers registry, specs = done ++ failing :: rest ∧
    Chained inputs b.network.size done layers ∧ b.network.ExtendedBy layers b'.network ∧
    (Builder.mk b'.network registry).add failing
      (chainInputs inputs b.network.size done.length) = (.error e, b')

/-- A first layer that fails stops the chain with nothing added. -/
theorem stopsWith_of_add {inputs : List LayerId} (h : b.add spec inputs = (.error e, b'))
    (specs : List LayerSpec) : b.StopsWith inputs (spec :: specs) e b' := by
  have hnetwork : b'.network = b.network := by rw [add_eq_error h]
  refine ⟨[], spec, specs, [], b.registry, rfl, chained_nil _ _, ?_, ?_⟩
  · rw [hnetwork]
    exact b.network.extendedBy_nil
  · rw [hnetwork]
    exact h

/-- A chain stops where what is left of it behind a layer that was added stops. -/
theorem StopsWith.cons {next : Builder} {inputs : List LayerId} {id : LayerId}
    {specs : List LayerSpec} (hadd : b.add spec inputs = (.ok id, next))
    (h : next.StopsWith [id] specs e b') : b.StopsWith inputs (spec :: specs) e b' := by
  rcases add_eq_ok hadd with ⟨layer, hmade, hfree, rfl, hnext⟩
  rcases h with ⟨done, failing, rest, layers, registry, rfl, hchained, hextended, hfails⟩
  rw [hnext] at hextended
  rw [hnext, Network.size_push] at hchained hfails
  refine ⟨spec :: done, failing, rest, layer :: layers, registry, rfl, hchained.cons hmade,
    hextended.cons hfree, ?_⟩
  rw [List.length_cons, chainInputs_succ]
  exact hfails

/-- A chain that fails has stopped at one of its layers.  The induction is on the layers that are
left, each fed by the one before. -/
theorem addChain_eq_error {last : LayerId} {specs : List LayerSpec}
    (h : b.addChain last specs = (.error e, b')) : b.StopsWith [last] specs e b' := by
  induction specs generalizing b last with
  | nil => cases congrArg Prod.fst h
  | cons spec specs ih =>
      unfold addChain at h
      split at h <;> rename_i hadd
      · exact stopsWith_of_add (hadd.trans h) specs
      · exact (ih h).cons hadd

/-- The same for a chain with its input in front. -/
theorem chain_eq_error {input : LayerSpec} {specs : List LayerSpec}
    (h : b.chain input specs = (.error e, b')) : b.StopsWith [] (input :: specs) e b' := by
  unfold chain at h
  split at h <;> rename_i hinput
  · exact stopsWith_of_add (hinput.trans h) specs
  · exact (addChain_eq_error h).cons hinput

/-- A rewiring that fails changes nothing at all, also no counters. -/
theorem rewire_eq_error {id : LayerId} {inputs : List LayerId}
    (h : b.rewire id inputs = (.error e, b')) : b' = b := by
  unfold rewire at h
  split at h
  · exact (congrArg Prod.snd h).symm
  · cases congrArg Prod.fst h

/-- Inputs that are accepted are those of their layer then, and nothing else is changed. -/
theorem rewire_eq_ok {id : LayerId} {inputs : List LayerId}
    (h : b.rewire id inputs = (.ok (), b')) :
    ∃ layer, b.network.layer? id = some layer ∧ b'.registry = b.registry ∧
      b'.network.ids = b.network.ids ∧ b'.network.size = b.network.size ∧
      b'.network.layer? id = some { layer with inputs } ∧
      ∀ other, other ≠ id → b'.network.layer? other = b.network.layer? other := by
  unfold rewire at h
  split at h <;> rename_i hrewire
  · cases congrArg Prod.fst h
  · cases h
    unfold Network.rewire at hrewire
    split at hrewire
    · cases hrewire
    · rename_i layer hlayer
      rw [Network.layer_eq_ok_iff] at hlayer
      split at hrewire
      · cases hrewire
      · cases hrewire
        refine ⟨layer, hlayer, rfl, rfl, Network.size_setInputs _ _ _, ?_, fun other hne => ?_⟩
        · rw [Network.layer?_setInputs, if_pos rfl, hlayer, Option.map_some]
        · rw [Network.layer?_setInputs, if_neg hne.symm]

/-- What operations that fail leave, whatever network and registry they are given.  A layer or an
input that is refused leaves the network, and also the registry if it has a name; else only the
counter of its kind may have moved on.  Inputs that are refused leave everything, and accepted ones
replace those of one layer.  A chain that is refused leaves the network extended by the layers
before the one that is refused. -/
theorem kept_of_failure (b : Builder) :
    (∀ spec inputs e b', b.add spec inputs = (.error e, b') →
      b'.network = b.network ∧ (spec.name ≠ none → b'.registry = b.registry) ∧
        NameRegistry.AgreeBut spec.kind.baseName b.registry b'.registry) ∧
    (∀ spec e b', b.input spec = (.error e, b') →
      b'.network = b.network ∧ (spec.name ≠ none → b'.registry = b.registry) ∧
        NameRegistry.AgreeBut spec.kind.baseName b.registry b'.registry) ∧
    (∀ id inputs e b', b.rewire id inputs = (.error e, b') → b' = b) ∧
    (∀ id inputs b', b.rewire id inputs = (.ok (), b') →
      ∃ layer, b.network.layer? id = some layer ∧ b'.registry = b.registry ∧
        b'.network.ids = b.network.ids ∧ b'.network.size = b.network.size ∧
        b'.network.layer? id = some { layer with inputs } ∧
        ∀ other, other ≠ id → b'.network.layer? other = b.network.layer? other) ∧
    ∀ input specs e b', b.chain input specs = (.error e, b') →
      b.StopsWith [] (input :: specs) e b' := by
  have hadd (spec : LayerSpec) (inputs : List LayerId) (e : NetworkError) (b' : Builder)
      (h : b.add spec inputs = (.error e, b')) :
      b'.network = b.network ∧ (spec.name ≠ none → b'.registry = b.registry) ∧
        NameRegistry.AgreeBut spec.kind.baseName b.registry b'.registry := by
    rw [add_eq_error h]
    exact ⟨rfl, registry_chooseName_of_named, agreeBut_chooseName b spec⟩
  exact ⟨hadd, fun spec => hadd spec [], fun _ _ _ _ h => rewire_eq_error h,
    fun _ _ _ h => rewire_eq_ok h, fun _ _ _ _ h => chain_eq_error h⟩

/-- A network of three layers, of which the last has a generated name. -/
def dodgingBuilder : Builder :=
  run ⟨{}, {}⟩ dodgingHistory

/-- A flatten layer that is to have a generated name. -/
def unnamedFlatten : LayerSpec :=
  { kind := .flatten }

/-- An input and two layers behind it, of which the second is refused as its name is in use. -/
def refusedChain : Except NetworkError LayerId × Builder :=
  dodgingBuilder.chain { kind := .input (.batched [4]) false false }
    [unnamedFlatten, { kind := .flatten, name := some "x" }]

/-- Each operation fails once, on a network of layers whose names were not all generated. -/
theorem kept_of_failure_dodgingBuilder :
    ((dodgingBuilder.add unnamedFlatten [7]).1 = .error (.unknownNode 7) ∧
        (dodgingBuilder.add unnamedFlatten [7]).2.network = dodgingBuilder.network) ∧
      ((dodgingBuilder.rewire 1 [7]).1 = .error (.unknownNode 7) ∧
        (dodgingBuilder.rewire 1 [7]).2 = dodgingBuilder) ∧
      refusedChain.1 = .error (.duplicateName "x") ∧
      (∃ layers, dodgingBuilder.network.ExtendedBy layers refusedChain.2.network) ∧
      refusedChain.2.network.names = ["x", "flatten_1", "flatten_2", "input_1", "flatten_3"] := by
  have hadd : (dodgingBuilder.add unnamedFlatten [7]).1 = .error (.unknownNode 7) := rfl
  have hrewire : (dodgingBuilder.rewire 1 [7]).1 = .error (.unknownNode 7) := rfl
  have hchain : refusedChain.1 = .error (.duplicateName "x") := rfl
  have h := kept_of_failure dodgingBuilder
  refine ⟨⟨hadd, ?_⟩, ⟨hrewire, ?_⟩, hchain, ?_, by decide +kernel⟩
  · exact (h.1 _ _ _ _ (Prod.ext hadd rfl)).1
  · exact h.2.2.1 _ _ _ _ (Prod.ext hrewire rfl)
  · rcases h.2.2.2.2 _ _ _ _ (Prod.ext hchain rfl) with
      ⟨-, -, -, layers, -, -, -, hextended, -⟩
    exact ⟨layers, hextended⟩

end Builder

end LayerNet
