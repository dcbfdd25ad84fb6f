import LayerNet.Proofs.Network.Sizes

/-!
# Shapes of inputs

Every dimension of the shape of an input should be the batch or a positive size.  The check of a
shape leaves the first dimension out, as if it were the batch.  A fixed first dimension is accepted
whatever its size, so that shapes are as they should be except for those that begin at zero.

Main definitions:

- `Shape.IsSized`: shapes as they should be.
- `Shape.IsFramed`: a first dimension before positive sizes.
- `Shape.BeginsAtZero`: a first dimension that is neither the batch nor a size.

Main results:

- `Shape.isValid_iff`, `Shape.IsFramed.isSized_iff`: what the check says of a shape.
- `Builder.exists_add_eq_ok_iff`: when a layer is accepted.
- `Network.input_shapes_of_reachable`: the shapes of inputs in networks and documents.
-/

namespace LayerNet

/-! ## Shapes -/

theorem Dimension.batch_or_isPositive_iff {d : Dimension} :
    d = .batch ∨ d.isPositive = true ↔ d ≠ .fixed 0 := by
  cases d with
  | batch => simp
  | fixed n => simp [Dimension.isPositive, Nat.pos_iff_ne_zero]

/-- Whether a document is a list with an item, and every item is `null` or a positive number. -/
def Json.IsShape (j : Json) : Prop :=
  ∃ items, j = .arr items ∧ items ≠ [] ∧ ∀ item ∈ items, item = .null ∨ item.IsSize

namespace Shape

variable {shape : Shape}

/-- Whether there is a dimension, and every dimension is the batch or a positive size. -/
def IsSized (shape : Shape) : Prop :=
  shape.dimensions ≠ [] ∧ ∀ d ∈ shape.dimensions, d = .batch ∨ d.isPositive = true

/-- Whether there is a first dimension, and every dimension behind it is a positive size. -/
def IsFramed (shape : Shape) : Prop :=
  ∃ first sizes, shape.dimensions = first :: sizes ∧ ∀ d ∈ sizes, d.isPositive = true

/-- Whether the first dimension is a fixed size of zero. -/
def BeginsAtZero (shape : Shape) : Prop :=
  shape.dimensions.head? = some (.fixed 0)

instance (shape : Shape) : Decidable shape.IsSized :=
  inferInstanceAs
    (Decidable (shape.dimensions ≠ [] ∧ ∀ d ∈ shape.dimensions, d = .batch ∨ d.isPositive = true))

instance (shape : Shape) : Decidable shape.BeginsAtZero :=
  inferInstanceAs (Decidable (shape.dimensions.head? = some (.fixed 0)))

theorem isValid_iff : shape.isValid = true ↔ shape.IsFramed := by
  rcases shape with ⟨_ | ⟨first, sizes⟩⟩
  · simp [isValid, IsFramed]
  · simp [isValid, withoutBatch, IsFramed]

/-- A shape that is accepted is as it should be unless it begins at zero. -/
theorem IsFramed.isSized_iff (h : shape.IsFramed) : shape.IsSized ↔ ¬ shape.BeginsAtZero := by
  rcases h with ⟨first, sizes, hdimensions, hsizes⟩
  have hrest : ∀ d ∈ sizes, d = .batch ∨ d.isPositive = true := fun d hd => Or.inr (hsizes d hd)
  rw [IsSized, BeginsAtZero, hdimensions, List.forall_mem_cons, List.head?_cons, Option.some.injEq,
    Dimension.batch_or_isPositive_iff]
  exact ⟨fun hsized => hsized.2.1, fun hfirst => ⟨List.cons_ne_nil _ _, hfirst, hrest⟩⟩

/-- The sizes of a shape in a document: a list with an item, and every item is `null` or a positive
number. -/
theorem isShape_toJson_iff : shape.toJson.IsShape ↔ shape.IsSized := by
  have hitem (d : Dimension) :
      d.toJson = .null ∨ d.toJson.IsSize ↔ d = .batch ∨ d.isPositive = true := by
    cases d with
    | batch => simp [Dimension.toJson]
    | fixed n => simp [Dimension.toJson, Dimension.isPositive, Json.ofNat, Json.IsSize]
  simp [Json.IsShape, IsSized, toJson, hitem]

end Shape

/-! ## Layers that are accepted -/

theorem LayerKind.arity_of_shape? {kind : LayerKind} {shape : Shape}
    (h : kind.shape? = some shape) :
    kind.arity = .none ∧ (kind.fault? = none ↔ shape.IsFramed) := by
  cases kind with
  | input size sparse ragged =>
      obtain rfl : size = shape := Option.some.inj h
      refine ⟨rfl, ?_⟩
      rw [← Shape.isValid_iff, fault?, firstFault_eq_none_iff]
      simp [checks]
  | _ => cases h

namespace Network

variable {net : Network} {name : String} {spec : LayerSpec} {inputs : List LayerId}

theorem exists_place_eq_ok_iff :
    (∃ net', net.place name spec inputs = .ok net') ↔
      spec.kind.fault? = none ∧ net.checkInputs name spec.kind inputs = .ok () := by
  unfold place
  split <;> rename_i hfault
  · simp [hfault]
  · split <;> rename_i hcheck <;> simp [hfault, hcheck]

end Network

namespace Builder

variable {b : Builder} {spec : LayerSpec} {inputs : List LayerId}

/-- A layer is accepted exactly if a name can be chosen for it, nothing is wrong with its kind, and
its inputs are right. -/
theorem exists_add_eq_ok_iff :
    (∃ id, (b.add spec inputs).1 = .ok id) ↔
      ∃ name, (b.chooseName spec).1 = .ok name ∧ spec.kind.fault? = none ∧
        b.network.checkInputs name spec.kind inputs = .ok () := by
  unfold add
  split <;> rename_i hname
  · simp [hname]
  · rw [hname]
    simp only [Except.ok.injEq, exists_eq_left', ← Network.exists_place_eq_ok_iff]
    split <;> rename_i hplace <;> simp [hplace]

/-- An input is accepted exactly if a name can be chosen for it, its shape is a first dimension
before positive sizes, and nothing feeds it. -/
theorem exists_add_input_eq_ok_iff {shape : Shape} (h : spec.kind.shape? = some shape) :
    (∃ id, (b.add spec inputs).1 = .ok id) ↔
      (∃ name, (b.chooseName spec).1 = .ok name) ∧ shape.IsFramed ∧ inputs = [] := by
  rcases LayerKind.arity_of_shape? h with ⟨harity, hfault⟩
  have hcheck (name : String) :
      b.network.checkInputs name spec.kind inputs = .ok () ↔ inputs = [] := by
    rw [Network.checkInputs_eq_ok_iff, harity]
    constructor
    · rintro ⟨haccepts, -⟩
      exact List.length_eq_zero_iff.mp (of_decide_eq_true haccepts)
    · rintro rfl
      exact ⟨rfl, fun input hinput => by cases hinput⟩
  rw [exists_add_eq_ok_iff]
  simp only [hfault, hcheck, exists_and_right]

end Builder

/-! ## Networks and documents -/

namespace Network

variable {net : Network}

theorem WellFormed.isFramed (h : net.WellFormed) {id : LayerId} {layer : Layer} {shape : Shape}
    (hlayer : net.layer? id = some layer) (hshape : layer.kind.shape? = some shape) :
    shape.IsFramed :=
  (LayerKind.arity_of_shape? hshape).2.mp (h.fits_of_layer? hlayer).fault?_eq_none

/-- The signatures of an assembly have the shapes of inputs. -/
theorem exists_layer_of_signature {outputs : List LayerId} {a : Assembly}
    (ha : net.assemble outputs = .ok a) {signature : InputSignature} (hmem : signature ∈ a.inputs) :
    ∃ id layer, net.layer? id = some layer ∧ layer.kind.shape? = some signature.shape := by
  rcases exists_layer_of_mem_inputs ha hmem with ⟨id, -, layer, hlayer, hsignature⟩
  rcases Option.map_eq_some_iff.mp hsignature with ⟨shape, hshape, rfl⟩
  exact ⟨id, layer, hlayer, hshape⟩

/-- The shape of every input is a first dimension before positive sizes, in the network as well as
among the signatures and in the records of every assembly; and all dimensions of it are the batch or
positive sizes exactly if it does not begin at zero.  No other input is accepted by any builder, and
every such input is, if a name can be chosen for it and nothing feeds it. -/
theorem input_shapes_of_reachable (h : net.Reachable) :
    (∀ id layer shape, net.layer? id = some layer → layer.kind.shape? = some shape →
      shape.IsFramed ∧ (shape.IsSized ↔ ¬ shape.BeginsAtZero)) ∧
    (∀ outputs a, net.assemble outputs = .ok a →
      (∀ signature ∈ a.inputs, signature.shape.IsFramed ∧
        (signature.shape.IsSized ↔ ¬ signature.shape.BeginsAtZero)) ∧
      ∀ (i : Nat) id layer shape, a.order[i]? = some id → net.layer? id = some layer →
        layer.kind.shape? = some shape →
        ∃ record sizes, a.definition.layers[i]? = some record ∧
          Table.find? "batch_input_shape" record.config = some sizes ∧
          (sizes.IsShape ↔ ¬ shape.BeginsAtZero)) ∧
    ∀ (b : Builder) (spec : LayerSpec) (inputs : List LayerId) (shape : Shape),
      spec.kind.shape? = some shape →
      ((∃ id, (b.add spec inputs).1 = .ok id) ↔
        (∃ name, (b.chooseName spec).1 = .ok name) ∧ shape.IsFramed ∧ inputs = []) := by
  have hnet := h.wellFormed
  have hlaw : ∀ id layer shape, net.layer? id = some layer → layer.kind.shape? = some shape →
      shape.IsFramed ∧ (shape.IsSized ↔ ¬ shape.BeginsAtZero) := by
    intro id layer shape hlayer hshape
    have hframed : shape.IsFramed := hnet.isFramed hlayer hshape
    exact ⟨hframed, hframed.isSized_iff⟩
  refine ⟨hlaw, fun outputs a ha => ⟨?_, ?_⟩, fun b spec inputs shape hshape =>
    Builder.exists_add_input_eq_ok_iff hshape⟩
  · intro signature hmem
    rcases exists_layer_of_signature ha hmem with ⟨id, layer, hlayer, hshape⟩
    exact hlaw id layer signature.shape hlayer hshape
  · intro i id layer shape hi hlayer hshape
    rcases hnet.exists_record_of_layer? hlayer with ⟨record, hrecord, hconfig⟩
    rcases exists_record_of_assemble ha hi with ⟨other, hat, hother⟩
    cases hrecord.symm.trans hother
    refine ⟨record, shape.toJson, hat, ?_, ?_⟩
    · rw [hconfig]
      exact (Layer.config_of_shape hshape).1
    · rw [Shape.isShape_toJson_iff]
      exact (hlaw id layer shape hlayer hshape).2

/-- A shape that begins with a fixed batch. -/
def fixedBatch : Shape :=
  ⟨[.fixed 32, .fixed 4]⟩

/-- A shape that begins at zero. -/
def noBatch : Shape :=
  ⟨[.fixed 0, .fixed 4]⟩

/-- A history with an input of either shape. -/
def fixedHistory : List Edit :=
  [.input { kind := .input fixedBatch false false, name := some "x" },
   .input { kind := .input noBatch false false, name := some "y" }]

/-- The network that the history leads to. -/
def fixedInputs : Network :=
  (Builder.run ⟨{}, {}⟩ fixedHistory).network

theorem reachable_fixedInputs : fixedInputs.Reachable :=
  ⟨{}, fixedHistory, rfl⟩

theorem exists_assemble_fixedInputs :
    ∃ a, fixedInputs.assemble [0, 1] = .ok a ∧
      ∀ id ∈ [0, 1], ∃ i : Nat, a.order[i]? = some id := by
  have hfollow : fixedInputs.FollowInputs [0, 1] := by decide
  have hspec :
      ∀ output ∈ [0, 1], output < fixedInputs.size ∧ ¬ fixedInputs.ReachesCycle output := by
    intro output hmem
    refine ⟨?_, hfollow.not_reachesCycle (by decide) hmem⟩
    revert output
    decide
  rcases exists_assemble_eq_ok reachable_fixedInputs.wellFormed (by decide) hspec with ⟨a, ha⟩
  rcases settled_of_assemble reachable_fixedInputs.wellFormed ha with ⟨w, hsettled, horder⟩
  exact ⟨a, ha, fun id hid => List.mem_iff_getElem?.mp (horder ▸ hsettled.mem_order id hid)⟩

/-- Of the two inputs the first is as it should be, in the network and in the document, and the
second is not; and a second dimension that is the batch is not accepted. -/
theorem input_shapes_fixedInputs :
    fixedInputs.Reachable ∧ fixedBatch.IsSized ∧ ¬ noBatch.IsSized ∧
      (∃ (a : Assembly) (i : Nat) (record : LayerRecord) (sizes : Json),
        fixedInputs.assemble [0, 1] = .ok a ∧ a.definition.layers[i]? = some record ∧
        Table.find? "batch_input_shape" record.config = some sizes ∧ sizes.IsShape) ∧
      ¬ ∃ id,
        (Builder.add ⟨{}, {}⟩ { kind := .input ⟨[.batch, .batch]⟩ false false } []).1 = .ok id := by
  rcases input_shapes_of_reachable reachable_fixedInputs with ⟨hlaw, hdocument, hadd⟩
  rcases exists_assemble_fixedInputs with ⟨a, ha, hplaces⟩
  rcases hplaces 0 (by decide) with ⟨i, hi⟩
  rcases (hdocument _ a ha).2 i 0 _ fixedBatch hi rfl rfl with
    ⟨record, sizes, hrecord, hsizes, hshape⟩
  refine ⟨reachable_fixedInputs, ?_, ?_, ?_, ?_⟩
  · exact (hlaw 0 _ fixedBatch rfl rfl).2.mpr (by decide)
  · exact fun hsized => (hlaw 1 _ noBatch rfl rfl).2.mp hsized rfl
  · exact ⟨a, i, record, sizes, ha, hrecord, hsizes, hshape.mpr (by decide)⟩
  · intro hok
    rcases ((hadd _ _ _ ⟨[.batch, .batch]⟩ rfl).mp hok).2.1 with ⟨first, rest, heq, hrest⟩
    cases heq
    exact absurd (hrest .batch List.mem_cons_self) (by decide)

/-- An input that begins at zero is accepted, and its shape goes into the network and into the
document. -/
theorem input_begins_at_zero :
    (∃ id, (Builder.add ⟨{}, {}⟩ { kind := .input noBatch false false, name := some "y" } []).1 =
      .ok id) ∧
      fixedInputs.Reachable ∧
      (∃ layer, fixedInputs.layer? 1 = some layer ∧
        layer.kind.shape? = some noBatch ∧ ¬ noBatch.IsSized) ∧
      ∃ (a : Assembly) (i : Nat) (record : LayerRecord) (sizes : Json),
        fixedInputs.assemble [0, 1] = .ok a ∧ a.definition.layers[i]? = some record ∧
        Table.find? "batch_input_shape" record.config = some sizes ∧ ¬ sizes.IsShape := by
  have hnot : ¬ noBatch.IsSized := by decide
  rcases exists_assemble_fixedInputs with ⟨a, ha, hplaces⟩
  rcases hplaces 1 (by decide) with ⟨i, hi⟩
  rcases exists_record_of_assemble ha hi with ⟨record, hat, hrecord⟩
  rcases record_eq_ok_iff.mp hrecord with ⟨layer, feeding, hlayer, -, rfl⟩
  cases hlayer
  refine ⟨⟨0, rfl⟩, reachable_fixedInputs, ⟨_, rfl, rfl, hnot⟩, a, i, _, noBatch.toJson, ha,
    hat, ?_, ?_⟩
  · exact (@Layer.config_of_shape _ noBatch rfl).1
  · rw [Shape.isShape_toJson_iff]
    exact hnot

end Network
end LayerNet
