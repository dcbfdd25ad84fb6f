import LayerNet.Proofs.Layer.Parameters

/-!
# Records of layers

The configuration in the record of a layer holds the parameters of its kind, with the identity of
the layer written over them.  So the identity stands there whatever parameters the user has given to
a kind of their own, and nothing else is changed.

Main results:

- `Layer.find?_config`: what is found in a configuration.
- `Layer.config_of_shape`: what the configuration of an input says.
- `Layer.record_identity_params`: all that the record of a layer says.
-/

namespace LayerNet
namespace Layer

variable {layer : Layer} {key : String}

/-! ## The identity -/

/-- An input is not trained, so that its record does not say whether it is trainable. -/
theorem keys_identity (layer : Layer) :
    Table.keys layer.identity = if layer.kind.isInput then ["name", "dtype"] else identityKeys := by
  unfold identity
  split <;> rfl

theorem nodup_keys_identity (layer : Layer) : (Table.keys layer.identity).Nodup := by
  rw [keys_identity]
  split <;> decide

theorem keys_identity_subset (layer : Layer) : Table.keys layer.identity ⊆ identityKeys := by
  rw [keys_identity]
  split
  · exact List.subset_append_left ["name", "dtype"] ["trainable"]
  · exact List.Subset.refl _

/-- What the identity says of being trainable: nothing, for an input. -/
theorem find?_trainable_identity (layer : Layer) :
    Table.find? "trainable" layer.identity =
      if layer.kind.isInput then none else some (.bool layer.trainable) := by
  unfold identity
  split <;> rfl

/-! ## Configurations -/

/-- The configuration has its keys in order, whatever the parameters are. -/
theorem sorted_config (layer : Layer) : Table.Sorted layer.config :=
  (Table.sorted_ofPairs layer.kind.entries).foldl_insert layer.identity

/-- What the identity says of a key goes before what the parameters say of it. -/
theorem find?_config (layer : Layer) (key : String) :
    Table.find? key layer.config =
      (Table.find? key layer.identity).or (Table.find? key layer.kind.params) := by
  rw [← Table.find?_reverse layer.nodup_keys_identity]
  exact Table.find?_foldl_insert key layer.identity layer.kind.params

/-- Under any other key the parameters are kept. -/
theorem find?_config_of_not_mem (h : key ∉ identityKeys) :
    Table.find? key layer.config = Table.find? key layer.kind.params := by
  have hnone : Table.find? key layer.identity = none :=
    Table.find?_eq_none_iff.mpr fun hmem => h (layer.keys_identity_subset hmem)
  rw [find?_config, hnone, Option.none_or]

/-- Only layers of the user's own can have parameters under the keys of the identity. -/
theorem find?_params_of_mem (hown : layer.kind.ownClass? = none) (h : key ∈ identityKeys) :
    Table.find? key layer.kind.params = none := by
  rw [LayerKind.params, Table.find?_ofPairs,
    Table.find?_reverse (LayerKind.nodup_keys_entries hown), Table.find?_eq_none_iff]
  exact LayerKind.not_mem_keys_entries hown h

/-- The record of an input says its shape and its element type. -/
theorem config_of_shape {shape : Shape} (h : layer.kind.shape? = some shape) :
    Table.find? "batch_input_shape" layer.config = some shape.toJson ∧
      Table.find? "dtype" layer.config = some (.str layer.elementType.name) := by
  rcases layer with ⟨name, kind, elementType, trainable, inputs⟩
  refine ⟨?_, by rw [find?_config]; rfl⟩
  rw [find?_config_of_not_mem (by decide), LayerKind.params, Table.find?_ofPairs]
  cases kind with
  | input size sparse ragged =>
      obtain rfl : size = shape := Option.some.inj h
      rfl
  | _ => cases h

/-! ## Records -/

/-- The record of a layer names its class and the layer, and lists the layers that feed it once, in
the order of the call.  Its configuration has each key once: the name, the element type and, unless
the layer is an input, whether it is trained stand there as they are for the layer, and every other
key has what the parameters of the kind say of it.  Only a kind of the user's own can have
parameters under the keys of the identity. -/
theorem record_identity_params (layer : Layer) (feeding : List String) :
    ((layer.record feeding).className = layer.kind.className ∧
        (layer.record feeding).name = layer.name ∧ (layer.record feeding).inbound = [feeding]) ∧
      Table.Sorted (layer.record feeding).config ∧
      Table.find? "name" (layer.record feeding).config = some (.str layer.name) ∧
      Table.find? "dtype" (layer.record feeding).config = some (.str layer.elementType.name) ∧
      Table.find? "trainable" (layer.record feeding).config =
        (if layer.kind.isInput then none else some (.bool layer.trainable)) ∧
      (∀ key ∉ identityKeys,
        Table.find? key (layer.record feeding).config = Table.find? key layer.kind.params) ∧
      (layer.kind.ownClass? = none →
        ∀ key ∈ identityKeys, Table.find? key layer.kind.params = none) := by
  have hconfig : (layer.record feeding).config = layer.config := rfl
  rw [hconfig]
  refine ⟨⟨rfl, rfl, rfl⟩, layer.sorted_config, by rw [find?_config]; rfl,
    by rw [find?_config]; rfl, ?_, fun key hkey => find?_config_of_not_mem hkey,
    fun hown key hkey => find?_params_of_mem hown hkey⟩
  rw [find?_config, find?_trainable_identity]
  cases hshape : layer.kind.shape? with
  | none => simp [LayerKind.isInput, hshape]
  | some shape =>
      have hnone : Table.find? "trainable" layer.kind.params = none :=
        find?_params_of_mem (LayerKind.ownClass?_of_shape? hshape) (by decide)
      simp [LayerKind.isInput, hshape, hnone]

/-- A layer of the user's own with parameters under all keys of the identity. -/
def disguised : Layer where
  name := "own_1"
  kind := .custom
    { className := "Own", baseName := "own",
      params :=
        [("dtype", .null), ("name", .str "other"), ("rate", .int 3), ("trainable", .bool true)] }
  elementType := .float64
  trainable := false
  inputs := [0, 0]

/-- A dropout layer under the name of an input. -/
def plainDropout : Layer where
  name := "input_1"
  kind := .dropout 0.5 none
  elementType := .half
  trainable := true
  inputs := [0]

/-- Parameters of the user's own that take the keys of the identity are overridden, and others
stay. -/
theorem record_disguised_plainDropout :
    (Table.find? "name" (disguised.record ["x", "x"]).config = some (.str "own_1") ∧
        Table.find? "trainable" (disguised.record ["x", "x"]).config = some (.bool false) ∧
        Table.find? "rate" (disguised.record ["x", "x"]).config = some (.int 3) ∧
        (disguised.record ["x", "x"]).inbound = [["x", "x"]]) ∧
      Table.find? "noise_shape" (plainDropout.record ["x"]).config = some .null ∧
      Table.find? "trainable" plainDropout.kind.params = none := by
  rcases record_identity_params disguised ["x", "x"] with
    ⟨⟨-, -, hinbound⟩, -, hname, -, htrainable, hother, -⟩
  rcases record_identity_params plainDropout ["x"] with ⟨-, -, -, -, -, hplain, hnone⟩
  refine ⟨⟨hname, htrainable, ?_, hinbound⟩, ?_, hnone rfl "trainable" (by decide)⟩
  · rw [hother "rate" (by decide)]
    rfl
  · rw [hplain "noise_shape" (by decide)]
    rfl

end Layer
end LayerNet
