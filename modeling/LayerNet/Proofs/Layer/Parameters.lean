import LayerNet.Layer.Record
import LayerNet.Proofs.Table

/-!
# The keys of parameters

The parameters of a kind are written one after another into a table.  A kind that is not of the
user's own writes no key twice, so that every parameter is kept, and none of the keys that stand for
the identity of a layer.

Main definitions:

- `LayerKind.ownClass?`: the class name of a kind of the user's own.
- `Layer.identityKeys`: the keys that stand for the identity of a layer.

Main results:

- `LayerKind.nodup_keys_entries`, `LayerKind.perm_params`: no parameter replaces another.
- `LayerKind.not_mem_keys_entries`: no parameter stands under a key of the identity.
-/

namespace LayerNet

/-- The class name that the user has chosen for a kind of their own. -/
def LayerKind.ownClass? : LayerKind → Option String
  | custom options => some options.className
  | _ => none

/-- The keys that stand for the identity of a layer in its configuration. -/
def Layer.identityKeys : List String :=
  ["name", "dtype", "trainable"]

namespace LayerKind

variable {kind : LayerKind}

/-- An input is not of the user's own. -/
theorem ownClass?_of_shape? {shape : Shape} (h : kind.shape? = some shape) :
    kind.ownClass? = none := by
  cases kind with
  | custom options => cases h
  | _ => rfl

/-- The keys of the identity and those of the parameters are all different. -/
theorem nodup_identityKeys_append_keys (hown : kind.ownClass? = none) :
    (Layer.identityKeys ++ Table.keys kind.entries).Nodup := by
  cases kind with
  | custom options => cases hown
  | recurrent options =>
      -- which parameters there are depends on the cell
      cases hcell : options.cell <;>
        simp [Layer.identityKeys, Table.keys, entries, recurrentEntries, cellEntries, hcell,
          initializerField, regularizerField, constraintField]
  | _ =>
      simp [Layer.identityKeys, Table.keys, entries, embeddingEntries, convolution1DEntries,
        convolution2DEntries, batchNormalizationEntries, layerNormalizationEntries,
        WeightOptions.fields, channelsLast, initializerField, regularizerField, constraintField]

theorem nodup_keys_entries (hown : kind.ownClass? = none) : (Table.keys kind.entries).Nodup :=
  (nodup_identityKeys_append_keys hown).of_append_right

/-- No kind writes a parameter under a key of the identity, unless it is of the user's own. -/
theorem not_mem_keys_entries (hown : kind.ownClass? = none) {key : String}
    (hkey : key ∈ Layer.identityKeys) : key ∉ Table.keys kind.entries := fun hmem =>
  List.disjoint_of_nodup_append (nodup_identityKeys_append_keys hown) hkey hmem

/-- The parameters are what was written, in order of their keys. -/
theorem perm_params (hown : kind.ownClass? = none) : kind.params.Perm kind.entries :=
  Table.perm_ofPairs (nodup_keys_entries hown)

/-- No parameter is lost, since no key is written twice. -/
theorem mem_params_iff (hown : kind.ownClass? = none) {entry : String × Json} :
    entry ∈ kind.params ↔ entry ∈ kind.entries :=
  (perm_params hown).mem_iff

end LayerKind
end LayerNet
