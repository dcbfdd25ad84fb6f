import Mathlib.Tactic.MkIffOfInductiveProp
import LayerNet.Layer.Validation
import LayerNet.Proofs.Layer.Record

/-!
# Sizes in parameters

Some keys of parameters hold sizes: a positive number or a list of them.  What is checked of the
options of a kind is enough for all of them, whichever kind it is, also where a pooling layer
without strides of its own moves by its window.

Main definitions:

- `Json.IsSize`, `Json.IsSizes`: positive numbers, alone or in a list.
- `LayerKind.KeepsKey`: what must hold of the value of a key.

Main results:

- `LayerKind.keepKeys_of_fault?`: the parameters of a kind without fault.
- `LayerKind.find?_params_of_unstridedWindow?`: strides that are not given.
- `Layer.keepsKey_config`: the configuration of a layer without fault.
-/

namespace LayerNet

/-! ## Sizes in documents -/

namespace Json

/-- Whether a document is a positive number. -/
def IsSize (j : Json) : Prop :=
  ∃ n : Int, j = .int n ∧ 0 < n

/-- Whether a document is a positive number or a list of positive numbers. -/
def IsSizes (j : Json) : Prop :=
  j.IsSize ∨ ∃ items, j = .arr items ∧ ∀ item ∈ items, item.IsSize

@[simp]
theorem isSize_ofNat {n : Nat} : (ofNat n).IsSize ↔ 0 < n := by
  simp [IsSize, ofNat]

/-- A number alone stands for sizes if it is positive. -/
@[simp]
theorem isSizes_ofNat {n : Nat} : (ofNat n).IsSizes ↔ 0 < n := by
  rw [IsSizes, isSize_ofNat, or_iff_left_iff_imp]
  rintro ⟨items, heq, -⟩
  cases heq

@[simp]
theorem isSizes_natList {ns : List Nat} :
    (LayerKind.natList ns).IsSizes ↔ ∀ n ∈ ns, 0 < n := by
  simp [IsSizes, LayerKind.natList, IsSize, ofNat]

end Json

/-! ## Parameters -/

namespace LayerKind

/-- The keys that hold sizes. -/
def sizeKeys : List String :=
  ["units", "filters", "groups", "kernel_size", "strides", "dilation_rate", "pool_size",
    "target_shape", "input_dim", "output_dim"]

/-- The known ways of padding. -/
def paddings : List String :=
  ["valid", "same", "causal"]

/-- Whether a value is as its key wants it. -/
@[mk_iff]
structure KeepsKey (key : String) (value : Json) : Prop where
  sizes : key ∈ sizeKeys → value.IsSizes
  target : key = "target_shape" → value ≠ .arr []
  padding : key = "padding" → ∃ padding ∈ paddings, value = .str padding

variable {key padding : String} {value : Json} {entries entries' : List (String × Json)}

/-- The keys one by one, for case distinctions. -/
theorem mem_sizeKeys_iff : key ∈ sizeKeys ↔ key = "units" ∨ key = "filters" ∨ key = "groups" ∨
    key = "kernel_size" ∨ key = "strides" ∨ key = "dilation_rate" ∨ key = "pool_size" ∨
    key = "target_shape" ∨ key = "input_dim" ∨ key = "output_dim" := by
  simp [sizeKeys]

/-- Under other keys any value may stand. -/
theorem keepsKey_of_not_mem (hsize : key ∉ sizeKeys) (hpadding : key ≠ "padding") :
    KeepsKey key value := by
  have htarget : key ≠ "target_shape" := by
    rintro rfl
    exact hsize (by decide)
  simp [keepsKey_iff, hsize, htarget, hpadding]

/-- Under a key of sizes only the sizes matter, except for the shape of a target, which must not be
empty. -/
theorem keepsKey_iff_isSizes (hsize : key ∈ sizeKeys) (htarget : key ≠ "target_shape") :
    KeepsKey key value ↔ value.IsSizes := by
  have hpadding : key ≠ "padding" := by
    rintro rfl
    exact absurd hsize (by decide)
  simp [keepsKey_iff, hsize, htarget, hpadding]

@[simp]
theorem keepsKey_target_iff :
    KeepsKey "target_shape" value ↔ value.IsSizes ∧ value ≠ .arr [] := by
  simp [keepsKey_iff, mem_sizeKeys_iff]

@[simp]
theorem keepsKey_padding_iff : KeepsKey "padding" (.str padding) ↔ padding ∈ paddings := by
  simp [keepsKey_iff, mem_sizeKeys_iff]

/-- Whether all values are as their keys want them. -/
def KeepKeys (entries : List (String × Json)) : Prop :=
  ∀ entry ∈ entries, KeepsKey entry.1 entry.2

@[simp]
theorem keepKeys_nil : KeepKeys [] := by
  simp [KeepKeys]

@[simp]
theorem keepKeys_cons :
    KeepKeys ((key, value) :: entries) ↔ KeepsKey key value ∧ KeepKeys entries :=
  List.forall_mem_cons

@[simp]
theorem keepKeys_append : KeepKeys (entries ++ entries') ↔ KeepKeys entries ∧ KeepKeys entries' :=
  List.forall_mem_append

/-- The parameters of a kernel and a bias have no sizes among them. -/
@[simp]
theorem keepKeys_weights (w : WeightOptions) : KeepKeys w.fields := by
  simp [WeightOptions.fields, initializerField, regularizerField, constraintField,
    keepsKey_of_not_mem, mem_sizeKeys_iff]

theorem natList_ne_nil_iff {ns : List Nat} : natList ns ≠ .arr [] ↔ ns ≠ [] := by
  simp [natList]

/-- Nothing else is asked of the shape of a target than that it has sizes and that all are
positive. -/
theorem keepKeys_target {target : List Nat} (hne : target ≠ []) (hsizes : ∀ n ∈ target, 0 < n) :
    KeepKeys [("target_shape", natList target)] := by
  rw [keepKeys_cons, keepsKey_target_iff, Json.isSizes_natList, natList_ne_nil_iff]
  exact ⟨⟨hsizes, hne⟩, keepKeys_nil⟩

/-- Window, strides and padding are all that the parameters of a pooling layer are asked about. -/
theorem keepKeys_pooling {sizes strides : List Nat} (hsizes : ∀ n ∈ sizes, 0 < n)
    (hstrides : ∀ n ∈ strides, 0 < n) (hpadding : padding ∈ paddings) :
    KeepKeys [("pool_size", natList sizes), ("strides", natList strides), ("padding", .str padding),
      channelsLast] := by
  rw [← Json.isSizes_natList] at hsizes hstrides
  simp [channelsLast, keepsKey_iff_isSizes, keepsKey_of_not_mem, mem_sizeKeys_iff, hpadding, hsizes,
    hstrides]

/-! ### What is checked -/

/-- The check of sizes passes exactly if all of them are positive. -/
@[simp]
theorem positive_fst_iff {what : String} {values : List Nat} :
    (positive what values).1 = true ↔ ∀ n ∈ values, 0 < n := by
  simp [positive]

/-- The check of a padding passes exactly if it is one of the known ones. -/
@[simp]
theorem knownPadding_fst_iff : (knownPadding padding).1 = true ↔ padding ∈ paddings := by
  simp [knownPadding, paddings]

/-- What is checked is enough: the parameters of a kind without fault are as their keys want
them. -/
theorem keepKeys_of_fault? {kind : LayerKind} (hown : kind.ownClass? = none)
    (hfault : kind.fault? = none) : KeepKeys kind.entries := by
  have hchecks : ∀ check ∈ kind.checks, check.1 = true := firstFault_eq_none_iff.mp hfault
  cases kind with
  | custom o => cases hown
  | dense units function weights =>
      have hunits : 0 < units := by simpa [checks] using hchecks
      simp [entries, keepsKey_iff_isSizes, keepsKey_of_not_mem, mem_sizeKeys_iff, hunits]
  | reshape target =>
      have htarget : target ≠ [] ∧ ∀ n ∈ target, 0 < n := by simpa [checks] using hchecks
      exact keepKeys_target htarget.1 htarget.2
  | embedding o =>
      have hdims : 0 < o.inputDim ∧ 0 < o.outputDim := by simpa [checks] using hchecks
      simp [entries, embeddingEntries, initializerField, regularizerField, constraintField,
        keepsKey_iff_isSizes, keepsKey_of_not_mem, mem_sizeKeys_iff, hdims]
  | convolution1D o =>
      have hoptions :
          (∀ n ∈ [o.filters, o.kernelSize, o.strides, o.dilationRate, o.groups], 0 < n) ∧
          o.padding ∈ paddings := by
        simpa [checks] using hchecks
      simp only [List.forall_mem_cons] at hoptions
      simp [entries, convolution1DEntries, channelsLast, keepsKey_iff_isSizes, keepsKey_of_not_mem,
        mem_sizeKeys_iff, hoptions]
  | convolution2D o =>
      have hoptions : (0 < o.filters ∧ 0 < o.groups) ∧
          (∀ n ∈ [o.kernelSize.1, o.kernelSize.2], 0 < n) ∧
            (∀ n ∈ [o.strides.1, o.strides.2], 0 < n) ∧
          (∀ n ∈ [o.dilationRate.1, o.dilationRate.2], 0 < n) ∧ o.padding ∈ paddings := by
        simpa [checks] using hchecks
      simp only [List.forall_mem_cons] at hoptions
      simp [entries, convolution2DEntries, natPair, channelsLast, keepsKey_iff_isSizes,
        keepsKey_of_not_mem, mem_sizeKeys_iff, hoptions]
  | pooling1D op poolSize strides padding =>
      have hoptions : (∀ n ∈ [poolSize], 0 < n) ∧ (∀ n ∈ strides.toList, 0 < n) ∧
          padding ∈ paddings := by
        simpa [checks] using hchecks
      refine keepKeys_pooling hoptions.1 ?_ hoptions.2.2
      cases strides with
      | none => exact hoptions.1
      | some strides => exact hoptions.2.1
  | pooling2D op poolSize strides padding =>
      have hoptions : (∀ n ∈ [poolSize.1, poolSize.2], 0 < n) ∧
          (∀ n ∈ (strides.map fun s => [s.1, s.2]).getD [], 0 < n) ∧ padding ∈ paddings := by
        simpa [checks] using hchecks
      refine keepKeys_pooling hoptions.1 ?_ hoptions.2.2
      cases strides with
      | none => exact hoptions.1
      | some strides => exact hoptions.2.1
  | recurrent o =>
      have hunits : 0 < o.units := of_decide_eq_true (hchecks _ List.mem_cons_self)
      cases hcell : o.cell <;>
        simp [entries, recurrentEntries, cellEntries, hcell, initializerField, regularizerField,
          constraintField, keepsKey_iff_isSizes, keepsKey_of_not_mem, mem_sizeKeys_iff, hunits]
  | fourierFeatures outputDim distribution scale =>
      have hdim : 0 < outputDim := of_decide_eq_true (hchecks _ List.mem_cons_self)
      simp [entries, keepsKey_iff_isSizes, keepsKey_of_not_mem, mem_sizeKeys_iff, hdim]
  | _ =>
      simp [entries, batchNormalizationEntries, layerNormalizationEntries, channelsLast,
        initializerField, regularizerField, constraintField, keepsKey_of_not_mem, mem_sizeKeys_iff]

/-! ### Windows without strides -/

/-- The window of a pooling layer that is given no strides. -/
def unstridedWindow? : LayerKind → Option (List Nat)
  | pooling1D _ poolSize none _ => some [poolSize]
  | pooling2D _ poolSize none _ => some [poolSize.1, poolSize.2]
  | _ => none

/-- Without strides a pooling layer moves by its window. -/
theorem find?_params_of_unstridedWindow? {kind : LayerKind} {window : List Nat}
    (h : kind.unstridedWindow? = some window) :
    Table.find? "strides" kind.params = some (natList window) ∧
      Table.find? "pool_size" kind.params = some (natList window) := by
  rw [params, Table.find?_ofPairs, Table.find?_ofPairs]
  unfold unstridedWindow? at h
  split at h
  · cases h
    exact ⟨rfl, rfl⟩
  · cases h
    exact ⟨rfl, rfl⟩
  · cases h

end LayerKind

/-! ## Configurations -/

namespace Layer

variable {layer : Layer} {key : String} {value : Json}

/-- What stands in a configuration under another key than those of the identity was written as a
parameter. -/
theorem mem_entries_of_mem_config (hown : layer.kind.ownClass? = none) (hkey : key ∉ identityKeys)
    (hmem : (key, value) ∈ layer.config) : (key, value) ∈ layer.kind.entries := by
  rw [← Table.find?_eq_some_iff_mem layer.sorted_config.nodup_keys, find?_config_of_not_mem hkey,
    LayerKind.params, Table.find?_ofPairs,
    Table.find?_reverse (LayerKind.nodup_keys_entries hown)] at hmem
  exact (Table.find?_eq_some_iff_mem (LayerKind.nodup_keys_entries hown)).mp hmem

/-- The configuration of a layer without fault is as its keys want it. -/
theorem keepsKey_config (hown : layer.kind.ownClass? = none) (hfault : layer.kind.fault? = none)
    (hmem : (key, value) ∈ layer.config) : LayerKind.KeepsKey key value := by
  by_cases hkey : key ∈ identityKeys
  · have hother : ∀ key ∈ identityKeys, key ∉ LayerKind.sizeKeys ∧ key ≠ "padding" := by decide
    exact LayerKind.keepsKey_of_not_mem (hother key hkey).1 (hother key hkey).2
  · exact LayerKind.keepKeys_of_fault? hown hfault _ (mem_entries_of_mem_config hown hkey hmem)

/-- The same in the configuration: the identity has neither of the two keys. -/
theorem find?_config_of_unstridedWindow? {window : List Nat}
    (h : layer.kind.unstridedWindow? = some window) :
    Table.find? "strides" layer.config = some (LayerKind.natList window) ∧
      Table.find? "pool_size" layer.config = some (LayerKind.natList window) := by
  rw [find?_config_of_not_mem (by decide), find?_config_of_not_mem (by decide)]
  exact LayerKind.find?_params_of_unstridedWindow? h

end Layer
end LayerNet
