import LayerNet.Proofs.Layer.Parameters

/-!
# Parts with a class of their own

Initializers, regularizers and constraints are parts of a layer that appear in its parameters as
class records. Parameters are written one after another, and each of them is either plain or holds a
part.  The key of a parameter tells which of the two it is: it ends in the role of the part exactly
if there is one.  Parts that are left out are `null`; an initializer is never left out.

Main definitions:

- `Part`: the parts, and `LayerKind.parts`: the parts of a kind with their keys.
- `NamesPart`: keys that end in the role of a part.
- `Part.Writes`: parameters that hold given parts.

Main results:

- `Part.toJson_cases`: what stands in the parameters for a part.
- `Part.Writes.namesPart_iff`, `Part.Writes.namesPart_of_isObject`: what keys and values say of the
  parts.
- `LayerKind.writes_entries`: the parameters of a kind hold its parts.
- `LayerKind.params_parts`: keys, values and parts of all kinds.
-/

namespace LayerNet

/-! ## Parts -/

/-- A part of a layer with a class of its own. -/
inductive Part where
  | initializer (i : Initializer)
  | regularizer (r : Option Regularizer)
  | constraint (c : Option Constraint)

namespace Part

/-- The role of a part, in which its key ends. -/
def role : Part → String
  | initializer _ => "initializer"
  | regularizer _ => "regularizer"
  | constraint _ => "constraint"

/-- What stands in the parameters for a part. -/
def toJson : Part → Json
  | initializer i => i.toJson
  | regularizer r => .ofOption Regularizer.toJson r
  | constraint c => .ofOption Constraint.toJson c

/-- The roles of parts. -/
def roles : List String :=
  ["initializer", "regularizer", "constraint"]

theorem role_mem_roles (part : Part) : part.role ∈ roles := by
  cases part <;> simp [role, roles]

end Part

/-- Whether a key ends in the role of a part. -/
def NamesPart (key : String) : Prop :=
  ∃ role ∈ Part.roles, role.toList <:+ key.toList

instance (key : String) : Decidable (NamesPart key) :=
  inferInstanceAs (Decidable (∃ role ∈ Part.roles, role.toList <:+ key.toList))

/-- Whether a document is an object with a class name and a configuration, and nothing else. -/
def Json.IsClassRecord (j : Json) : Prop :=
  ∃ className config, j = .obj [("class_name", .str className), ("config", .obj config)]

/-- What is written as a class record is one. -/
theorem isClassRecord_classRecord (className : String) (config : List (String × Json)) :
    (classRecord className config).IsClassRecord := by
  have hlt : ¬ "config" < "class_name" := by decide
  refine ⟨className, Table.ofPairs config, ?_⟩
  simp [classRecord, Json.object, Table.ofPairs, Table.insert, hlt]

namespace Part

theorem isClassRecord_initializer (i : Initializer) : (initializer i).toJson.IsClassRecord :=
  isClassRecord_classRecord i.className i.config

theorem isClassRecord_regularizer (r : Regularizer) :
    (regularizer (some r)).toJson.IsClassRecord := by
  cases r <;> exact isClassRecord_classRecord _ _

theorem isClassRecord_constraint (c : Constraint) : (constraint (some c)).toJson.IsClassRecord := by
  cases c <;> exact isClassRecord_classRecord _ _

/-- A part is a class record, unless it may be left out and is. -/
theorem toJson_cases (part : Part) :
    part.toJson.IsClassRecord ∨ part.toJson = .null ∧ part.role ≠ "initializer" := by
  cases part with
  | initializer i => exact Or.inl (isClassRecord_initializer i)
  | regularizer r =>
      cases r with
      | none => exact Or.inr ⟨rfl, by decide⟩
      | some r => exact Or.inl (isClassRecord_regularizer r)
  | constraint c =>
      cases c with
      | none => exact Or.inr ⟨rfl, by decide⟩
      | some c => exact Or.inl (isClassRecord_constraint c)

/-- A key ends in one role only. -/
theorem role_eq_of_suffix {role role' key : String} (hrole : role ∈ roles) (hrole' : role' ∈ roles)
    (h : role.toList <:+ key.toList) (h' : role'.toList <:+ key.toList) : role = role' := by
  have hroles : ∀ a ∈ roles, ∀ b ∈ roles, a.toList <:+ b.toList → a = b := by decide
  rcases List.suffix_or_suffix_of_suffix h h' with hsuffix | hsuffix
  · exact hroles role hrole role' hrole' hsuffix
  · exact (hroles role' hrole' role hrole hsuffix).symm

/-! ## Parameters that hold parts -/

/-- Parameters, written one after another, that hold parts: each is either plain, and then neither
its key nor its value is like that of a part, or it holds the next part under a key that ends in its
role. -/
inductive Writes : List (String × Part) → List (String × Json) → Prop
  | nil : Writes [] []
  | plain {key value parts entries} (hkey : ¬ NamesPart key) (hvalue : value.isObject = false)
      (rest : Writes parts entries) : Writes parts ((key, value) :: entries)
  | part {key part parts entries} (hkey : part.role.toList <:+ key.toList)
      (rest : Writes parts entries) : Writes ((key, part) :: parts) ((key, part.toJson) :: entries)

namespace Writes

variable {parts : List (String × Part)} {entries : List (String × Json)} {key : String}
    {value : Json}

theorem initializer {i : Initializer} (hkey : "initializer".toList <:+ key.toList)
    (rest : Writes parts entries) :
    Writes ((key, .initializer i) :: parts) (initializerField key i :: entries) :=
  .part hkey rest

theorem regularizer {r : Option Regularizer} (hkey : "regularizer".toList <:+ key.toList)
    (rest : Writes parts entries) :
    Writes ((key, .regularizer r) :: parts) (regularizerField key r :: entries) :=
  .part hkey rest

theorem constraint {c : Option Constraint} (hkey : "constraint".toList <:+ key.toList)
    (rest : Writes parts entries) :
    Writes ((key, .constraint c) :: parts) (constraintField key c :: entries) :=
  .part hkey rest

/-- Plain parameters in front leave the parts as they are. -/
theorem plains {front : List (String × Json)} (hkeys : ∀ key ∈ Table.keys front, ¬ NamesPart key)
    (hvalues : ∀ entry ∈ front, entry.2.isObject = false) (rest : Writes parts entries) :
    Writes parts (front ++ entries) := by
  induction front with
  | nil => exact rest
  | cons entry front ih =>
      rcases List.forall_mem_cons.mp hkeys with ⟨hkey, hkeys⟩
      rcases List.forall_mem_cons.mp hvalues with ⟨hvalue, hvalues⟩
      exact .plain hkey hvalue (ih hkeys hvalues)

/-- Every part stands in the parameters under its key, which ends in its role. -/
theorem mem_entries (h : Writes parts entries) {part : Part} (hmem : (key, part) ∈ parts) :
    (key, part.toJson) ∈ entries ∧ part.role.toList <:+ key.toList := by
  induction h with
  | nil => cases hmem
  | plain _ _ _ ih =>
      rcases ih hmem with ⟨hentry, hrole⟩
      exact ⟨List.mem_cons_of_mem _ hentry, hrole⟩
  | part hkey _ ih =>
      rcases List.mem_cons.mp hmem with heq | hmem
      · cases heq
        exact ⟨List.mem_cons_self, hkey⟩
      · rcases ih hmem with ⟨hentry, hrole⟩
        exact ⟨List.mem_cons_of_mem _ hentry, hrole⟩

/-- Every parameter is plain, or holds one of the parts. -/
theorem entry_cases (h : Writes parts entries) (hmem : (key, value) ∈ entries) :
    (¬ NamesPart key ∧ value.isObject = false) ∨
      ∃ part, (key, part) ∈ parts ∧ part.toJson = value := by
  induction h with
  | nil => cases hmem
  | plain hkey hvalue _ ih =>
      rcases List.mem_cons.mp hmem with heq | hmem
      · cases heq
        exact Or.inl ⟨hkey, hvalue⟩
      · exact ih hmem
  | @part _ part _ _ _ _ ih =>
      rcases List.mem_cons.mp hmem with heq | hmem
      · cases heq
        exact Or.inr ⟨part, List.mem_cons_self, rfl⟩
      · rcases ih hmem with hplain | ⟨part, hpart, hvalue⟩
        · exact Or.inl hplain
        · exact Or.inr ⟨part, List.mem_cons_of_mem _ hpart, hvalue⟩

/-- The key of a parameter ends in a role exactly if the parameter holds a part. -/
theorem namesPart_iff (h : Writes parts entries) (hmem : (key, value) ∈ entries) :
    NamesPart key ↔ ∃ part, (key, part) ∈ parts ∧ part.toJson = value := by
  constructor
  · intro hnames
    rcases h.entry_cases hmem with ⟨hnot, -⟩ | hpart
    · exact absurd hnames hnot
    · exact hpart
  · rintro ⟨part, hpart, -⟩
    exact ⟨part.role, part.role_mem_roles, (h.mem_entries hpart).2⟩

/-- Only a part is an object. -/
theorem namesPart_of_isObject (h : Writes parts entries) (hmem : (key, value) ∈ entries)
    (hvalue : value.isObject = true) : NamesPart key := by
  rcases h.entry_cases hmem with ⟨-, hplain⟩ | hpart
  · exact absurd hvalue (by rw [hplain]; decide)
  · exact (h.namesPart_iff hmem).mpr hpart

/-- Under the key of a part there is a class record, or `null` unless the key is that of an
initializer. -/
theorem isClassRecord_or_null (h : Writes parts entries) (hmem : (key, value) ∈ entries)
    (hnames : NamesPart key) :
    value.IsClassRecord ∨ value = .null ∧ ¬ "initializer".toList <:+ key.toList := by
  rcases (h.namesPart_iff hmem).mp hnames with ⟨part, hpart, rfl⟩
  refine part.toJson_cases.imp_right fun ⟨hnull, hrole⟩ => ⟨hnull, fun hkey => hrole ?_⟩
  exact role_eq_of_suffix part.role_mem_roles (by decide) (h.mem_entries hpart).2 hkey

end Writes
end Part

/-! ## The parts of a kind -/

/-- The parts of a kernel and a bias. -/
def WeightOptions.parts (w : WeightOptions) : List (String × Part) :=
  [("kernel_initializer", .initializer w.kernelInitializer),
   ("bias_initializer", .initializer w.biasInitializer),
   ("kernel_regularizer", .regularizer w.kernelRegularizer),
   ("bias_regularizer", .regularizer w.biasRegularizer),
   ("activity_regularizer", .regularizer w.activityRegularizer),
   ("kernel_constraint", .constraint w.kernelConstraint),
   ("bias_constraint", .constraint w.biasConstraint)]

/-- The parts of an embedding. -/
def EmbeddingOptions.parts (o : EmbeddingOptions) : List (String × Part) :=
  [("embeddings_initializer", .initializer o.initializer),
   ("embeddings_regularizer", .regularizer o.regularizer),
   ("activity_regularizer", .regularizer o.activityRegularizer),
   ("embeddings_constraint", .constraint o.constraint)]

/-- The parts of a recurrent layer. -/
def RecurrentOptions.parts (o : RecurrentOptions) : List (String × Part) :=
  [("kernel_initializer", .initializer o.kernelInitializer),
   ("recurrent_initializer", .initializer o.recurrentInitializer),
   ("bias_initializer", .initializer o.biasInitializer),
   ("kernel_regularizer", .regularizer o.kernelRegularizer),
   ("recurrent_regularizer", .regularizer o.recurrentRegularizer),
   ("bias_regularizer", .regularizer o.biasRegularizer),
   ("activity_regularizer", .regularizer o.activityRegularizer),
   ("kernel_constraint", .constraint o.kernelConstraint),
   ("recurrent_constraint", .constraint o.recurrentConstraint),
   ("bias_constraint", .constraint o.biasConstraint)]

/-- The parts of batch normalization. -/
def BatchNormalizationOptions.parts (o : BatchNormalizationOptions) : List (String × Part) :=
  [("beta_initializer", .initializer o.betaInitializer),
   ("gamma_initializer", .initializer o.gammaInitializer),
   ("moving_mean_initializer", .initializer o.movingMeanInitializer),
   ("moving_variance_initializer", .initializer o.movingVarianceInitializer),
   ("beta_regularizer", .regularizer o.betaRegularizer),
   ("gamma_regularizer", .regularizer o.gammaRegularizer),
   ("beta_constraint", .constraint o.betaConstraint),
   ("gamma_constraint", .constraint o.gammaConstraint)]

/-- The parts of layer normalization. -/
def LayerNormalizationOptions.parts (o : LayerNormalizationOptions) : List (String × Part) :=
  [("beta_initializer", .initializer o.betaInitializer),
   ("gamma_initializer", .initializer o.gammaInitializer),
   ("beta_regularizer", .regularizer o.betaRegularizer),
   ("gamma_regularizer", .regularizer o.gammaRegularizer),
   ("beta_constraint", .constraint o.betaConstraint),
   ("gamma_constraint", .constraint o.gammaConstraint)]

theorem isObject_ofFloat (x : Float) : (Json.ofFloat x).isObject = false := by
  unfold Json.ofFloat
  split <;> rfl

theorem isObject_ofOption_ofNat (n : Option Nat) : (Json.ofOption .ofNat n).isObject = false := by
  cases n <;> rfl

namespace LayerKind

/-- The parts of a kind with their keys. -/
def parts : LayerKind → List (String × Part)
  | dense _ _ weights => weights.parts
  | embedding o => o.parts
  | convolution1D o => o.weights.parts
  | convolution2D o => o.weights.parts
  | recurrent o => o.parts
  | batchNormalization o => o.parts
  | layerNormalization o => o.parts
  | _ => []

/-- The distribution of a kind that is given one in place of an initializer. -/
def distribution? : LayerKind → Option String
  | fourierFeatures _ distribution _ => some distribution
  | _ => none

/-- Kernel and bias have an initializer, a regularizer and a constraint each, and their output has a
regularizer. -/
theorem writes_weights (w : WeightOptions) : Part.Writes w.parts w.fields :=
  .plain (by decide) rfl <|
  .initializer (by decide) <| .initializer (by decide) <|
  .regularizer (by decide) <| .regularizer (by decide) <| .regularizer (by decide) <|
  .constraint (by decide) <| .constraint (by decide) .nil

theorem writes_embedding (o : EmbeddingOptions) : Part.Writes o.parts (embeddingEntries o) :=
  .plain (by decide) rfl <| .plain (by decide) rfl <|
  .initializer (by decide) <| .regularizer (by decide) <| .regularizer (by decide) <|
  .constraint (by decide) <|
  .plain (by decide) rfl <| .plain (by decide) (isObject_ofOption_ofNat _) .nil

/-- None of the plain keys of a convolution ends in a role, in one dimension or in two. -/
theorem not_namesPart_convolution :
    ∀ key ∈ ["filters", "kernel_size", "strides", "padding", "data_format", "dilation_rate",
      "groups", "activation"], ¬ NamesPart key := by
  decide

/-- The plain parameters of a convolution stand in front of those of its weights. -/
theorem writes_convolution1D (o : Convolution1DOptions) :
    Part.Writes o.weights.parts (convolution1DEntries o) :=
  .plains not_namesPart_convolution (by simp [channelsLast, natList, Json.ofNat, Json.isObject]) <|
  writes_weights o.weights

theorem writes_convolution2D (o : Convolution2DOptions) :
    Part.Writes o.weights.parts (convolution2DEntries o) :=
  .plains not_namesPart_convolution
    (by simp [channelsLast, natPair, natList, Json.ofNat, Json.isObject]) <|
  writes_weights o.weights

/-- A recurrent cell has plain parameters only, besides those that `writes_recurrent` adds. -/
theorem writes_cell (o : RecurrentOptions) : Part.Writes [] (cellEntries o) := by
  unfold cellEntries
  split
  · exact .plain (by decide) rfl <| .plain (by decide) rfl <| .plain (by decide) rfl .nil
  · exact .plain (by decide) rfl <| .plain (by decide) rfl <| .plain (by decide) rfl .nil
  · exact .nil

theorem writes_recurrent (o : RecurrentOptions) : Part.Writes o.parts (recurrentEntries o) :=
  .plain (by decide) rfl <| .plain (by decide) rfl <| .plain (by decide) rfl <|
  .initializer (by decide) <| .initializer (by decide) <| .initializer (by decide) <|
  .regularizer (by decide) <| .regularizer (by decide) <| .regularizer (by decide) <|
  .regularizer (by decide) <|
  .constraint (by decide) <| .constraint (by decide) <| .constraint (by decide) <|
  .plain (by decide) (isObject_ofFloat _) <| .plain (by decide) (isObject_ofFloat _) <|
  .plain (by decide) rfl <| .plain (by decide) rfl <| .plain (by decide) rfl <|
  .plain (by decide) rfl <| .plain (by decide) rfl <| .plain (by decide) rfl <| writes_cell o

theorem writes_batchNormalization (o : BatchNormalizationOptions) :
    Part.Writes o.parts (batchNormalizationEntries o) :=
  .plain (by decide) rfl <| .plain (by decide) (isObject_ofFloat _) <|
  .plain (by decide) (isObject_ofFloat _) <| .plain (by decide) rfl <| .plain (by decide) rfl <|
  .initializer (by decide) <| .initializer (by decide) <| .initializer (by decide) <|
  .initializer (by decide) <|
  .regularizer (by decide) <| .regularizer (by decide) <|
  .constraint (by decide) <| .constraint (by decide) .nil

theorem writes_layerNormalization (o : LayerNormalizationOptions) :
    Part.Writes o.parts (layerNormalizationEntries o) :=
  .plain (by decide) rfl <| .plain (by decide) (isObject_ofFloat _) <|
  .plain (by decide) rfl <| .plain (by decide) rfl <|
  .initializer (by decide) <| .initializer (by decide) <|
  .regularizer (by decide) <| .regularizer (by decide) <|
  .constraint (by decide) <| .constraint (by decide) .nil

/-- Pooling has no parts. -/
theorem writes_pooling (sizes strides : List Nat) (padding : String) :
    Part.Writes [] [("pool_size", natList sizes), ("strides", natList strides),
      ("padding", .str padding), channelsLast] :=
  .plain (by decide) rfl <| .plain (by decide) rfl <| .plain (by decide) rfl <|
  .plain (by decide) rfl .nil

/-- The parameters of a kind hold its parts, unless it is of the user's own or has a distribution in
place of an initializer. -/
theorem writes_entries {kind : LayerKind} (hown : kind.ownClass? = none)
    (hdistribution : kind.distribution? = none) : Part.Writes kind.parts kind.entries := by
  cases kind with
  | custom o => cases hown
  | fourierFeatures outputDim distribution scale => cases hdistribution
  | input shape sparse ragged =>
      exact .plain (by decide) rfl <| .plain (by decide) rfl <| .plain (by decide) rfl .nil
  | dense units function weights =>
      exact .plain (by decide) rfl <| .plain (by decide) rfl <| writes_weights weights
  | activation function => exact .plain (by decide) rfl .nil
  | dropout rate seed =>
      exact .plain (by decide) (isObject_ofFloat rate) <| .plain (by decide) rfl <|
        .plain (by decide) (isObject_ofOption_ofNat seed) .nil
  | flatten => exact .plain (by decide) rfl .nil
  | reshape target => exact .plain (by decide) rfl .nil
  | embedding o => exact writes_embedding o
  | convolution1D o => exact writes_convolution1D o
  | convolution2D o => exact writes_convolution2D o
  | pooling1D op poolSize strides padding => exact writes_pooling _ _ padding
  | pooling2D op poolSize strides padding => exact writes_pooling _ _ padding
  | globalPooling1D op keepdims => exact .plain (by decide) rfl <| .plain (by decide) rfl .nil
  | concatenate axis => exact .plain (by decide) rfl .nil
  | merge op => exact .nil
  | recurrent o => exact writes_recurrent o
  | batchNormalization o => exact writes_batchNormalization o
  | layerNormalization o => exact writes_layerNormalization o

/-- Whatever the values, no key is written twice, so that all parameters are kept.  The key of a
parameter ends in a role exactly if it is that of a part, and the value is then that of the part: a
class record, or `null` unless it is an initializer.  No other parameter is an object.  Every part
is among the parameters, under a key that ends in its role. -/
theorem params_parts {kind : LayerKind} (hown : kind.ownClass? = none)
    (hdistribution : kind.distribution? = none) :
    ((Table.keys kind.entries).Nodup ∧ kind.params.Perm kind.entries) ∧
      (∀ key value, (key, value) ∈ kind.params →
        (NamesPart key ↔ ∃ part, (key, part) ∈ kind.parts ∧ part.toJson = value) ∧
          (NamesPart key →
            value.IsClassRecord ∨ value = .null ∧ ¬ "initializer".toList <:+ key.toList) ∧
          (value.isObject = true → NamesPart key)) ∧
      ∀ key part, (key, part) ∈ kind.parts →
        (key, part.toJson) ∈ kind.params ∧ part.role.toList <:+ key.toList := by
  have hwrites : Part.Writes kind.parts kind.entries := writes_entries hown hdistribution
  refine ⟨⟨nodup_keys_entries hown, perm_params hown⟩, ?_, ?_⟩
  · intro key value hmem
    rw [mem_params_iff hown] at hmem
    exact ⟨hwrites.namesPart_iff hmem, hwrites.isClassRecord_or_null hmem,
      hwrites.namesPart_of_isObject hmem⟩
  · intro key part hpart
    rw [mem_params_iff hown]
    exact hwrites.mem_entries hpart

/-- A recurrent layer with a penalty on its activity and a bias that is kept from being negative. -/
def restrained : LayerKind :=
  .recurrent
    { cell := .lstm, units := 3, activityRegularizer := some (.l2 0.5),
      biasConstraint := some .nonNegative }

/-- A part that is given is a class record, one that is left out is `null`, and the units are
plain. -/
theorem params_parts_restrained :
    (Table.keys restrained.entries).Nodup ∧
      ("bias_constraint", classRecord "NonNeg" []) ∈ restrained.params ∧
      ("kernel_regularizer", .null) ∈ restrained.params ∧
      (("units", .ofNat 3) ∈ restrained.params ∧ ¬ ∃ part, ("units", part) ∈ restrained.parts ∧
        part.toJson = .ofNat 3) := by
  rcases @params_parts restrained rfl rfl with ⟨⟨hnodup, hperm⟩, hkeys, hparts⟩
  have hunits : ("units", .ofNat 3) ∈ restrained.params := hperm.mem_iff.mpr List.mem_cons_self
  refine ⟨hnodup, (hparts "bias_constraint" (.constraint (some .nonNegative)) ?_).1,
    (hparts "kernel_regularizer" (.regularizer none) ?_).1, hunits, fun hpart => ?_⟩
  · exact List.mem_of_getElem? (i := 9) rfl
  · exact List.mem_of_getElem? (i := 3) rfl
  · exact absurd ((hkeys "units" _ hunits).1.mpr hpart) (by decide)

end LayerKind
end LayerNet
