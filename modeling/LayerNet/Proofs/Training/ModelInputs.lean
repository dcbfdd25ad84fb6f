import LayerNet.Proofs.Layer.Record
import LayerNet.Proofs.Network.Document
import LayerNet.Proofs.Training.Renderings

/-!
# The inputs that the training script finds

The training script is not told what the inputs of a model are.  It takes the model definition out
of its payload, goes through the records of the layers, and takes those of the class `InputLayer`
for inputs; name, shape and element type it takes from the record.  What it finds is what the
assembly knows of its inputs, unless a layer of the user has that class name too.

Main definitions:

- `Reading.modelInputs?`: the inputs that the records of a document tell.
- `Reading.inputNames?`: the inputs that a document lists by name.
- `scriptInputs?`: the inputs that are found in a payload.

Main results:

- `LayerKind.className_eq_inputClass_iff`: which kinds have the class name of inputs.
- `Layer.inputOf?_reading_record`: what the record of a layer tells.
- `Network.modelInputs_of_assemble`: documents and payloads of an assembly tell its inputs.
-/

namespace LayerNet.Json.Reading

/-! ## Values of a document -/

/-- The text that a value is. -/
def text? : Reading → Option String
  | .text written => unescape? written
  | _ => none

/-- The items of an array. -/
def items? : Reading → Option (List Reading)
  | .arr items => some items
  | _ => none

/-- The size of a dimension: `null` for the batch, or a number. -/
def dimension? : Reading → Option Dimension
  | .word written =>
    if written.toList = nullChars then some .batch
    else if written.toList.all Char.isDigit then
      some (.fixed (Decimal.natOfDigits written.toList))
    else none
  | _ => none

/-- The class name of the records of inputs. -/
def inputClass : String :=
  "InputLayer"

/-- What a record tells of an input: nothing if it is the record of another layer. -/
def inputOf? (record : Reading) : Option (Option InputSignature) := do
  let className ← (record.field? "class_name").bind text?
  if className ≠ inputClass then
    return none
  let name ← (record.field? "name").bind text?
  let config ← record.field? "config"
  let sizes ← (config.field? "batch_input_shape").bind items?
  let dimensions ← sizes.mapM dimension?
  let elementType ← ((config.field? "dtype").bind text?).bind ElementType.ofName?
  return some ⟨name, ⟨dimensions⟩, elementType⟩

/-- The items of a list in the configuration of a model. -/
def configItems? (key : String) (document : Reading) : Option (List Reading) :=
  ((document.field? "config").bind (field? key)).bind items?

/-- The inputs that the records of a document tell, in order. -/
def modelInputs? (document : Reading) : Option (List InputSignature) :=
  (document.configItems? "layers").bind fun records =>
    (records.mapM inputOf?).map List.reduceOption

/-- The name in a reference to a layer. -/
def referenceName? (reference : Reading) : Option String :=
  (reference.items?.bind List.head?).bind text?

/-- The inputs that a document lists by name. -/
def inputNames? (document : Reading) : Option (List String) :=
  (document.configItems? "input_layers").bind fun references => references.mapM referenceName?

/-! ## Values that were written -/

theorem text?_reading (s : String) : text? (reading (.str s)) = some s :=
  unescape?_written s

/-- Readers that find for each element what was written for it find all of it. -/
theorem mapM_map_eq_some {α β γ : Type} {read : β → Option γ} {write : α → β} {value : α → γ}
    {xs : List α} (h : ∀ x ∈ xs, read (write x) = some (value x)) :
    (xs.map write).mapM read = some (xs.map value) := by
  induction xs with
  | nil => rfl
  | cons x xs ih =>
      have hrest := ih fun y hy => h y (List.mem_cons_of_mem x hy)
      rw [List.map_cons, List.mapM_cons, h x List.mem_cons_self, hrest]
      rfl

theorem itemReadings_eq (js : List Json) : itemReadings js = js.map reading := by
  induction js with
  | nil => rfl
  | cons j js ih => rw [itemReadings, ih, List.map_cons]

theorem items?_reading (js : List Json) : items? (reading (.arr js)) = some (js.map reading) := by
  rw [reading, itemReadings_eq]
  rfl

theorem natOfDigits_digits (n : Nat) : Decimal.natOfDigits (Decimal.digits n) = n :=
  Nat.ofDigitChars_ten_toDigits

theorem digits_ne_nullChars (n : Nat) : Decimal.digits n ≠ nullChars := by
  intro h
  have hfirst : 'n' ∈ Decimal.digits n := h ▸ List.mem_cons_self
  exact absurd (Decimal.isDigit_of_mem_digits hfirst) (by decide)

/-- Sizes are told apart from the batch. -/
theorem dimension?_reading (d : Dimension) : dimension? (reading d.toJson) = some d := by
  cases d with
  | batch => rfl
  | fixed n =>
      have hchars : intChars (n : Int) = Decimal.digits n := by
        rw [intChars, if_neg (by omega), Int.natAbs_natCast]
      have hall : (Decimal.digits n).all Char.isDigit = true :=
        List.all_eq_true.mpr fun c hc => Decimal.isDigit_of_mem_digits hc
      simp only [Dimension.toJson, ofNat, reading, dimension?, hchars, String.toList_ofList,
        if_neg (digits_ne_nullChars n), if_pos hall, natOfDigits_digits]

theorem dimensions_reading (shape : Shape) :
    ((items? (reading shape.toJson)).bind fun sizes => sizes.mapM dimension?) =
      some shape.dimensions := by
  have hsizes : (shape.dimensions.map (reading ∘ Dimension.toJson)).mapM dimension? =
      some (shape.dimensions.map id) := mapM_map_eq_some fun d _ => dimension?_reading d
  rw [Shape.toJson, items?_reading, Option.bind_some, List.map_map, hsizes, List.map_id]

/-- What is said of a key under which there is one value only. -/
theorem field?_reading_of_sorted {table : Table Json} (h : Table.Sorted table) (key : String) :
    (reading (.obj table)).field? key = (Table.find? key table).map reading := by
  rw [field?_reading_obj, Table.find?_reverse h.nodup_keys]

theorem configItems?_reading {key : String} {fields config : List (String × Json)}
    {js : List Json} (hconfig : Table.find? "config" fields.reverse = some (.obj config))
    (hitems : Table.find? key config.reverse = some (.arr js)) :
    configItems? key (reading (.obj fields)) = some (js.map reading) := by
  rw [configItems?, field?_reading_obj, hconfig, Option.map_some, Option.bind_some,
    field?_reading_obj, hitems, Option.map_some, Option.bind_some, items?_reading]

theorem configItems?_layers (d : ModelDefinition) :
    configItems? "layers" (reading d.toJson) =
      some ((d.layers.map LayerRecord.toJson).map reading) :=
  configItems?_reading rfl rfl

theorem configItems?_inputLayers (d : ModelDefinition) :
    configItems? "input_layers" (reading d.toJson) =
      some ((d.inputLayers.map ModelDefinition.layerReference).map reading) :=
  configItems?_reading rfl rfl

end LayerNet.Json.Reading

namespace LayerNet

open Json

/-! ## Records of layers -/

/-- The class name of inputs belongs to inputs, and to kinds of the user that have it. -/
theorem LayerKind.className_eq_inputClass_iff (kind : LayerKind) :
    kind.className = Reading.inputClass ↔
      kind.isInput = true ∨ kind.ownClass? = some Reading.inputClass := by
  cases kind with
  | input shape sparse ragged => simp [className, Reading.inputClass, isInput, shape?]
  | custom options => simp [className, isInput, shape?, ownClass?]
  | pooling1D op | pooling2D op | globalPooling1D op | merge op =>
      cases op <;> simp [className, Reading.inputClass, isInput, shape?, ownClass?,
        PoolOperation.pick, MergeOperation.className]
  | recurrent options =>
      cases hcell : options.cell <;>
        simp [className, Reading.inputClass, isInput, shape?, ownClass?, hcell,
          RecurrentCell.className]
  | _ => simp [className, Reading.inputClass, isInput, shape?, ownClass?]

/-- The record of a layer tells its signature, whatever feeds it. -/
theorem Layer.inputOf?_reading_record (layer : Layer) (feeding : List String)
    (hown : layer.kind.ownClass? ≠ some Reading.inputClass) :
    Reading.inputOf? (reading (layer.record feeding).toJson) = some layer.signature? := by
  have hclass : (reading (layer.record feeding).toJson).field? "class_name" =
      some (reading (.str layer.kind.className)) := field?_reading_obj _ _
  have hname : (reading (layer.record feeding).toJson).field? "name" =
      some (reading (.str layer.name)) := field?_reading_obj _ _
  have hconfig : (reading (layer.record feeding).toJson).field? "config" =
      some (reading (.obj layer.config)) := field?_reading_obj _ _
  have hkind := layer.kind.className_eq_inputClass_iff
  cases hshape : layer.kind.shape? with
  | none =>
      have hother : layer.kind.className ≠ Reading.inputClass := by
        intro heq
        rcases hkind.mp heq with hinput | hsame
        · simp [LayerKind.isInput, hshape] at hinput
        · exact hown hsame
      simp [Reading.inputOf?, hclass, Reading.text?_reading, hother, Layer.signature?, hshape]
  | some shape =>
      have hinput : layer.kind.className = Reading.inputClass :=
        hkind.mpr (Or.inl (by simp [LayerKind.isInput, hshape]))
      rcases Layer.config_of_shape hshape with ⟨hsizes, htype⟩
      have hdimensions := Reading.dimensions_reading shape
      rw [Option.bind_eq_some_iff] at hdimensions
      rcases hdimensions with ⟨sizes, hitems, hmap⟩
      simp [Reading.inputOf?, hclass, hname, hconfig, Reading.text?_reading, hinput,
        Reading.field?_reading_of_sorted layer.sorted_config, hsizes, htype, hitems, hmap,
        ElementType.ofName?_name, Layer.signature?, hshape]

namespace Network

variable {net : Network} {outputs : List LayerId} {a : Assembly}

/-- No layer of the user has the class name of inputs. -/
def KeepsInputClass (net : Network) : Prop :=
  ∀ layer ∈ net.layers.toList, layer.kind.ownClass? ≠ some Reading.inputClass

/-- The records of an assembly tell the signatures of its layers, one by one. -/
theorem inputOf?_records (hown : net.KeepsInputClass) {order : List LayerId} {layers : List Layer}
    {records : List LayerRecord} (hlayers : order.mapM net.layer = .ok layers)
    (hrecords : order.mapM net.record = .ok records) :
    records.map (fun record => Reading.inputOf? (reading record.toJson)) =
      layers.map fun layer => some layer.signature? := by
  let told (id : LayerId) : Option (Option InputSignature) :=
    some ((net.layer? id).bind Layer.signature?)
  have hlayer : ∀ id layer, net.layer id = .ok layer → told id = some layer.signature? := by
    intro id layer h
    simp only [told, layer_eq_ok_iff.mp h, Option.bind_some]
  have hrecord : ∀ id record, net.record id = .ok record →
      told id = Reading.inputOf? (reading record.toJson) := by
    intro id record h
    rcases record_eq_ok_iff.mp h with ⟨layer, feeding, hat, -, rfl⟩
    have hmem : layer ∈ net.layers.toList := Array.mem_toList_iff.mpr (Array.mem_of_getElem? hat)
    rw [Layer.inputOf?_reading_record layer _ (hown layer hmem)]
    exact hlayer id layer (layer_eq_ok_iff.mpr hat)
  rw [← map_eq_map_of_mapM_eq_ok hrecords hrecord, ← map_eq_map_of_mapM_eq_ok hlayers hlayer]

/-- The document of an assembly tells its inputs by its records. -/
theorem modelInputs?_reading (hown : net.KeepsInputClass) (ha : net.assemble outputs = .ok a) :
    Reading.modelInputs? (reading a.definition.toJson) = some a.inputs := by
  rcases assemble_eq_ok_iff.mp ha with ⟨order, layers, records, _, -, hlayers, hrecords, -, rfl⟩
  have hfound : ((records.map LayerRecord.toJson).map reading).mapM Reading.inputOf? =
      some (layers.map Layer.signature?) := by
    calc
      ((records.map LayerRecord.toJson).map reading).mapM Reading.inputOf? =
          (records.map fun record => Reading.inputOf? (reading record.toJson)).mapM id := by
        simp only [List.mapM_map, Function.comp_def, id_eq]
      _ = some (layers.map Layer.signature?) := by
        rw [inputOf?_records hown hlayers hrecords]
        exact Reading.mapM_map_eq_some fun _ _ => rfl
  have hkept : (layers.map Layer.signature?).reduceOption = layers.filterMap Layer.signature? := by
    change (layers.map Layer.signature?).filterMap id = _
    rw [List.filterMap_map]
    rfl
  rw [Reading.modelInputs?, Reading.configItems?_layers, Option.bind_some, hfound, Option.map_some,
    hkept]

/-- The document of an assembly lists its inputs by name. -/
theorem inputNames?_reading (d : ModelDefinition) :
    Reading.inputNames? (reading d.toJson) = some d.inputLayers := by
  have hname (name : String) :
      Reading.referenceName? (reading (ModelDefinition.layerReference name)) = some name := by
    rw [Reading.referenceName?, ModelDefinition.layerReference, Reading.items?_reading,
      Option.bind_some, List.map_cons, List.head?_cons, Option.bind_some, Reading.text?_reading]
  have hnames : (d.inputLayers.map (reading ∘ ModelDefinition.layerReference)).mapM
      Reading.referenceName? = some (d.inputLayers.map id) :=
    Reading.mapM_map_eq_some fun name _ => hname name
  rw [Reading.inputNames?, Reading.configItems?_inputLayers, Option.bind_some, List.map_map, hnames,
    List.map_id]

end Network

/-! ## What the script finds -/

/-- The inputs that the script finds in its payload: it takes the model definition out of it as a
text, and that text is a document again. -/
def scriptInputs? (payload : String) : Option (List InputSignature) :=
  (((Reading.ofText? payload).bind (Reading.field? "model_config")).bind Reading.text?).bind
    fun embedded => (Reading.ofText? embedded).bind Reading.modelInputs?

namespace Network

variable {net : Network} {outputs : List LayerId} {a : Assembly}

/-- Unless a layer of the user has the class name of inputs, the records of that class tell the
inputs of an assembly, in order, whether they are found in the document or in the payload of any
compilation.  Their names are the ones that the document lists. -/
theorem modelInputs_of_assemble (hown : net.KeepsInputClass) (ha : net.assemble outputs = .ok a)
    (config : CompileConfig) :
    (Reading.ofText? a.definition.toJson.compact).bind Reading.modelInputs? = some a.inputs ∧
      scriptInputs? (config.payload a.definition.toJson).compact = some a.inputs ∧
      (Reading.ofText? a.definition.toJson.compact).bind Reading.inputNames? =
        some (a.inputs.map InputSignature.name) ∧
      a.inputs.map InputSignature.name = a.definition.inputLayers := by
  have htold : Reading.modelInputs? (reading a.definition.toJson) = some a.inputs :=
    modelInputs?_reading hown ha
  have hnames : a.inputs.map InputSignature.name = a.definition.inputLayers :=
    (inputLayers_of_assemble ha).1
  refine ⟨?_, ?_, ?_, hnames⟩
  · rw [Reading.ofText?_compact, Option.bind_some, htold]
  · have hembedded : ((Reading.ofText? (config.payload a.definition.toJson).compact).bind
        (Reading.field? "model_config")).bind Reading.text? =
          some a.definition.toJson.sorted.compact := by
      rw [Compilation.payload_model_config, Option.bind_some]
      exact unescape?_written _
    rw [scriptInputs?, hembedded, Option.bind_some, Reading.ofText?_compact, Option.bind_some,
      reading_sorted, htold]
  · rw [Reading.ofText?_compact, Option.bind_some, inputNames?_reading, hnames]

/-- A history with two inputs, the first of which feeds a layer of the user that has parameters by
the names of those of inputs. -/
def mixedHistory : List Edit :=
  [.input
    { kind := .input ⟨[.batch, .fixed 28, .fixed 3]⟩ true false
      name := some "\"pixels\""
      elementType := some .uint8 },
   .add
    { kind := .custom
        { className := "Own", baseName := "own",
          params := [("dtype", .null), ("batch_input_shape", .arr [])] } } [0],
   .input { kind := .input (.batched [7]) false true, elementType := some .string }]

/-- The network that the history leads to. -/
def mixed : Network :=
  (Builder.run ⟨{}, {}⟩ mixedHistory).network

/-- The script finds both inputs and takes the layer of the user for none. -/
theorem modelInputs_mixed :
    ∃ a, mixed.assemble [2, 1] = .ok a ∧ mixed.KeepsInputClass ∧
      scriptInputs? (Compilation.outConfig.payload a.definition.toJson).compact = some a.inputs ∧
      "\"pixels\"" ∈ a.inputs.map InputSignature.name ∧
      "input_1" ∈ a.inputs.map InputSignature.name := by
  have hreachable : mixed.Reachable := ⟨{}, mixedHistory, rfl⟩
  have hfollow : mixed.FollowInputs [2, 0, 1] := by decide
  have hok : ∃ a, mixed.assemble [2, 1] = .ok a := by
    refine exists_assemble_eq_ok hreachable.wellFormed (by decide) fun output hmem => ⟨?_, ?_⟩
    · revert output
      decide
    · refine hfollow.not_reachesCycle (by decide) ?_
      revert output
      decide
  have hown : mixed.KeepsInputClass := by
    unfold KeepsInputClass
    decide
  rcases hok with ⟨a, ha⟩
  rcases assemble_order hreachable ha with ⟨-, hmem, -⟩
  rcases inputLayers_of_assemble ha with ⟨-, hinputs⟩
  rcases modelInputs_of_assemble hown ha Compilation.outConfig with ⟨-, hscript, -, hnames⟩
  have hnamed {id : LayerId} {name : String} (hup : ∃ output ∈ [2, 1], mixed.Upstream output id)
      (hinput : mixed.isInputLayer id = true) (hname : mixed.names[id]? = some name) :
      name ∈ a.inputs.map InputSignature.name := by
    have hlisted : some name ∈ a.definition.inputLayers.map some := by
      rw [hinputs]
      exact List.mem_map.mpr ⟨id, List.mem_filter.mpr ⟨(hmem id).mpr hup, hinput⟩, hname⟩
    rcases List.mem_map.mp hlisted with ⟨other, hother, heq⟩
    rw [hnames]
    exact Option.some.inj heq ▸ hother
  have h10 : mixed.FedBy 1 0 := by decide
  exact ⟨a, ha, hown, hscript, hnamed ⟨1, by decide, (Upstream.refl _ 1).tail h10⟩ rfl rfl,
    hnamed ⟨2, by decide, .refl _ 2⟩ rfl rfl⟩

end Network
end LayerNet
