import LayerNet.Proofs.Network.Assembly

/-!
# Assemblies and what they depend on

An assembly reads only what lies behind its outputs.  If the layers behind the outputs of one
network have copies in another one, which are the same but for their ids, then the walks behind the
outputs and behind their copies go in step: the same moves are made, on ids and their copies, and
they fail in the same step if they fail.  So the assemblies are the same too, but for the ids in the
order. Hence it does not matter how layers are numbered, nor what else there is in a network.

Main definitions:

- `Network.Copies`: a map from the layers behind the outputs to copies in another network.
- `Network.Mirrors`: walks that are the same but for the ids.

Main results:

- `Copies.step`, `Copies.walk`: one step, and whole walks, on both sides.
- `Copies.assemble_eq`: the assembly behind the copies.
- `Builder.layer?_run`: what edits leave as it is.
- `assemble_copies`: what an assembly does not depend on.
-/

namespace LayerNet

/-! ## Other ids -/

/-- A layer with other ids for its inputs. -/
def Layer.relabel (f : LayerId → LayerId) (layer : Layer) : Layer :=
  { layer with inputs := layer.inputs.map f }

/-- A visit of a layer under another id. -/
def Visit.relabel (f : LayerId → LayerId) (visit : Visit) : Visit :=
  { visit with id := f visit.id }

/-- An assembly of layers under other ids. -/
def Assembly.relabel (f : LayerId → LayerId) (a : Assembly) : Assembly :=
  { a with order := a.order.map f }

theorem Layer.relabel_id (layer : Layer) : layer.relabel id = layer := by
  rw [Layer.relabel, List.map_id]

theorem Assembly.relabel_id (a : Assembly) : a.relabel id = a := by
  rw [Assembly.relabel, List.map_id]

theorem Layer.map_name_relabel (f : LayerId → LayerId) (layers : List Layer) :
    (layers.map (Layer.relabel f)).map Layer.name = layers.map Layer.name := by
  rw [List.map_map]
  rfl

/-- Signatures say nothing of ids. -/
theorem Layer.signatures_relabel (f : LayerId → LayerId) (layers : List Layer) :
    (layers.map (Layer.relabel f)).filterMap Layer.signature? =
      layers.filterMap Layer.signature? := by
  rw [List.filterMap_map]
  rfl

theorem Layer.definitions_relabel (f : LayerId → LayerId) (layers : List Layer) :
    ((layers.map (Layer.relabel f)).filterMap fun layer => layer.kind.definition?) =
      layers.filterMap fun layer => layer.kind.definition? := by
  rw [List.filterMap_map]
  rfl

namespace Network

open Relation

variable {net net' : Network} {outputs : List LayerId} {f : LayerId → LayerId}

/-! ## Copies -/

/-- Whether a layer is met on some way along inputs that starts at an output. -/
def Behind (net : Network) (outputs : List LayerId) (id : LayerId) : Prop :=
  ∃ output ∈ outputs, net.Upstream output id

theorem behind_of_mem {output : LayerId} (h : output ∈ outputs) : net.Behind outputs output :=
  ⟨output, h, Upstream.refl net output⟩

theorem Behind.input {id input : LayerId} (h : net.Behind outputs id)
    (hinput : input ∈ net.inputs id) : net.Behind outputs input := by
  rcases h with ⟨output, hmem, hup⟩
  exact ⟨output, hmem, hup.tail hinput⟩

/-- Whether the layers behind the outputs are taken to different layers of another network, each of
which is the same but for its inputs, and has the images of the inputs for inputs. -/
structure Copies (net net' : Network) (outputs : List LayerId) (f : LayerId → LayerId) : Prop where
  injOn : ∀ id other, net.Behind outputs id → net.Behind outputs other → f id = f other → id = other
  layer?_eq : ∀ id layer, net.Behind outputs id → net.layer? id = some layer →
    net'.layer? (f id) = some (layer.relabel f)

/-- Outputs that are layers have only layers behind them. -/
theorem Behind.lt_size (hnet : net.WellFormed) (hlt : ∀ output ∈ outputs, output < net.size)
    {id : LayerId} (h : net.Behind outputs id) : id < net.size := by
  rcases h with ⟨output, hmem, hup⟩
  rcases ReflTransGen.cases_tail hup with heq | ⟨source, -, hfed⟩
  · rw [heq]
    exact hlt output hmem
  · exact hnet.input_lt_size hfed

/-- A layer and its copy are looked up together. -/
theorem Copies.exists_layer (h : net.Copies net' outputs f) (hnet : net.WellFormed)
    (hlt : ∀ output ∈ outputs, output < net.size) {id : LayerId} (hid : net.Behind outputs id) :
    ∃ layer, net.layer id = .ok layer ∧ net'.layer (f id) = .ok (layer.relabel f) ∧
      ∀ input ∈ layer.inputs, net.Behind outputs input := by
  rcases exists_layer?_of_lt_size (hid.lt_size hnet hlt) with ⟨layer, hlayer⟩
  refine ⟨layer, layer_eq_ok_iff.mpr hlayer, layer_eq_ok_iff.mpr (h.layer?_eq id layer hid hlayer),
    fun input hinput => hid.input ?_⟩
  rw [inputs_of_layer? hlayer]
  exact hinput

/-! ## Walks in step -/

/-- Whether a walk behind the copies of the outputs is where a walk behind the outputs is. -/
structure Mirrors (net : Network) (outputs : List LayerId) (f : LayerId → LayerId)
    (w w' : Walk) : Prop where
  stack_eq : w'.stack = w.stack.map (Visit.relabel f)
  marks_eq : ∀ id, net.Behind outputs id → w'.marks[f id]? = w.marks[id]?
  order_eq : w'.order = w.order.map f
  stack_behind : ∀ visit ∈ w.stack, net.Behind outputs visit.id

variable {w w' : Walk}

theorem mirrors_empty (net : Network) (outputs : List LayerId) (f : LayerId → LayerId) :
    net.Mirrors outputs f {} {} where
  stack_eq := rfl
  marks_eq := by simp
  order_eq := rfl
  stack_behind := by simp

/-- The marks still agree when a layer and its copy get the same mark, since no other layer behind
the outputs has the same copy. -/
theorem Mirrors.insert_mark (h : net.Mirrors outputs f w w') (hcopies : net.Copies net' outputs f)
    {id : LayerId} (hid : net.Behind outputs id) (mark : Mark) {other : LayerId}
    (hother : net.Behind outputs other) :
    (w'.marks.insert (f id) mark)[f other]? = (w.marks.insert id mark)[other]? := by
  rw [getElem?_insert_mark, getElem?_insert_mark, h.marks_eq other hother]
  by_cases heq : id = other
  · simp [heq]
  · rw [if_neg heq, if_neg fun hf => heq (hcopies.injOn id other hid hother hf)]

theorem Mirrors.enter (h : net.Mirrors outputs f w w') (hcopies : net.Copies net' outputs f)
    {id : LayerId} (hid : net.Behind outputs id) :
    net.Mirrors outputs f (w.enter id) (w'.enter (f id)) where
  stack_eq := by
    rw [Walk.enter, Walk.enter, h.stack_eq]
    rfl
  marks_eq := fun _ hother => h.insert_mark hcopies hid .visiting hother
  order_eq := h.order_eq
  stack_behind := by
    intro visit hvisit
    rcases List.mem_cons.mp hvisit with rfl | hvisit
    · exact hid
    · exact h.stack_behind visit hvisit

theorem Mirrors.advance (h : net.Mirrors outputs f w w') {top : Visit} {rest : List Visit}
    (hstack : w.stack = top :: rest) :
    net.Mirrors outputs f (w.advance top rest)
      (w'.advance (top.relabel f) (rest.map (Visit.relabel f))) where
  stack_eq := rfl
  marks_eq := h.marks_eq
  order_eq := h.order_eq
  stack_behind := by
    intro visit hvisit
    rcases List.mem_cons.mp hvisit with rfl | hvisit
    · exact h.stack_behind top (hstack ▸ List.mem_cons_self)
    · exact h.stack_behind visit (hstack ▸ List.mem_cons_of_mem top hvisit)

theorem Mirrors.finish (h : net.Mirrors outputs f w w') (hcopies : net.Copies net' outputs f)
    {top : Visit} {rest : List Visit} (hstack : w.stack = top :: rest) :
    net.Mirrors outputs f (w.finish top rest)
      (w'.finish (top.relabel f) (rest.map (Visit.relabel f))) where
  stack_eq := rfl
  marks_eq := fun _ hother =>
    h.insert_mark hcopies (h.stack_behind top (hstack ▸ List.mem_cons_self)) .done hother
  order_eq := by
    rw [Walk.finish, Walk.finish, h.order_eq, List.map_append]
    rfl
  stack_behind := fun visit hvisit =>
    h.stack_behind visit (hstack ▸ List.mem_cons_of_mem top hvisit)

/-- Both walks look at an input in the same way. -/
theorem Copies.look (hcopies : net.Copies net' outputs f) (hnet : net.WellFormed)
    (hlt : ∀ output ∈ outputs, output < net.size) (h : net.Mirrors outputs f w w')
    {input : LayerId} (hinput : net.Behind outputs input) :
    Agree (net.Mirrors outputs f) (net.look w input) (net'.look w' (f input)) := by
  rcases hcopies.exists_layer hnet hlt hinput with ⟨layer, hlayer, hcopy, -⟩
  unfold Network.look
  rw [h.marks_eq input hinput, hlayer, hcopy]
  cases w.marks[input]? with
  | none => exact .ok (h.enter hcopies hinput)
  | some mark =>
      cases mark with
      | visiting => exact .error (NetworkError.cycle layer.name)
      | done => exact .ok h

/-- Both walks make the same step. -/
theorem Copies.step (hcopies : net.Copies net' outputs f) (hnet : net.WellFormed)
    (hlt : ∀ output ∈ outputs, output < net.size) (h : net.Mirrors outputs f w w') :
    Agree (Option.Rel (net.Mirrors outputs f)) (net.step w) (net'.step w') := by
  unfold Network.step
  rw [h.stack_eq]
  cases hstack : w.stack with
  | nil => exact .ok .none
  | cons top rest =>
      have htop : net.Behind outputs top.id := h.stack_behind top (hstack ▸ List.mem_cons_self)
      rcases hcopies.exists_layer hnet hlt htop with ⟨layer, hlayer, hcopy, hinputs⟩
      simp only [List.map_cons, Visit.relabel, hlayer, hcopy, Layer.relabel, List.getElem?_map]
      cases hnext : layer.inputs[top.next]? with
      | none => exact .ok (.some (h.finish hcopies hstack))
      | some input =>
          have hinput : net.Behind outputs input := hinputs input (List.mem_of_getElem? hnext)
          exact (hcopies.look hnet hlt (h.advance hstack) hinput).map fun _ _ => .some

theorem walk_eq (net : Network) (w : Walk) :
    net.walk w = net.step w >>= fun next? => next?.elim (.ok w) net.walk := by
  rw [Network.walk]
  split <;> rename_i hstep <;> rw [hstep] <;> rfl

/-- Both walks get to the same end. -/
theorem Copies.walk (hcopies : net.Copies net' outputs f) (hnet : net.WellFormed)
    (hlt : ∀ output ∈ outputs, output < net.size) (h : net.Mirrors outputs f w w') :
    Agree (net.Mirrors outputs f) (net.walk w) (net'.walk w') := by
  -- on the walk behind the outputs; of the other walk one step is laid bare at a time
  have hstep := hcopies.step hnet hlt h
  rw [walk_eq net' w']
  generalize net'.step w' = step' at hstep
  fun_induction net.walk w generalizing w' step' with
  | case1 w e heq =>
      rw [heq] at hstep
      cases hstep
      exact .error e
  | case2 w heq =>
      rw [heq] at hstep
      cases hstep with
      | ok hrelated =>
          cases hrelated
          exact .ok h
  | case3 w next heq ih =>
      rw [heq] at hstep
      cases hstep with
      | ok hrelated =>
          cases hrelated with
          | @some _ next' hnext =>
              change Agree _ (net.walk next) (net'.walk next')
              rw [walk_eq net' next']
              exact ih hnext _ (hcopies.step hnet hlt hnext)

/-- Both walks behind a further output get to the same end. -/
theorem Copies.visit (hcopies : net.Copies net' outputs f) (hnet : net.WellFormed)
    (hlt : ∀ output ∈ outputs, output < net.size) {output : LayerId}
    (houtput : net.Behind outputs output) (h : net.Mirrors outputs f w w') :
    Agree (net.Mirrors outputs f) (net.visit w output) (net'.visit w' (f output)) := by
  rcases hcopies.exists_layer hnet hlt houtput with ⟨layer, hlayer, hcopy, -⟩
  have hmet : w'.marks.contains (f output) = w.marks.contains output := by
    rw [← Std.HashMap.isSome_getElem?_eq_contains, h.marks_eq output houtput,
      Std.HashMap.isSome_getElem?_eq_contains]
  unfold Network.visit
  rw [hlayer, hcopy, hmet]
  by_cases hcontains : w.marks.contains output = true
  · simp only [hcontains, if_true]
    exact .ok h
  · simp only [hcontains]
    exact hcopies.walk hnet hlt (h.enter hcopies houtput)

/-! ## Assemblies -/

/-- The order behind the copies is that of the copies. -/
theorem Copies.assemblyOrder_eq (hcopies : net.Copies net' outputs f) (hnet : net.WellFormed)
    (hlt : ∀ output ∈ outputs, output < net.size) :
    net'.assemblyOrder (outputs.map f) = (net.assemblyOrder outputs).map (List.map f) := by
  have hfold : Agree (net.Mirrors outputs f) (outputs.foldlM net.visit {})
      ((outputs.map f).foldlM net'.visit {}) := by
    refine Agree.foldlM (fun output hmem _ _ h => ?_) (mirrors_empty net outputs f)
    exact hcopies.visit hnet hlt (behind_of_mem hmem) h
  unfold assemblyOrder
  rw [List.isEmpty_map]
  split
  · rfl
  · generalize outputs.foldlM net.visit {} = res, (outputs.map f).foldlM net'.visit {} = res'
      at hfold ⊢
    cases hfold with
    | ok h => exact congrArg Except.ok h.order_eq
    | error e => rfl

/-- An order has only layers that are behind the outputs. -/
theorem behind_of_mem_order (hnet : net.WellFormed) {order : List LayerId}
    (h : net.assemblyOrder outputs = .ok order) {id : LayerId} (hid : id ∈ order) :
    net.Behind outputs id := by
  have hout := outcome_assemblyOrder hnet outputs
  rw [h] at hout
  cases hout with
  | ordered _ hsettled => exact hsettled.mem_order_iff.mp hid

/-- The copies of layers are looked up together. -/
theorem Copies.mapM_layer (hcopies : net.Copies net' outputs f) {ids : List LayerId}
    (hids : ∀ id ∈ ids, net.Behind outputs id) {layers : List Layer}
    (h : ids.mapM net.layer = .ok layers) :
    (ids.map f).mapM net'.layer = .ok (layers.map (Layer.relabel f)) := by
  refine mapM_map_eq_ok h fun id hid layer hlayer => ?_
  exact layer_eq_ok_iff.mpr (hcopies.layer?_eq id layer (hids id hid) (layer_eq_ok_iff.mp hlayer))

/-- The record of a copy is the record of the layer, since it has names of inputs only. -/
theorem Copies.record (hcopies : net.Copies net' outputs f) {id : LayerId}
    (hid : net.Behind outputs id) {record : LayerRecord} (h : net.record id = .ok record) :
    net'.record (f id) = .ok record := by
  rcases record_eq_ok_iff.mp h with ⟨layer, feeding, hlayer, hfeeding, rfl⟩
  have hinputs : ∀ input ∈ layer.inputs, net.Behind outputs input := fun input hinput =>
    hid.input (by rwa [inputs_of_layer? hlayer])
  refine record_eq_ok_iff.mpr ⟨_, _, hcopies.layer?_eq id layer hid hlayer,
    hcopies.mapM_layer hinputs hfeeding, ?_⟩
  rw [Layer.map_name_relabel]
  rfl

/-- The assembly behind the copies of the outputs is the assembly behind the outputs, but for the
ids in its order. -/
theorem Copies.assemble_eq (hcopies : net.Copies net' outputs f) (hnet : net.WellFormed)
    (hlt : ∀ output ∈ outputs, output < net.size) :
    net'.assemble (outputs.map f) = (net.assemble outputs).map (Assembly.relabel f) := by
  have hcopied := hcopies.assemblyOrder_eq hnet hlt
  cases horder : net.assemblyOrder outputs with
  | error e =>
      rw [horder] at hcopied
      unfold assemble
      rw [horder, hcopied]
      rfl
  | ok order =>
      -- what is left are look-ups of layers behind the outputs and of their copies
      rw [horder] at hcopied
      have hbehind : ∀ id ∈ order, net.Behind outputs id := fun _ => behind_of_mem_order hnet horder
      have hsize : ∀ id ∈ order, id < net.size := fun id hid => (hbehind id hid).lt_size hnet hlt
      rcases exists_mapM_layer_eq_ok hsize with ⟨layers, hlayers⟩
      rcases exists_mapM_eq_ok fun id hid => hnet.exists_record_eq_ok (hsize id hid) with
        ⟨records, hrecords⟩
      rcases exists_mapM_layer_eq_ok hlt with ⟨outputLayers, houtputs⟩
      rw [assemble_eq_ok_iff.mpr
          ⟨order, layers, records, outputLayers, horder, hlayers, hrecords, houtputs, rfl⟩,
        assemble_eq_ok_iff.mpr
          ⟨_, _, _, _, hcopied, hcopies.mapM_layer hbehind hlayers,
            mapM_map_eq_ok hrecords fun _ hid _ => hcopies.record (hbehind _ hid),
            hcopies.mapM_layer (fun _ => behind_of_mem) houtputs, rfl⟩,
        Layer.signatures_relabel, Layer.definitions_relabel, Layer.map_name_relabel, List.map_id']
      rfl

/-! ## What edits leave as it is -/

theorem layer?_push_of_some {id : LayerId} {layer : Layer} (h : net.layer? id = some layer)
    (new : Layer) : (net.push new).layer? id = some layer := by
  rw [layer?_push, if_neg (Nat.ne_of_lt (lt_size_of_layer? h)), h]

/-- Only the layer whose inputs are replaced is changed. -/
theorem layer?_of_rewire_eq_ok {id other : LayerId} {inputs : List LayerId}
    (h : net.rewire other inputs = .ok net') (hne : other ≠ id) :
    net'.layer? id = net.layer? id := by
  unfold rewire at h
  split at h
  · cases h
  · split at h
    · cases h
    · cases h
      rw [layer?_setInputs, if_neg hne]

end Network

namespace Builder

variable {b : Builder} {id : LayerId} {layer : Layer}

theorem layer?_add (spec : LayerSpec) (inputs : List LayerId)
    (h : b.network.layer? id = some layer) :
    (b.add spec inputs).2.network.layer? id = some layer := by
  rcases add_cases b spec inputs with ⟨e, hadd⟩ | ⟨new, -, -, hadd⟩
  · rw [hadd]
    exact h
  · rw [hadd]
    exact Network.layer?_push_of_some h new

theorem layer?_rewire (h : b.network.layer? id = some layer) {other : LayerId}
    (inputs : List LayerId) (hne : other ≠ id) :
    (b.rewire other inputs).2.network.layer? id = some layer := by
  unfold rewire
  split
  · exact h
  · rename_i network hrewire
    exact (Network.layer?_of_rewire_eq_ok hrewire hne).trans h

/-- An edit leaves every layer as it is whose inputs it does not replace. -/
theorem layer?_apply (h : b.network.layer? id = some layer) {edit : Edit}
    (hedit : ∀ inputs, edit ≠ .rewire id inputs) :
    (b.apply edit).network.layer? id = some layer := by
  cases edit with
  | add spec inputs => exact layer?_add spec inputs h
  | input spec => exact layer?_add spec [] h
  | chain input specs =>
      exact chain_induction (P := fun net => net.layer? id = some layer)
        (fun _ spec inputs hb => layer?_add spec inputs hb) h input specs
  | rewire other inputs => exact layer?_rewire h inputs fun heq => hedit inputs (heq ▸ rfl)
  | share registry => exact h

/-- So does a history of such edits. -/
theorem layer?_run (h : b.network.layer? id = some layer) {edits : List Edit}
    (hedits : ∀ inputs, .rewire id inputs ∉ edits) :
    (b.run edits).network.layer? id = some layer := by
  induction edits generalizing b with
  | nil => exact h
  | cons edit edits ih =>
      refine ih (layer?_apply h fun inputs heq => ?_) fun inputs hmem => ?_
      · exact hedits inputs (heq ▸ List.mem_cons_self)
      · exact hedits inputs (List.mem_cons_of_mem edit hmem)

end Builder

namespace Network

open Relation

variable {net : Network} {outputs : List LayerId}

/-! ## What assemblies depend on -/

/-- After edits that replace no inputs behind the outputs, each layer behind them is a copy of
itself. -/
theorem copies_run (registry : NameRegistry) {edits : List Edit}
    (hedits : ∀ id inputs, .rewire id inputs ∈ edits → ¬ net.Behind outputs id) :
    net.Copies (Builder.run ⟨net, registry⟩ edits).network outputs id where
  injOn := fun _ _ _ _ h => h
  layer?_eq := by
    intro id layer hid hlayer
    rw [Layer.relabel_id]
    exact Builder.layer?_run hlayer fun inputs hmem => hedits id inputs hmem hid

/-- An assembly depends on what lies behind its outputs, and on nothing else.  If all that lies
behind the outputs has copies in another network, under whatever ids, then the assembly behind the
copies is the same but for the ids in the order; if the one fails, then so does the other, with the
same error, which names a layer of a cycle.  In particular, no layers that are added, and no inputs
that are replaced elsewhere, change an assembly. -/
theorem assemble_copies (h : net.Reachable) (hne : outputs ≠ [])
    (hlt : ∀ output ∈ outputs, output < net.size) :
    (∀ (net' : Network) (f : LayerId → LayerId), net.Copies net' outputs f →
        net'.assemble (outputs.map f) = (net.assemble outputs).map (Assembly.relabel f)) ∧
      (∀ e, net.assemble outputs = .error e → ∃ name, e = .cycle name) ∧
      ∀ (registry : NameRegistry) (edits : List Edit),
        (∀ id inputs, .rewire id inputs ∈ edits → ¬ net.Behind outputs id) →
        (Builder.run ⟨net, registry⟩ edits).network.assemble outputs = net.assemble outputs := by
  have hnet := h.wellFormed
  refine ⟨fun net' f hcopies => hcopies.assemble_eq hnet hlt, fun e herror => ?_,
    fun registry edits hedits => ?_⟩
  · cases outcome_of_assemble_error hnet herror with
    | noOutputs heq => exact absurd heq hne
    | @unknownNode before after id heq hle =>
        have hmem : id ∈ outputs := heq ▸ List.mem_append_right before List.mem_cons_self
        exact absurd (hlt id hmem) (Nat.not_lt.mpr hle)
    | cycle => exact ⟨_, rfl⟩
  · have hsame := (copies_run registry hedits).assemble_eq hnet hlt
    rw [List.map_id] at hsame
    rw [hsame]
    cases net.assemble outputs with
    | error e => rfl
    | ok a => exact congrArg Except.ok a.relabel_id

/-- A history that leads to copies of all the layers of the tangled network, in another order and
between other layers. -/
def shuffledHistory : List Edit :=
  [.input { kind := .input (.batched [9]) false false, name := some "other" },
   .input { kind := .input (.batched [4]) false false, name := some "x" },
   .add { kind := .flatten, name := some "d" } [1],
   .add { kind := .flatten, name := some "a" } [2],
   .add { kind := .flatten, name := some "b" } [3],
   .add { kind := .merge .add, name := some "c" } [3, 4, 3],
   .add { kind := .flatten, name := some "f" } [0],
   .add { kind := .flatten, name := some "e" } [6],
   .add { kind := .flatten, name := some "g" } [6],
   .rewire 6 [7], .rewire 7 [6]]

/-- The network that the history leads to. -/
def shuffled : Network :=
  (Builder.run ⟨{}, {}⟩ shuffledHistory).network

/-- Where the copies of the layers stand. -/
def shuffledId (id : LayerId) : LayerId :=
  [1, 3, 4, 5, 2, 7, 6, 8].getD id 0

theorem copies_shuffled {outputs : List LayerId} (hlt : ∀ output ∈ outputs, output < tangled.size) :
    tangled.Copies shuffled outputs shuffledId := by
  have hbound {id : LayerId} (hid : tangled.Behind outputs id) : id < 8 :=
    hid.lt_size reachable_tangled.wellFormed hlt
  have hinj : ∀ id < 8, ∀ other < 8, shuffledId id = shuffledId other → id = other := by decide
  have hcopy : (List.range 8).map (fun id => shuffled.layer? (shuffledId id)) =
      (List.range 8).map fun id => (tangled.layer? id).map (Layer.relabel shuffledId) := rfl
  refine ⟨fun id other hid hother => hinj id (hbound hid) other (hbound hother), ?_⟩
  intro id layer hid hlayer
  rw [List.map_inj_left.mp hcopy id (List.mem_range.mpr (hbound hid)), hlayer, Option.map_some]

theorem not_assemble_tangled_eq_ok {a : Assembly} : tangled.assemble [3, 7] ≠ .ok a := by
  intro ha
  have h56 : tangled.FedBy 5 6 := by decide
  have h65 : tangled.FedBy 6 5 := by decide
  have h76 : tangled.FedBy 7 6 := by decide
  have hreaches : tangled.ReachesCycle 7 :=
    ⟨6, (Upstream.refl _ 7).tail h76, (TransGen.single h65).tail h56⟩
  rcases settled_of_assemble reachable_tangled.wellFormed ha with ⟨w, hsettled, -⟩
  exact (hsettled.output_spec (by decide)).2 hreaches

/-- Layers behind outputs that can be assembled, and layers behind a cycle, are assembled as their
copies are; a further layer and other inputs for the last one change nothing for the others. -/
theorem assemble_copies_tangled :
    (∃ a, tangled.assemble [3, 2, 3] = .ok a ∧
        shuffled.assemble [5, 4, 5] = .ok (a.relabel shuffledId) ∧
        (Builder.run ⟨tangled, {}⟩ [.add { kind := .flatten } [2], .rewire 7 [8]]).network.assemble
          [3, 2, 3] = .ok a) ∧
      ∃ name, tangled.assemble [3, 7] = .error (.cycle name) ∧
        shuffled.assemble [5, 8] = .error (.cycle name) := by
  have hlt : ∀ output ∈ [3, 2, 3], output < tangled.size := by decide
  have hlt' : ∀ output ∈ [3, 7], output < tangled.size := by decide
  constructor
  · rcases assemble_copies reachable_tangled (by decide) hlt with ⟨hcopied, -, hedited⟩
    rcases exists_assemble_tangled with ⟨a, ha⟩
    refine ⟨a, ha, ?_, ?_⟩
    · exact (hcopied shuffled shuffledId (copies_shuffled hlt)).trans (by rw [ha]; rfl)
    · refine (hedited {} _ fun id inputs hmem => ?_).trans ha
      obtain ⟨rfl, -⟩ : id = 7 ∧ inputs = [8] := by simpa using hmem
      rintro ⟨output, houtput, hup⟩
      have hid : output ∈ [0, 4, 1, 2, 3] := by
        clear hup
        revert output
        decide
      exact absurd (followInputs_tangled.mem_of_upstream hid hup) (by decide)
  · rcases assemble_copies reachable_tangled (by decide) hlt' with ⟨hcopied, hcycle, -⟩
    cases hres : tangled.assemble [3, 7] with
    | ok a => exact absurd hres not_assemble_tangled_eq_ok
    | error e =>
        rcases hcycle e hres with ⟨name, rfl⟩
        refine ⟨name, rfl, ?_⟩
        exact (hcopied shuffled shuffledId (copies_shuffled hlt')).trans (by rw [hres]; rfl)

end Network
end LayerNet
