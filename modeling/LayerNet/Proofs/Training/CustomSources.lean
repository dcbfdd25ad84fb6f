import LayerNet.Proofs.Distinct
import LayerNet.Proofs.Network.PostOrder
import LayerNet.Proofs.Text.Search
import LayerNet.Proofs.Training.Renderings

/-!
# Source texts in the training script

The training script is a template with one line that marks where the source texts of layer classes
go. What is put there is never looked at again, so that a source text may hold the mark itself.

Main definitions:

- `Script.trainingTemplate`: the training script with the mark in it.
- `Collected`: which source texts go into a script, in which order.
- `Network.sources`: the source texts of layers.

Main results:

- `training_eq_replaceAll`: the script is the template with the mark replaced.
- `Collected.eq_of_collected`: there is one way to collect source texts.
- `sources_of_calls_eq`: what the runtime is given for a model.
-/

namespace LayerNet

/-! ## The template -/

namespace Script

/-- The line in whose place the source texts of layer classes go. -/
def definitionsMark : String :=
  "# kgraph-custom-definitions"

/-- The training script with the mark in it. -/
def trainingTemplate : String :=
  ofLines (linesBeforeDefinitions ++ [definitionsMark] ++ linesAfterDefinitions)

/-- The template is cut at the mark for the definitions. -/
theorem trainingTemplate_eq :
    trainingTemplate = beforeDefinitions ++ definitionsMark ++ afterDefinitions := by
  simp [trainingTemplate, beforeDefinitions, afterDefinitions, ofLines, String.join_append,
    String.join_cons, String.append_assoc]

theorem not_mem_toList_ofLines {c : Char} (hc : c ≠ '\n') {lines : List String}
    (h : ∀ line ∈ lines, c ∉ line.toList) : c ∉ (ofLines lines).toList := by
  induction lines with
  | nil => simp [ofLines]
  | cons line lines ih =>
      rw [toList_ofLines_cons, List.mem_append, List.mem_cons]
      rintro (hline | rfl | hlines)
      · exact h line List.mem_cons_self hline
      · exact hc rfl
      · exact ih (fun other hother => h other (List.mem_cons_of_mem _ hother)) hlines

/-- A line given by its characters has none of a character if these have none; they need not be
decoded then, which takes long for a whole template. -/
theorem forall_not_mem_ofList_cons {c : Char} {cs : List Char} {lines : List String} (h : c ∉ cs)
    (hlines : ∀ line ∈ lines, c ∉ line.toList) :
    ∀ line ∈ String.ofList cs :: lines, c ∉ line.toList := by
  rw [List.forall_mem_cons, String.toList_ofList]
  exact ⟨h, hlines⟩

/-- The mark begins with a character that is nowhere else in the template. -/
theorem hash_not_mem_beforeDefinitions : '#' ∉ beforeDefinitions.toList := by
  refine not_mem_toList_ofLines (by decide) ?_
  unfold linesBeforeDefinitions
  repeat refine forall_not_mem_ofList_cons (by decide +kernel) ?_
  exact List.forall_mem_nil _

theorem hash_not_mem_afterDefinitions : '#' ∉ afterDefinitions.toList := by
  have hlines : '#' ∉ (ofLines linesAfterDefinitions).toList := by
    refine not_mem_toList_ofLines (by decide) ?_
    unfold linesAfterDefinitions
    repeat refine forall_not_mem_ofList_cons (by decide +kernel) ?_
    exact List.forall_mem_nil _
  rw [afterDefinitions, String.toList_append, List.mem_append]
  exact not_or.mpr ⟨by decide, hlines⟩

/-- Whatever is put in the place of the mark stays as it is. -/
theorem replaceAll_trainingTemplate (new : String) :
    Text.replaceAll definitionsMark new trainingTemplate =
      beforeDefinitions ++ new ++ afterDefinitions := by
  have hmark : definitionsMark.toList = '#' :: definitionsMark.toList.tail := by decide
  have habsent (front back : List Char) (h : '#' ∉ front) :
      Text.Absent definitionsMark.toList front back :=
    hmark ▸ Text.absent_of_not_mem h
  rw [Text.replaceAll, if_neg (by decide), trainingTemplate_eq, ← String.toList_inj]
  simp only [String.toList_ofList, String.toList_append, List.append_assoc]
  exact Text.replaceFrom_single new.toList (by decide)
    (habsent _ _ hash_not_mem_beforeDefinitions) (habsent _ _ hash_not_mem_afterDefinitions)

/-- The script is the template with the mark replaced. -/
theorem training_eq_replaceAll (definitions : List String) :
    training definitions = Text.replaceAll definitionsMark
      ("\n".intercalate (collectDefinitions definitions)) trainingTemplate := by
  rw [replaceAll_trainingTemplate, training]

end Script

/-! ## Collections -/

theorem isBlankText_eq_false_iff {text : String} :
    Text.isBlankText text = false ↔ ∃ c ∈ text.toList, Text.isBlank c = false := by
  simp [Text.isBlankText]

/-- Which texts are collected from source texts: without blocks, those that hold more than blanks,
each once, in the order in which they stand first. -/
structure Collected (definitions collected : List String) : Prop where
  mem_iff : ∀ text, text ∈ collected ↔
    (∃ definition ∈ definitions, withoutBlocks definition = text) ∧
      ∃ c ∈ text.toList, Text.isBlank c = false
  nodup : collected.Nodup
  ordered : collected.Pairwise fun text other =>
    (definitions.map withoutBlocks).idxOf text < (definitions.map withoutBlocks).idxOf other

/-- What is collected has each text once, in the order of their first occurrences, and no blank
ones. -/
theorem collected_collectDefinitions (definitions : List String) :
    Collected definitions (collectDefinitions definitions) where
  mem_iff text := by
    rw [collectDefinitions, List.mem_eraseDups, List.mem_filter, List.mem_map, Bool.not_eq_true',
      isBlankText_eq_false_iff]
  nodup := nodup_eraseDups _
  ordered := by
    refine (pairwise_idxOf_eraseDups _).imp_of_mem fun hx hy hlt => ?_
    exact idxOf_lt_of_idxOf_filter_lt (List.mem_filter.mp (List.mem_eraseDups.mp hx)).2
      (List.mem_filter.mp (List.mem_eraseDups.mp hy)).2 hlt

/-- There is one way to collect source texts. -/
theorem Collected.eq_of_collected {definitions collected other : List String}
    (h : Collected definitions collected) (hother : Collected definitions other) :
    collected = other := by
  refine List.Perm.eq_of_pairwise ?_ h.ordered hother.ordered ?_
  · intro text text' _ _ hlt hgt
    exact absurd hlt hgt.asymm
  · refine (List.perm_ext_iff_of_nodup h.nodup hother.nodup).mpr fun text => ?_
    rw [h.mem_iff, hother.mem_iff]

/-- More source texts that are blank or the same without blocks as ones before change nothing. -/
theorem Collected.append {definitions collected more : List String}
    (h : Collected definitions collected)
    (hmore : ∀ definition ∈ more, Text.isBlankText (withoutBlocks definition) = true ∨
      withoutBlocks definition ∈ definitions.map withoutBlocks) :
    Collected (definitions ++ more) collected where
  mem_iff text := by
    rw [h.mem_iff]
    refine and_congr_left fun hblank => ⟨?_, ?_⟩
    · rintro ⟨definition, hmem, htext⟩
      exact ⟨definition, List.mem_append_left _ hmem, htext⟩
    · rintro ⟨definition, hmem, rfl⟩
      rcases List.mem_append.mp hmem with hmem | hmem
      · exact ⟨definition, hmem, rfl⟩
      · have hnot := isBlankText_eq_false_iff.mpr hblank
        exact List.mem_map.mp ((hmore definition hmem).resolve_left (by simp [hnot]))
  nodup := h.nodup
  ordered := by
    have hidx : ∀ text ∈ collected, ((definitions ++ more).map withoutBlocks).idxOf text =
        (definitions.map withoutBlocks).idxOf text := by
      intro text htext
      have hmem := List.mem_map.mpr ((h.mem_iff text).mp htext).1
      rw [List.map_append, List.idxOf_append, if_pos hmem]
    refine h.ordered.imp_of_mem fun {text other} htext hother hlt => ?_
    rwa [hidx text htext, hidx other hother]

/-- Texts that are blank or were collected already change nothing. -/
theorem Script.training_append {definitions more : List String}
    (hmore : ∀ definition ∈ more, Text.isBlankText (withoutBlocks definition) = true ∨
      withoutBlocks definition ∈ definitions.map withoutBlocks) :
    Script.training (definitions ++ more) = Script.training definitions := by
  have hcollected := (collected_collectDefinitions definitions).append hmore
  rw [Script.training, Script.training,
    (collected_collectDefinitions (definitions ++ more)).eq_of_collected hcollected]

/-! ## Models -/

namespace Network

/-- The source texts of the layers with some ids, of those that have one. -/
def sources (net : Network) (ids : List LayerId) : List String :=
  ids.filterMap fun id => (net.layer? id).bind fun layer => layer.kind.definition?

/-- The source texts of layers that are all there are the definitions of their kinds, in order. -/
theorem sources_of_mapM_eq_ok {net : Network} {ids : List LayerId} {layers : List Layer}
    (h : ids.mapM net.layer = .ok layers) :
    net.sources ids = layers.filterMap fun layer => layer.kind.definition? := by
  induction ids generalizing layers with
  | nil => rw [mapM_nil_eq_ok_iff.mp h]; rfl
  | cons id ids ih =>
      rcases mapM_cons_eq_ok_iff.mp h with ⟨layer, others, hlayer, hothers, rfl⟩
      have hrest := ih hothers
      rw [sources] at hrest
      rw [sources, List.filterMap_cons, layer_eq_ok_iff.mp hlayer, Option.bind_some, hrest,
        List.filterMap_cons]

/-- The source texts that an assembly has are those of its layers, in their order. -/
theorem definitions_of_assemble {net : Network} {outputs : List LayerId} {a : Assembly}
    (ha : net.assemble outputs = .ok a) : a.definitions = net.sources a.order := by
  rcases assemble_eq_ok_iff.mp ha with ⟨order, layers, records, outputLayers, -, hlayers, -, -, rfl⟩
  exact (sources_of_mapM_eq_ok hlayers).symm

end Network

namespace Compilation

variable {bridge : Bridge} {config : CompileConfig} {world : World} {call : Call}

/-- For every model that is compiled, as long as the runtime is called: its script is the template
with the collected source texts of the layers, in their order, in the place of the mark.  It stays
the same if source texts are listed again. -/
theorem sources_of_calls_eq {net : Network} {outputs : List LayerId} {a : Assembly}
    (ha : net.assemble outputs = .ok a)
    (hcall : ((compileNetwork bridge net outputs config).run world).2.calls =
      world.calls ++ [call]) :
    (∃ ready outcome files, Prepares a.definition.toJson config world.files ready ∧
        Settles config call (bridge call.script call.payload ready) (outcome, files) ∧
        (compileNetwork bridge net outputs config).run world =
          (outcome, ⟨files, world.calls ++ [call]⟩)) ∧
      Script.trainingTemplate =
        Script.beforeDefinitions ++ Script.definitionsMark ++ Script.afterDefinitions ∧
      (∃ collected, Collected (net.sources a.order) collected ∧
        call.script = Script.beforeDefinitions ++ "\n".intercalate collected ++
          Script.afterDefinitions ∧
        call.script = Text.replaceAll Script.definitionsMark ("\n".intercalate collected)
          Script.trainingTemplate) ∧
      call.script = Script.training (net.sources a.order) ∧
      ∀ definitions more : List String,
        (∀ definition ∈ more, Text.isBlankText (withoutBlocks definition) = true ∨
          withoutBlocks definition ∈ definitions.map withoutBlocks) →
        Script.training (definitions ++ more) = Script.training definitions := by
  rw [run_compileNetwork_of_ok bridge config world ha] at hcall ⊢
  have hscript : call.script = Script.training (net.sources a.order) := by
    rw [call_eq_of_calls_eq hcall, callOf, Network.definitions_of_assemble ha]
  refine ⟨prepares_of_calls_eq hcall, Script.trainingTemplate_eq,
    ⟨collectDefinitions (net.sources a.order), collected_collectDefinitions _, hscript, ?_⟩,
      hscript, fun _ _ => Script.training_append⟩
  rw [hscript, Script.training_eq_replaceAll]

/-! ## Layers that imitate the template -/

/-- Source texts that hold the mark, that are the same without blocks, that are blank then, and that
stand in the template. -/
def imitatingSources : List String :=
  ["# kgraph-custom-definitions\n# kgraph-ignore x # kgraph-ignore-end", "# kgraph-ignore",
   "# kgraph-custom-definitions\n", "import json\n"]

/-- Layers of their own with the source texts, where the third one follows the first two, and the
fourth one follows the others. -/
def imitatingHistory : List Edit :=
  let own (source : String) (inputs : List LayerId) : Edit :=
    .add
      { kind := .custom { className := "Own", baseName := "own", definition := some source } }
      inputs
  List.zipWith own imitatingSources [[], [], [0, 1], [2, 0]]

/-- The network that the history leads to. -/
def imitating : Network :=
  (Builder.run ⟨{}, {}⟩ imitatingHistory).network

theorem wellFormed_imitating : imitating.WellFormed :=
  Builder.wellFormed_run Network.wellFormed_empty imitatingHistory

theorem emits_imitating : imitating.Emits [] [3] [0, 1, 2, 3] := by
  have h0 : imitating.Emits [] [0] [0] := .emit (by decide) rfl .nil .nil
  have h1 : imitating.Emits [0] [1] [0, 1] := .emit (by decide) rfl .nil .nil
  have h2 : imitating.Emits [] [2] [0, 1, 2] := .emit (by decide) rfl (h0.append h1) .nil
  have hinputs : imitating.Emits [] [2, 0] [0, 1, 2] := h2.append (.skip (by decide) .nil)
  exact .emit (by decide) rfl hinputs .nil

theorem exists_assemble_imitating : ∃ a, imitating.assemble [3] = .ok a := by
  have hspec := (Network.exists_emits_iff wellFormed_imitating).mp ⟨_, emits_imitating⟩
  exact Network.exists_assemble_eq_ok wellFormed_imitating (by decide) hspec

/-- One of the sources is blank without its block, and two are the same. -/
theorem sources_of_calls_eq_imitating : ∃ (a : Assembly) (call : Call) (collected : List String),
    imitating.assemble [3] = .ok a ∧
      ((compileNetwork idle imitating [3] describedConfig).run ⟨outFiles, []⟩).2.calls =
        [] ++ [call] ∧
      Collected imitatingSources collected ∧
      call.script = Script.beforeDefinitions ++ "\n".intercalate collected ++
        Script.afterDefinitions ∧
      Script.training (imitatingSources ++ imitatingSources) = call.script := by
  rcases exists_assemble_imitating with ⟨a, ha⟩
  have horder : a.order = [0, 1, 2, 3] :=
    (Network.emits_of_assemble wellFormed_imitating ha).functional emits_imitating
  have hsources : imitating.sources a.order = imitatingSources := by
    rw [horder]
    rfl
  rcases exists_prepares_outFiles a.definition.toJson with ⟨ready, hready, -⟩
  have hcall : ((compileNetwork idle imitating [3] describedConfig).run ⟨outFiles, []⟩).2.calls =
      [] ++ [callOf a.definition.toJson a.definitions describedConfig] := by
    rcases run_compileDefinition_of_prepares idle a.definitions ⟨outFiles, []⟩ rfl (by decide)
      hready with ⟨outcome, files, -, hrun⟩
    rw [run_compileNetwork_of_ok idle describedConfig ⟨outFiles, []⟩ ha, hrun]
  rcases sources_of_calls_eq ha hcall with
    ⟨-, -, ⟨collected, hcollected, hscript, -⟩, htraining, hagain⟩
  rw [hsources] at hcollected htraining
  refine ⟨a, _, collected, ha, hcall, hcollected, hscript, ?_⟩
  rw [htraining]
  exact hagain _ _ fun definition hmem => Or.inr (List.mem_map_of_mem hmem)

end Compilation
end LayerNet
