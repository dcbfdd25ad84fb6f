import Mathlib.Data.List.Forall2
import Mathlib.Logic.Relation
import LayerNet.Proofs.Reconstruction.Lists

/-!
# Marked functions

Of the functions of a graph those are reconstructed that have the marker in their name, one after
another in the order of their names.  Functions of one name keep the order that they have in the
graph. That determines the list of functions that are worked on, so that neither the other functions
nor the order in the graph matter as long as no two marked functions have one name.

Main definitions:

- `MarkedInOrder`: the marked functions of a list in the order in which they are worked on.
- `FunctionChange`: changes of a list of functions that leave the marked ones as they are.

Main results:

- `SavedGraph.functionsMatching_eq_iff`: the functions that are worked on.
- `SavedGraph.forall₂_lists`: lists that are related stay so in the work on graphs.
- `SavedGraph.reconstruct_of_functionChanges`: changes that make no difference.
-/

namespace LayerNet

open Relation

/-! ## Functions sorted by name -/

/-- Whether a function has the marker in its name. -/
def GraphFunction.isMarked (marker : String) (function : GraphFunction) : Bool :=
  Text.occursIn marker function.name

section Sorted

variable {functions functions' : List GraphFunction}

/-- The functions of one name in a list. -/
def ofName (name : String) (functions : List GraphFunction) : List GraphFunction :=
  functions.filter fun function => function.name == name

theorem mem_ofName {name : String} {function : GraphFunction} :
    function ∈ ofName name functions ↔ function ∈ functions ∧ function.name = name := by
  simp [ofName]

theorem ofName_ofName (name : String) (functions : List GraphFunction) :
    ofName name (ofName name functions) = ofName name functions := by
  simp [ofName]

/-- Whether the functions of a list come in the order of their names. -/
def SortedByName (functions : List GraphFunction) : Prop :=
  functions.Pairwise fun function other => function.name ≤ other.name

/-- The first one of sorted functions has the least name. -/
theorem SortedByName.name_le {first function : GraphFunction}
    (h : SortedByName (first :: functions)) (hmem : function ∈ first :: functions) :
    first.name ≤ function.name := by
  rcases List.mem_cons.mp hmem with rfl | hmem
  · exact String.le_refl _
  · exact (List.pairwise_cons.mp h).1 function hmem

/-- Lists with the same functions of each name have the same functions. -/
theorem mem_iff_of_ofName_eq (hnames : ∀ name, ofName name functions = ofName name functions')
    {function : GraphFunction} : function ∈ functions ↔ function ∈ functions' := by
  have hsame : function ∈ ofName function.name functions ↔
      function ∈ ofName function.name functions' := by
    rw [hnames]
  simpa [mem_ofName] using hsame

/-- Sorted lists with the same functions of each name, in the same order, are the same. -/
theorem SortedByName.eq_of_ofName_eq (h : SortedByName functions) (h' : SortedByName functions')
    (hnames : ∀ name, ofName name functions = ofName name functions') : functions = functions' := by
  induction functions generalizing functions' with
  | nil =>
      refine (List.eq_nil_iff_forall_not_mem.mpr fun function hmem => ?_).symm
      exact List.not_mem_nil ((mem_iff_of_ofName_eq hnames).mpr hmem)
  | cons first functions ih =>
      cases functions' with
      | nil => exact absurd ((mem_iff_of_ofName_eq hnames).mp List.mem_cons_self) List.not_mem_nil
      | cons first' functions' =>
          -- both come first among the functions of the least name
          have hname : first.name = first'.name :=
            String.le_antisymm
              (h.name_le ((mem_iff_of_ofName_eq hnames).mpr List.mem_cons_self))
              (h'.name_le ((mem_iff_of_ofName_eq hnames).mp List.mem_cons_self))
          have hleast := hnames first'.name
          simp only [ofName, List.filter_cons, hname, beq_self_eq_true, if_true] at hleast
          obtain ⟨rfl, -⟩ := List.cons.inj hleast
          have hrest : ∀ name, ofName name functions = ofName name functions' := by
            intro name
            have hsame := hnames name
            simp only [ofName, List.filter_cons] at hsame
            split at hsame
            · exact (List.cons.inj hsame).2
            · exact hsame
          rw [ih (List.pairwise_cons.mp h).2 (List.pairwise_cons.mp h').2 hrest]

end Sorted

/-! ## The functions that are worked on -/

section Marked

variable {marker : String} {functions functions' : List GraphFunction}

/-- Whether chosen functions are those of a list that have the marker in their name: they come in
the order of their names, and those of one name in the order that they have in the list. -/
structure MarkedInOrder (marker : String) (functions chosen : List GraphFunction) : Prop where
  mem_iff : ∀ function, function ∈ chosen ↔
    function ∈ functions ∧ marker.toList <:+: function.name.toList
  sorted : SortedByName chosen
  ofName_eq : ∀ name, ofName name chosen =
    ofName name (functions.filter (GraphFunction.isMarked marker))

theorem isMarked_iff {function : GraphFunction} :
    function.isMarked marker = true ↔ marker.toList <:+: function.name.toList :=
  Text.occursIn_iff

namespace SavedGraph

variable {graph other : SavedGraph}

/-- The functions that are worked on are those with the marker, each as often as it is there. -/
theorem functionsMatching_perm (graph : SavedGraph) (marker : String) :
    (graph.functionsMatching marker).Perm
      (graph.functions.filter (GraphFunction.isMarked marker)) :=
  List.mergeSort_perm _ _

/-- What functions are sorted by is an order, total and transitive. -/
theorem le_name_trans (f g h : GraphFunction) (hfg : decide (f.name ≤ g.name) = true)
    (hgh : decide (g.name ≤ h.name) = true) : decide (f.name ≤ h.name) = true :=
  decide_eq_true (String.le_trans (of_decide_eq_true hfg) (of_decide_eq_true hgh))

theorem le_name_total (f g : GraphFunction) :
    (decide (f.name ≤ g.name) || decide (g.name ≤ f.name)) = true := by
  simpa using String.le_total f.name g.name

/-- They are in the order of their names. -/
theorem sortedByName_functionsMatching (graph : SavedGraph) (marker : String) :
    SortedByName (graph.functionsMatching marker) :=
  (List.pairwise_mergeSort le_name_trans le_name_total _).imp fun hle => of_decide_eq_true hle

/-- Functions of one name keep their order: they are sorted as they are. -/
theorem ofName_functionsMatching (graph : SavedGraph) (marker name : String) :
    ofName name (graph.functionsMatching marker) =
      ofName name (graph.functions.filter (GraphFunction.isMarked marker)) := by
  have hsorted : (ofName name (graph.functions.filter (GraphFunction.isMarked marker))).Pairwise
      fun f g => decide (f.name ≤ g.name) = true := by
    refine List.pairwise_of_forall_mem_list fun f hf g hg => ?_
    rw [(mem_ofName.mp hf).2, (mem_ofName.mp hg).2]
    exact decide_eq_true (String.le_refl name)
  have hsublist : (ofName name (graph.functions.filter (GraphFunction.isMarked marker))).Sublist
      (graph.functionsMatching marker) :=
    List.sublist_mergeSort le_name_trans le_name_total hsorted List.filter_sublist
  have hperm : (ofName name (graph.functionsMatching marker)).Perm
      (ofName name (graph.functions.filter (GraphFunction.isMarked marker))) :=
    (graph.functionsMatching_perm marker).filter _
  have hkept : (ofName name (ofName name
      (graph.functions.filter (GraphFunction.isMarked marker)))).Sublist
        (ofName name (graph.functionsMatching marker)) :=
    hsublist.filter _
  rw [ofName_ofName] at hkept
  exact (hkept.eq_of_length_le hperm.length_eq.le).symm

/-- Functions of one name keep the order that they have in the graph. -/
theorem markedInOrder_functionsMatching (graph : SavedGraph) (marker : String) :
    MarkedInOrder marker graph.functions (graph.functionsMatching marker) where
  mem_iff function := by
    rw [(graph.functionsMatching_perm marker).mem_iff, List.mem_filter, isMarked_iff]
  sorted := graph.sortedByName_functionsMatching marker
  ofName_eq := graph.ofName_functionsMatching marker

/-- The functions that are worked on are the marked ones, in the order of their names, and those of
one name in the order that they have in the graph; there is no other such list. -/
theorem functionsMatching_eq_iff {chosen : List GraphFunction} :
    graph.functionsMatching marker = chosen ↔ MarkedInOrder marker graph.functions chosen := by
  constructor
  · rintro rfl
    exact graph.markedInOrder_functionsMatching marker
  · intro h
    refine (graph.sortedByName_functionsMatching marker).eq_of_ofName_eq h.sorted fun name => ?_
    rw [ofName_functionsMatching, h.ofName_eq]

/-- The order in the graph does not matter as long as no two marked functions have one name. -/
theorem functionsMatching_eq_of_perm
    (hdistinct : ((graph.functions.filter (GraphFunction.isMarked marker)).map
      GraphFunction.name).Nodup)
    (hperm : (graph.functions.filter (GraphFunction.isMarked marker)).Perm
      (other.functions.filter (GraphFunction.isMarked marker))) :
    graph.functionsMatching marker = other.functionsMatching marker := by
  have hall : (graph.functionsMatching marker).Perm (other.functionsMatching marker) :=
    (graph.functionsMatching_perm marker).trans
      (hperm.trans (other.functionsMatching_perm marker).symm)
  refine hall.eq_of_pairwise (fun f g hf hg hle hge => ?_)
    (graph.sortedByName_functionsMatching marker) (other.sortedByName_functionsMatching marker)
  have hf : f ∈ graph.functions.filter (GraphFunction.isMarked marker) :=
    (graph.functionsMatching_perm marker).mem_iff.mp hf
  have hg : g ∈ graph.functions.filter (GraphFunction.isMarked marker) :=
    hperm.mem_iff.mpr ((other.functionsMatching_perm marker).mem_iff.mp hg)
  exact List.inj_on_of_nodup_map hdistinct hf hg (String.le_antisymm hle hge)

/-- Functions that are related and have the same names are worked on in the same order. -/
theorem forall₂_functionsMatching {related : List GraphNode → List GraphNode → Prop}
    (h : List.Forall₂ (fun f g => f.name = g.name ∧ related f.nodes g.nodes)
      graph.functions other.functions) (marker : String) :
    List.Forall₂ (fun f g => related f.nodes g.nodes) (graph.functionsMatching marker)
      (other.functionsMatching marker) := by
  -- both lists are read off one list of pairs, in which the names of a pair agree
  let pairs := graph.functions.zip other.functions
  have hrelated : ∀ pair ∈ pairs,
      pair.1.name = pair.2.name ∧ related pair.1.nodes pair.2.nodes := fun pair hpair =>
    List.forall₂_zip h hpair
  have hlength := h.length_eq
  have hfst : pairs.map Prod.fst = graph.functions := List.map_fst_zip hlength.le
  have hsnd : pairs.map Prod.snd = other.functions := List.map_snd_zip hlength.ge
  let marked := pairs.filter fun pair => Text.occursIn marker pair.1.name
  let sorted := marked.mergeSort fun pair other => decide (pair.1.name ≤ other.1.name)
  have hmarked : ∀ pair ∈ marked, pair.1.name = pair.2.name := fun pair hpair =>
    (hrelated pair (List.mem_filter.mp hpair).1).1
  have hleft : graph.functionsMatching marker = sorted.map Prod.fst := by
    rw [SavedGraph.functionsMatching, ← hfst, List.filter_map]
    refine (List.map_mergeSort (f := Prod.fst) fun _ _ _ _ => ?_).symm
    rfl
  have hright : other.functionsMatching marker = sorted.map Prod.snd := by
    have hchosen : pairs.filter ((fun function => Text.occursIn marker function.name) ∘ Prod.snd) =
        marked := by
      refine List.filter_congr fun pair hpair => ?_
      rw [Function.comp_apply, (hrelated pair hpair).1]
    rw [SavedGraph.functionsMatching, ← hsnd, List.filter_map, hchosen]
    refine (List.map_mergeSort fun pair hpair other hother => ?_).symm
    rw [hmarked pair hpair, hmarked other hother]
  rw [hleft, hright, List.forall₂_map_left_iff, List.forall₂_map_right_iff, List.forall₂_same]
  intro pair hpair
  exact (hrelated pair (List.mem_filter.mp (List.mem_mergeSort.mp hpair)).1).2

/-- So are the lists of related graphs. -/
theorem forall₂_lists {related : List GraphNode → List GraphNode → Prop}
    {options : ReconstructionOptions} (hnodes : related graph.nodes other.nodes)
    (hfunctions : List.Forall₂ (fun f g => f.name = g.name ∧ related f.nodes g.nodes)
      graph.functions other.functions) :
    List.Forall₂ related (graph.lists options) (other.lists options) := by
  refine .cons hnodes ?_
  rw [List.forall₂_map_left_iff, List.forall₂_map_right_iff]
  exact forall₂_functionsMatching hfunctions options.functionMarker

end SavedGraph

/-! ## Changes of functions -/

/-- A change of a list of functions that leaves those with the marker as they are, but for their
order. -/
inductive FunctionChange (marker : String) : List GraphFunction → List GraphFunction → Prop where
  | rearrange {functions functions' : List GraphFunction} (hperm : functions.Perm functions') :
      FunctionChange marker functions functions'
  | add {before after : List GraphFunction} {function : GraphFunction}
      (hunmarked : ¬ marker.toList <:+: function.name.toList) :
      FunctionChange marker (before ++ after) (before ++ function :: after)
  | remove {before after : List GraphFunction} {function : GraphFunction}
      (hunmarked : ¬ marker.toList <:+: function.name.toList) :
      FunctionChange marker (before ++ function :: after) (before ++ after)
  | edit {before after : List GraphFunction} {function function' : GraphFunction}
      (hunmarked : ¬ marker.toList <:+: function.name.toList)
      (hunmarked' : ¬ marker.toList <:+: function'.name.toList) :
      FunctionChange marker (before ++ function :: after) (before ++ function' :: after)

/-- A function without the marker does not matter. -/
theorem filter_isMarked_of_not {before after : List GraphFunction} {function : GraphFunction}
    (h : ¬ marker.toList <:+: function.name.toList) :
    (before ++ function :: after).filter (GraphFunction.isMarked marker) =
      (before ++ after).filter (GraphFunction.isMarked marker) := by
  rw [← isMarked_iff] at h
  simp [h]

/-- No change adds or removes a function with the marker. -/
theorem FunctionChange.perm_filter (h : FunctionChange marker functions functions') :
    (functions.filter (GraphFunction.isMarked marker)).Perm
      (functions'.filter (GraphFunction.isMarked marker)) := by
  cases h with
  | rearrange hperm => exact hperm.filter _
  | add hunmarked => rw [filter_isMarked_of_not hunmarked]
  | remove hunmarked => rw [filter_isMarked_of_not hunmarked]
  | edit hunmarked hunmarked' =>
      rw [filter_isMarked_of_not hunmarked, filter_isMarked_of_not hunmarked']

/-- So no sequence of changes does.  The induction is on the sequence. -/
theorem perm_filter_of_changes (h : ReflTransGen (FunctionChange marker) functions functions') :
    (functions.filter (GraphFunction.isMarked marker)).Perm
      (functions'.filter (GraphFunction.isMarked marker)) := by
  induction h with
  | refl => exact List.Perm.refl _
  | tail _ hchange ih => exact ih.trans hchange.perm_filter

namespace SavedGraph

/-- Of the functions only those that are worked on matter to a reconstruction. -/
theorem reconstruct_eq_of_functionsMatching_eq {graph other : SavedGraph}
    {options : ReconstructionOptions} (hnodes : graph.nodes = other.nodes)
    (hfunctions : graph.functionsMatching options.functionMarker =
      other.functionsMatching options.functionMarker) :
    graph.reconstruct options = other.reconstruct options := by
  simp only [reconstruct, allVariables, fullSession, mainSession, hnodes, hfunctions]

/-- If no two marked functions have one name, the reconstruction of a graph is left as it is by
changes of its functions that leave the marked ones as they are.  The functions that are worked on
are, whatever the graph, the marked ones in the order of their names, and those of one name in the
order that they have. -/
theorem reconstruct_of_functionChanges {graph : SavedGraph} {options : ReconstructionOptions}
    (hdistinct : ((graph.functions.filter (GraphFunction.isMarked options.functionMarker)).map
      GraphFunction.name).Nodup)
    {functions : List GraphFunction}
    (hchanges : ReflTransGen (FunctionChange options.functionMarker) graph.functions functions) :
    { graph with functions }.reconstruct options = graph.reconstruct options ∧
      ∀ (any : SavedGraph) (marker : String) (chosen : List GraphFunction),
        any.functionsMatching marker = chosen ↔ MarkedInOrder marker any.functions chosen := by
  refine ⟨?_, fun _ _ _ => functionsMatching_eq_iff⟩
  refine (reconstruct_eq_of_functionsMatching_eq ?_ ?_).symm
  · rfl
  · exact functionsMatching_eq_of_perm hdistinct (perm_filter_of_changes hchanges)

/-- The second of two steps comes first, and there is a function between them that is not marked.
Nodes of the two get identifiers from one base. -/
def twoSteps : SavedGraph where
  nodes := [⟨"x", "Placeholder", []⟩]
  functions :=
    [⟨"__inference_learn_2", [⟨"a/b", "Neg", ["x"]⟩]⟩, ⟨"__inference_predict_3", []⟩,
     ⟨"__inference_learn_1", [⟨"a_b", "Neg", ["x", "a/b"]⟩]⟩]

/-- The steps in order, and another function between them. -/
def twoStepsInOrder : List GraphFunction :=
  [⟨"__inference_learn_1", [⟨"a_b", "Neg", ["x", "a/b"]⟩]⟩, ⟨"helper", [⟨"y", "NoOp", []⟩]⟩,
   ⟨"__inference_learn_2", [⟨"a/b", "Neg", ["x"]⟩]⟩]

theorem changes_twoSteps :
    ReflTransGen (FunctionChange "__inference_learn") twoSteps.functions twoStepsInOrder := by
  have hedit : FunctionChange "__inference_learn" twoSteps.functions twoStepsInOrder.reverse :=
    @FunctionChange.edit _ [_] [_] _ _ (by decide) (by decide)
  exact (ReflTransGen.single hedit).tail (.rearrange (List.reverse_perm _))

/-- The marked functions are put in another order, and the one without the marker becomes
another. -/
theorem reconstruct_twoSteps :
    ((twoSteps.functions.filter (GraphFunction.isMarked "__inference_learn")).map
        GraphFunction.name).Nodup ∧
      ReflTransGen (FunctionChange "__inference_learn") twoSteps.functions twoStepsInOrder ∧
      { twoSteps with functions := twoStepsInOrder }.reconstruct {} = twoSteps.reconstruct {} := by
  have hdistinct : ((twoSteps.functions.filter (GraphFunction.isMarked "__inference_learn")).map
      GraphFunction.name).Nodup := by
    decide
  have hsame :=
    @reconstruct_of_functionChanges twoSteps {} hdistinct twoStepsInOrder changes_twoSteps
  exact ⟨hdistinct, changes_twoSteps, hsame.1⟩

end SavedGraph
end Marked
end LayerNet
