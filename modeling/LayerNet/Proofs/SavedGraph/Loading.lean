import LayerNet.Proofs.Json.Compact
import LayerNet.Proofs.SavedGraph.Reading
import LayerNet.Proofs.Text.LastLine
import LayerNet.Proofs.Training.Compilation
import LayerNet.SavedGraph.Loader

/-!
# What is loaded from a directory

A graph is loaded from its document, or from the last line that a runtime writes.  The document of a
graph is one line without line feeds, so that it does not matter what the runtime writes on lines
before it, and how many blank lines follow.  A runtime is called only if there is no document but a
saved model.

Main definitions:

- `NeedsRuntime`: a runtime has to be asked for the graph of a directory.
- `answerOf`: the graph, or the error, from what a runtime answers.

Main results:

- `lastLine_eq_iff`: what the last line of an output is.
- `run_loadThrough`, `run_loadGraph`: all cases of loading a graph.
- `lastLine_chatter`: the last line of an output that ends with a document.
- `loaders_agree`: both ways of loading a graph, and their errors.
-/

namespace LayerNet

/-! ## The last line of an output -/

theorem lastLine_eq (output : String) :
    lastLine output = String.ofList
      (((Text.linesFrom [] output.toList).reverse.find? fun line =>
        !line.all Text.isBlank).getD []) := by
  have hblank : ((fun line => !Text.isBlankText line) ∘ String.ofList) =
      fun line : List Char => !line.all Text.isBlank := by
    funext line
    rw [Function.comp_apply, Text.isBlankText, String.toList_ofList]
  rw [lastLine, Text.lines, ← List.map_reverse, List.find?_map, hblank]
  cases (Text.linesFrom [] output.toList).reverse.find? fun line => !line.all Text.isBlank <;> rfl

/-- What is taken as the last line is the last one that is not blank. -/
theorem lastLine_eq_iff {output line : String} :
    lastLine output = line ↔ Text.LastLine output.toList line.toList := by
  constructor
  · rintro rfl
    rcases Text.exists_lastLine output.toList with ⟨line, hline⟩
    rw [lastLine_eq, hline.find?_eq, String.toList_ofList]
    exact hline
  · intro h
    rw [lastLine_eq, h.find?_eq, String.ofList_toList]

/-- A document on one line is one line of the output. -/
theorem Json.feed_not_mem_compact (j : Json) : '\n' ∉ j.compact.toList := by
  rw [compact, String.toList_ofList]
  exact control_not_mem_compactChars (by decide) j

/-- The document of a graph is an object, so that it is not blank. -/
theorem SavedGraph.exists_not_blank_compact (graph : SavedGraph) :
    ∃ c ∈ graph.toJson.compact.toList, Text.isBlank c = false := by
  refine ⟨'\x7b', ?_, by decide⟩
  rw [Json.compact, String.toList_ofList, toJson, Json.compactChars]
  exact List.mem_cons_self

theorem Json.getLast?_compact_ne (j : Json) : j.compact.toList.getLast? ≠ some '\r' := by
  intro hlast
  rw [compact, String.toList_ofList] at hlast
  exact control_not_mem_compactChars (by decide) j (List.mem_of_getLast? hlast)

/-- Behind whole lines and before blank ones, the document of a graph is the last line. -/
theorem lastLine_chatter (graph : SavedGraph) {chatter blanks : String}
    (hchatter : Text.Whole chatter.toList)
    (hbegins : blanks = "" ∨ ∃ rest, blanks = "\n" ++ rest)
    (hblanks : Text.isBlankText blanks = true) :
    lastLine (chatter ++ graph.toJson.compact ++ blanks) = graph.toJson.compact := by
  have hcloses : Text.Closes graph.toJson.compact.toList blanks.toList := by
    rcases hbegins with rfl | ⟨rest, rfl⟩
    · exact .ending
    · rw [String.toList_append]
      exact .feed (Json.getLast?_compact_ne _)
  rw [lastLine_eq_iff, String.toList_append, String.toList_append, List.append_assoc]
  exact .line hchatter (Json.feed_not_mem_compact _) graph.exists_not_blank_compact hcloses
    (List.all_eq_true.mp hblanks)

/-! ## Loading -/

/-- A runtime has to be asked for the graph of a directory: there is no document, but a saved
model. -/
def NeedsRuntime (files : FileSystem) (directory : String) : Prop :=
  files.isFile (Path.join directory graphFile) = false ∧
    files.isFile (Path.join directory savedModelFile) = true

/-- What a runtime is given for the graph of a directory. -/
def graphCall (directory : String) : Call :=
  ⟨Script.graphDump, graphRequest directory⟩

/-- The graph on the last line of what a runtime has written, or its error. -/
def answerOf : Except BridgeError RuntimeOutput → Except LoadError SavedGraph
  | .error error => .error (.bridge error)
  | .ok output =>
    (SavedGraph.parse (lastLine output.stdout)).mapError fun fault =>
      .bridge (.malformed fault.message output.stdout)

section Run

variable (bridge : Bridge) (directory : String) (world : World)

/-- Without a model the runtime is not called; with one it is called once, whatever comes of it. -/
theorem run_loadThrough :
    (loadThrough bridge directory).run world =
      if world.files.isFile (Path.join directory savedModelFile) then
        (answerOf (bridge Script.graphDump (graphRequest directory) world.files).1,
          ⟨(bridge Script.graphDump (graphRequest directory) world.files).2,
            world.calls ++ [graphCall directory]⟩)
      else (.error (.missingModel directory), world) := by
  unfold loadThrough
  rw [Effect.run_bind, Effect.run_askFiles]
  cases world.files.isFile (Path.join directory savedModelFile) with
  | false => rfl
  | true =>
      dsimp only
      rw [if_neg (by decide), if_pos rfl, Effect.run_bind, Effect.run_adapt_call]
      cases (bridge Script.graphDump (graphRequest directory) world.files).1 with
      | error error => rfl
      | ok output =>
          simp only [Except.mapError, answerOf]
          cases SavedGraph.parse (lastLine output.stdout) <;> rfl

/-- A document of the graph is preferred to the runtime. -/
theorem run_loadGraph :
    (loadGraph bridge directory).run world =
      if world.files.isFile (Path.join directory graphFile) then
        (loadDocument world.files directory, world)
      else (loadThrough bridge directory).run world := by
  unfold loadGraph
  rw [Effect.run_bind, Effect.run_askFiles]
  cases world.files.isFile (Path.join directory graphFile) <;> rfl

variable {bridge directory world}

theorem run_loadGraph_of_isFile (h : world.files.isFile (Path.join directory graphFile) = true) :
    (loadGraph bridge directory).run world = (loadDocument world.files directory, world) := by
  rw [run_loadGraph, if_pos h]

/-- A runtime that has to be asked is called once, and what it answers is all that counts. -/
theorem run_loadThrough_of_needsRuntime (h : NeedsRuntime world.files directory) :
    (loadThrough bridge directory).run world =
      (answerOf (bridge Script.graphDump (graphRequest directory) world.files).1,
        ⟨(bridge Script.graphDump (graphRequest directory) world.files).2,
          world.calls ++ [graphCall directory]⟩) := by
  rw [run_loadThrough, if_pos h.2]

theorem run_loadGraph_of_needsRuntime (h : NeedsRuntime world.files directory) :
    (loadGraph bridge directory).run world = (loadThrough bridge directory).run world := by
  rw [run_loadGraph, if_neg (by rw [h.1]; exact Bool.false_ne_true)]

/-- Otherwise there is a document, or no saved model, and nothing is changed. -/
theorem run_loadGraph_of_not_needsRuntime (h : ¬ NeedsRuntime world.files directory) :
    ((loadGraph bridge directory).run world).2 = world := by
  rw [run_loadGraph]
  split <;> rename_i hdocument
  · rfl
  · rw [run_loadThrough, if_neg]
    exact fun hmodel => h ⟨eq_false_of_ne_true hdocument, hmodel⟩

end Run

/-- A file that holds a writing of the graph is read as the graph. -/
theorem loadDocument_eq {files : FileSystem} {directory text : String} {graph : SavedGraph}
    (hfile : files.isFile (Path.join directory graphFile) = true)
    (hholds : files.Holds (Path.join directory graphFile) text)
    (hwritten : graph.IsWrittenAs text.toList) : loadDocument files directory = .ok graph := by
  simp only [loadDocument, hholds.readText_eq hfile, SavedGraph.parse_eq_of_isWrittenAs hwritten,
    Except.mapError]

/-- A graph is had from a document that it is written in, however this is done, and also from the
last line of what a runtime writes, whatever whole lines are before it and whatever blank ones
behind.  The runtime is called just if there is no document but a saved model, and then once.  If
its last line is no graph, the error has all of its output; and if it fails, its error is the
error. -/
theorem loaders_agree (bridge : Bridge) (directory : String) (world : World) :
    let asked := bridge Script.graphDump (graphRequest directory) world.files
    let loaded := (loadGraph bridge directory).run world
    (∀ (graph : SavedGraph) (text : String),
      world.files.isFile (Path.join directory graphFile) = true →
      world.files.Holds (Path.join directory graphFile) text → graph.IsWrittenAs text.toList →
      loadDocument world.files directory = .ok graph ∧ loaded.1 = .ok graph) ∧
    (∀ (graph : SavedGraph) (chatter blanks : String) (output : RuntimeOutput),
      NeedsRuntime world.files directory → asked.1 = .ok output →
      output.stdout = chatter ++ graph.toJson.compact ++ blanks → Text.Whole chatter.toList →
      (blanks = "" ∨ ∃ rest, blanks = "\n" ++ rest) →
      Text.isBlankText blanks = true →
      ((loadThrough bridge directory).run world).1 = .ok graph ∧ loaded.1 = .ok graph) ∧
    (NeedsRuntime world.files directory →
      loaded.2 = ⟨asked.2, world.calls ++ [graphCall directory]⟩) ∧
    (¬ NeedsRuntime world.files directory → loaded.2 = world) ∧
    (∀ (output : RuntimeOutput) (line : String) (fault : ReadFault),
      NeedsRuntime world.files directory → asked.1 = .ok output →
      Text.LastLine output.stdout.toList line.toList → SavedGraph.parse line = .error fault →
      loaded.1 = .error (.bridge (.malformed fault.message output.stdout))) ∧
    ∀ error, NeedsRuntime world.files directory → asked.1 = .error error →
      loaded.1 = .error (.bridge error) := by
  intro asked loaded
  have hthrough (h : NeedsRuntime world.files directory) : loaded = (answerOf asked.1,
      ⟨asked.2, world.calls ++ [graphCall directory]⟩) :=
    (run_loadGraph_of_needsRuntime h).trans (run_loadThrough_of_needsRuntime h)
  refine ⟨?_, ?_, ?_, run_loadGraph_of_not_needsRuntime, ?_, ?_⟩
  · intro graph text hfile hholds hwritten
    have hdocument := loadDocument_eq hfile hholds hwritten
    exact ⟨hdocument, (congrArg Prod.fst (run_loadGraph_of_isFile hfile)).trans hdocument⟩
  · intro graph chatter blanks output hneeds hasked hstdout hchatter hbegins hblanks
    have hanswer : answerOf asked.1 = .ok graph := by
      rw [hasked, answerOf, hstdout, lastLine_chatter graph hchatter hbegins hblanks,
        SavedGraph.parse_eq_of_isWrittenAs graph.isWrittenAs_compact]
      rfl
    rw [run_loadThrough_of_needsRuntime hneeds, hthrough hneeds]
    exact ⟨hanswer, hanswer⟩
  · intro hneeds
    rw [hthrough hneeds]
  · intro output line fault hneeds hasked hline hfault
    rw [hthrough hneeds, hasked, answerOf, lastLine_eq_iff.mpr hline, hfault]
    rfl
  · intro error hneeds hasked
    rw [hthrough hneeds, hasked, answerOf]

/-- A graph with a function and nothing else. -/
def emptyFunction : SavedGraph where
  functions := [⟨"f", []⟩]

/-- A saved model in the directory `out`. -/
def modelFiles : FileSystem where
  root := .directory [("out", .directory [(savedModelFile, .file "model".toUTF8 false)])]

/-- The document of the graph in the directory `out`. -/
def documentFiles : FileSystem where
  root := .directory [("out",
    .directory [(graphFile, .file emptyFunction.toJson.compact.toUTF8 false)])]

/-- A runtime that writes another graph before the one that it was asked for. -/
def chatty : Bridge :=
  fun _ _ files =>
    (.ok { stdout := "\x7b\x7d\n" ++ emptyFunction.toJson.compact ++ "\n \n" }, files)

/-- The bridge writes another document before and blanks behind the one it was asked for. -/
theorem loaders_agree_emptyFunction :
    NeedsRuntime modelFiles "out" ∧
      (loadGraph chatty "out").run ⟨modelFiles, []⟩ =
        (.ok emptyFunction, ⟨modelFiles, [graphCall "out"]⟩) ∧
      (loadGraph chatty "out").run ⟨documentFiles, []⟩ =
        (.ok emptyFunction, ⟨documentFiles, []⟩) := by
  have hneeds : NeedsRuntime modelFiles "out" := ⟨by decide +kernel, by decide +kernel⟩
  have hdocument : documentFiles.isFile (Path.join "out" graphFile) = true := by decide +kernel
  have hnot : ¬ NeedsRuntime documentFiles "out" := fun h => by
    rw [NeedsRuntime, hdocument] at h
    exact Bool.false_ne_true h.1.symm
  rcases loaders_agree chatty "out" ⟨modelFiles, []⟩ with ⟨-, hline, hcall, -⟩
  rcases loaders_agree chatty "out" ⟨documentFiles, []⟩ with ⟨hread, -, -, hkept, -⟩
  refine ⟨hneeds, Prod.ext ?_ (hcall hneeds), Prod.ext ?_ (hkept hnot)⟩
  · exact (hline emptyFunction "\x7b\x7d\n" "\n \n" _ hneeds rfl rfl
      (.inr ⟨"\x7b\x7d".toList, by decide⟩) (.inr ⟨" \n", by decide⟩) (by decide)).2
  · exact (hread emptyFunction _ hdocument (.file rfl) emptyFunction.isWrittenAs_compact).2

end LayerNet
