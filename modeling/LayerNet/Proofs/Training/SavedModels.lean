import LayerNet.Proofs.Storage.Places
import LayerNet.Proofs.Training.Renderings

/-!
# Models that were saved before

A compilation looks for a saved model after the call of the runtime, but takes nothing away before
it.  So a model that is found need not be the work of this call: it may have been there.  The
preparation of a call brings no model with it, which leaves these two: a model that a compilation
finds was made by its runtime, or was there before the compilation.

Main definitions:

- `Compilation.modelDirectories`: where models have to be.
- `Compilation.missing?`: the first of these places that has none.
- `Effect.Alters`: the files that an action may change.

Main results:

- `alters_preparation`: before the call no file is changed but the description.
- `complete_iff`: a compilation that misses nothing is complete.
- `made_of_ok`: a model that was not there before the compilation was made by the runtime.
- `model_of_idle`: what a compilation with an idle runtime gives.
-/

namespace LayerNet

/-! ## Files that an action changes -/

/-- Whatever comes of an action, files are changed only at the places that `changes` names. -/
def Effect.Alters {ε α : Type} (changes : List String → Prop) (x : Effect ε α) : Prop :=
  ∀ world : World, FileSystem.Alters changes world.files (x.run world).2.files

namespace Effect.Alters

variable {ε α β : Type} {changes : List String → Prop}

theorem bind {x : Effect ε α} {f : α → Effect ε β} (hx : Effect.Alters changes x)
    (hf : ∀ a, Effect.Alters changes (f a)) : Effect.Alters changes (x >>= f) := by
  intro world
  have hfirst := hx world
  rw [Effect.run_bind]
  cases hrun : x.run world with
  | mk result world' =>
      rw [hrun] at hfirst
      cases result with
      | error e => exact hfirst
      | ok a => exact hfirst.trans (hf a world')

end Effect.Alters

namespace Compilation

theorem alters_makeOutputDirectory (changes : List String → Prop) (path : String) :
    Effect.Alters changes (makeOutputDirectory path) := by
  intro world
  have hmade := FileSystem.alters_makeDirectories changes world.files path
  rw [run_makeOutputDirectory]
  cases hrun : world.files.makeDirectories path with
  | mk result files =>
      rw [hrun] at hmade
      cases result <;> exact hmade

/-- Wherever a file is written, it has the name of the file. -/
theorem alters_writeOutput_join {name : String} (hname : Path.IsName name)
    (directory text : String) :
    Effect.Alters (fun place => place.getLast? = some name)
      (writeOutput (Path.join directory name) text) := by
  intro world
  rw [run_writeOutput]
  cases hwritten : world.files.writeText (Path.join directory name) text with
  | error fault => exact .refl _
  | ok files =>
      refine (FileSystem.alters_of_writeText hwritten).mono fun place hplace => ?_
      rw [hplace, FileSystem.placeOf_join hname]
      exact List.getLast?_concat

/-- The only files that are written before the call are descriptions. -/
theorem alters_preparation (definition : Json) (config : CompileConfig) :
    Effect.Alters (fun place => place.getLast? = some definitionFile)
      (preparation definition config) := by
  unfold preparation
  cases config.infoDirectory with
  | none => exact alters_makeOutputDirectory _ _
  | some directory =>
      have hname : Path.IsName definitionFile := by decide
      have hdescription := alters_writeOutput_join hname directory definition.sorted.spread
      exact (alters_makeOutputDirectory _ _).bind fun _ =>
        hdescription.bind fun _ => alters_makeOutputDirectory _ _

variable {bridge : Bridge} {definition : Json} {definitions : List String} {config : CompileConfig}
  {world : World}

theorem Prepares.alters {files ready : FileSystem} (h : Prepares definition config files ready) :
    FileSystem.Alters (fun place => place.getLast? = some definitionFile) files ready := by
  have halters := alters_preparation definition config ⟨files, []⟩
  have hrun : (preparation definition config).run ⟨files, []⟩ = (.ok (), ⟨ready, []⟩) :=
    h.run_preparation
  rwa [hrun] at halters

/-! ## Models that are looked for -/

/-- The path of the model in a directory. -/
def modelPath (directory : String) : String :=
  Path.join directory savedModelFile

/-- The directories that need a model, in the order in which they are looked at. -/
def modelDirectories (config : CompileConfig) : List String :=
  config.saveDirectory ::
    if config.cpuInference then [Path.join config.saveDirectory cpuDirectory] else []

/-- The first directory that needs a model and has none. -/
def missing? (config : CompileConfig) (files : FileSystem) : Option String :=
  (modelDirectories config).find? fun directory => !files.isFile (modelPath directory)

theorem missing?_eq_none_iff {files : FileSystem} :
    missing? config files = none ↔
      ∀ directory ∈ modelDirectories config, files.isFile (modelPath directory) = true := by
  simp [missing?]

theorem complete_iff {files : FileSystem} :
    Complete config files ↔ missing? config files = none := by
  rw [missing?_eq_none_iff, Complete, modelDirectories, List.forall_mem_cons]
  cases config.cpuInference <;> simp [modelPath]

/-- A missing model is reported, and nothing is written. -/
theorem run_completion_of_missing? {directory : String}
    (h : missing? config world.files = some directory) (call : Call) (output : RuntimeOutput) :
    (completion config call output).run world = (.error (.missingModel directory), world) := by
  simp only [completion, Effect.run_bind, run_requireModel]
  unfold missing? modelDirectories at h
  rw [List.find?_cons] at h
  cases hmodel : world.files.isFile (Path.join config.saveDirectory savedModelFile) with
  | false =>
      simp only [modelPath, hmodel, Bool.not_false, Option.some.injEq] at h
      rw [h]
      rfl
  | true =>
      simp only [modelPath, hmodel, Bool.not_true] at h
      cases hcpu : config.cpuInference with
      | false => simp [hcpu] at h
      | true =>
          rw [hcpu, if_pos rfl, List.find?_singleton] at h
          split at h
          · rename_i hcopy
            obtain rfl := Option.some.inj h
            have hnone : world.files.isFile (Path.join (Path.join config.saveDirectory cpuDirectory)
                savedModelFile) = false := by simpa using hcopy
            simp [Effect.run_bind, run_requireModel, hnone]
          · cases h

/-- After a call that succeeded, the compilation completes what the runtime has left. -/
theorem run_compileDefinition_of_call (definitions : List String) (hbatch : config.batchSize ≠ 0)
    {ready left : FileSystem} {output : RuntimeOutput} {call : Call}
    (hcall : call = callOf definition definitions config)
    (hready : Prepares definition config world.files ready)
    (hbridge : bridge call.script call.payload ready = (.ok output, left)) :
    (compileDefinition bridge definition definitions config).run world =
      (completion config call output).run ⟨left, world.calls ++ [call]⟩ := by
  subst hcall
  rw [compileDefinition_eq bridge definition definitions hbatch, Effect.run_bind,
    hready.run_preparation]
  simp only [Effect.run_bind, run_callRuntime, hbridge]
  rfl

/-! ## Where models come from -/

theorem isName_savedModelFile : Path.IsName savedModelFile := by
  decide

/-- The preparation leaves models as they are. -/
theorem Prepares.fileAt?_modelPath {files ready : FileSystem}
    (h : Prepares definition config files ready) (directory : String) :
    ready.fileAt? (modelPath directory) = files.fileAt? (modelPath directory) :=
  h.alters.fileAt?_join isName_savedModelFile (by decide) directory

/-- If a compilation gives a model, the runtime has left one wherever one is needed.  What it found
there is what was there before the compilation. -/
theorem made_of_ok {model : CompiledModel}
    (hok : ((compileDefinition bridge definition definitions config).run world).1 = .ok model) :
    ∃ ready output left, Prepares definition config world.files ready ∧
      bridge (callOf definition definitions config).script
        (callOf definition definitions config).payload ready = (.ok output, left) ∧
      ∀ directory ∈ modelDirectories config, left.isFile (modelPath directory) = true ∧
        ready.fileAt? (modelPath directory) = world.files.fileAt? (modelPath directory) := by
  have hcontract := (course_compileDefinition bridge definition definitions config world).contract
  rcases hcontract.succeeds_iff.mp ⟨model, hok⟩ with
    ⟨-, ready, output, left, _, hready, hbridge, hcomplete, -⟩
  have hthere := missing?_eq_none_iff.mp (complete_iff.mp hcomplete)
  exact ⟨ready, output, left, hready, hbridge, fun directory hmem =>
    ⟨hthere directory hmem, hready.fileAt?_modelPath directory⟩⟩

theorem placeOf_modelPath_ne (files : FileSystem) (config : CompileConfig) (directory : String) :
    files.placeOf (modelPath directory) ≠ files.placeOf (markerPath config) := by
  have hmarker : Path.IsName markerFile := by decide
  rw [modelPath, markerPath, FileSystem.placeOf_join isName_savedModelFile,
    FileSystem.placeOf_join hmarker]
  intro hsame
  have hlast := congrArg List.getLast? hsame
  rw [List.getLast?_concat, List.getLast?_concat] at hlast
  exact absurd hlast (by decide)

/-- What is done after a call that leaves the files `left`: a missing model is reported, or the
marker is written. -/
theorem run_completion_cases (config : CompileConfig) (call : Call) (output : RuntimeOutput)
    (world : World) :
    (∃ first, missing? config world.files = some first ∧
        (completion config call output).run world = (.error (.missingModel first), world)) ∨
      missing? config world.files = none ∧
        ((∃ fault, (completion config call output).run world =
            (.error (.write (markerPath config) fault), world)) ∨
          ∃ marked, world.files.writeText (markerPath config) (markerText call) = .ok marked ∧
            (completion config call output).run world =
              (.ok (modelOf config call output), { world with files := marked })) := by
  cases hmissing : missing? config world.files with
  | some first => exact Or.inl ⟨first, rfl, run_completion_of_missing? hmissing call output⟩
  | none =>
      refine Or.inr ⟨rfl, ?_⟩
      rw [run_completion_of_complete (complete_iff.mpr hmissing)]
      cases hmark : world.files.writeText (markerPath config) (markerText call) with
      | error fault => exact Or.inl ⟨fault, rfl⟩
      | ok marked => exact Or.inr ⟨marked, rfl, rfl⟩

/-- If no model is missing before the call, each was there before the compilation. -/
theorem Prepares.exists_fileAt?_of_missing? {files ready : FileSystem}
    (h : Prepares definition config files ready) (hnone : missing? config ready = none)
    {directory : String} (hmem : directory ∈ modelDirectories config) :
    ∃ content, files.fileAt? (modelPath directory) = some content := by
  have hthere := missing?_eq_none_iff.mp hnone directory hmem
  rcases FileSystem.exists_fileAt?_of_isFile hthere with ⟨content, hcontent⟩
  exact ⟨content, (h.fileAt?_modelPath directory).symm.trans hcontent⟩

/-- What a compilation gives whose runtime claims success and leaves all files as they are.  It is
an error exactly if a model is missing when the runtime is called, and the first one missing is
named.  So it is an error if there was none before; but if the compilation gives a model, then every
model that it needs was there before, and still is. -/
theorem model_of_idle {ready : FileSystem} {output : RuntimeOutput} {call : Call}
    {run : Except CompileError CompiledModel × World} (hbatch : config.batchSize ≠ 0)
    (hcall : call = callOf definition definitions config)
    (hready : Prepares definition config world.files ready)
    (hidle : bridge call.script call.payload ready = (.ok output, ready))
    (hrun : (compileDefinition bridge definition definitions config).run world = run) :
    (∀ directory, run.1 = .error (.missingModel directory) ↔
        missing? config ready = some directory) ∧
      (∀ directory ∈ modelDirectories config, world.files.fileAt? (modelPath directory) = none →
        ∃ first, missing? config ready = some first ∧
          run = (.error (.missingModel first), ⟨ready, world.calls ++ [call]⟩)) ∧
      ∀ model, run.1 = .ok model → ∀ directory ∈ modelDirectories config, ∃ content,
        world.files.fileAt? (modelPath directory) = some content ∧
          run.2.files.fileAt? (modelPath directory) = some content := by
  rw [run_compileDefinition_of_call definitions hbatch hcall hready hidle] at hrun
  subst hrun
  rcases run_completion_cases config call output ⟨ready, world.calls ++ [call]⟩ with
    ⟨first, hfirst, hrun⟩ | ⟨hnone, hrest⟩
  · rw [hrun, hfirst]
    refine ⟨fun directory => ?_, fun _ _ _ => ⟨first, rfl, rfl⟩, fun _ hok => by cases hok⟩
    simp
  · have hold {directory : String} (hmem : directory ∈ modelDirectories config) :=
      hready.exists_fileAt?_of_missing? hnone hmem
    have hbefore : ∀ directory ∈ modelDirectories config,
        world.files.fileAt? (modelPath directory) ≠ none := by
      intro directory hmem hgone
      rcases hold hmem with ⟨content, hcontent⟩
      simp [hgone] at hcontent
    rcases hrest with ⟨fault, hrun⟩ | ⟨marked, hmark, hrun⟩
    · rw [hrun, hnone]
      refine ⟨fun directory => by simp, fun directory hmem hgone => ?_, fun _ hok => by cases hok⟩
      exact absurd hgone (hbefore directory hmem)
    · rw [hrun, hnone]
      refine ⟨fun directory => by simp, fun directory hmem hgone => ?_,
        fun model _ directory hmem => ?_⟩
      · exact absurd hgone (hbefore directory hmem)
      · rcases hold hmem with ⟨content, hcontent⟩
        refine ⟨content, hcontent, ?_⟩
        calc
          marked.fileAt? (modelPath directory) = ready.fileAt? (modelPath directory) :=
            (FileSystem.alters_of_writeText hmark).fileAt?_eq
              (placeOf_modelPath_ne ready config directory)
          _ = world.files.fileAt? (modelPath directory) := hready.fileAt?_modelPath directory
          _ = some content := hcontent

/-! ## A model left over -/

/-- A model in the directory `out`, and nowhere else. -/
def plainConfig : CompileConfig where
  saveDirectory := "out"

theorem prepares_plain {files : FileSystem} (definition : Json)
    (h : files.isDirectory "out" = true) : Prepares definition plainConfig files files :=
  .plain rfl (FileSystem.makeDirectories_of_isDirectory h)

/-- In an empty directory the model of an idle runtime is missed. -/
theorem model_of_idle_outFiles :
    missing? plainConfig outFiles = some "out" ∧
      (compileDefinition idle (.obj []) [] plainConfig).run ⟨outFiles, []⟩ =
        (.error (.missingModel "out"), ⟨outFiles, [] ++ [callOf (.obj []) [] plainConfig]⟩) := by
  have hready : Prepares (.obj []) plainConfig outFiles outFiles :=
    prepares_plain _ (by decide +kernel)
  have hmissing : missing? plainConfig outFiles = some "out" := by decide +kernel
  have hidle := @model_of_idle idle (.obj []) [] plainConfig ⟨outFiles, []⟩ outFiles {} _ _
    (by decide) rfl hready rfl rfl
  rcases hidle.2.1 "out" (by decide) (by decide +kernel) with ⟨first, hfirst, hrun⟩
  rw [hmissing, Option.some.injEq] at hfirst
  subst hfirst
  exact ⟨hmissing, hrun⟩

/-- A model that an earlier compilation has left in the directory `out`. -/
def staleFiles : FileSystem where
  root := .directory [("out", .directory [(savedModelFile, .file "old".toUTF8 false)])]

/-- An idle runtime is taken to have made the model that was there. -/
theorem idle_accepted :
    (∀ script payload files, idle script payload files = (.ok {}, files)) ∧
      ∃ model files, (compileDefinition idle (.obj []) [] plainConfig).run ⟨staleFiles, []⟩ =
        (.ok model, ⟨files, [callOf (.obj []) [] plainConfig]⟩) := by
  refine ⟨fun _ _ _ => rfl, ?_⟩
  have hready : Prepares (.obj []) plainConfig staleFiles staleFiles :=
    prepares_plain _ (by decide +kernel)
  have hcomplete : Complete plainConfig staleFiles :=
    complete_iff.mpr (by decide +kernel)
  have hentry : staleFiles.locateEntry (markerPath plainConfig) =
      .ok (["out"], some markerFile) := by decide +kernel
  have hmark := writeText_of_missing (markerText (callOf (.obj []) [] plainConfig)) hentry
    (by decide +kernel) rfl
  rcases run_compileDefinition_of_prepares idle [] ⟨staleFiles, []⟩ rfl (by decide) hready with
    ⟨outcome, files, hsettles, hrun⟩
  obtain ⟨model, rfl⟩ := hsettles.ok_iff.mpr ⟨{}, staleFiles, _, rfl, hcomplete, hmark⟩
  exact ⟨model, files, hrun⟩

end Compilation

end LayerNet
