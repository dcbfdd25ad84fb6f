import LayerNet.Proofs.Storage.Changes
import LayerNet.Training.Compilation

/-!
# The course of a compilation

A compilation makes directories and writes the definition, calls the runtime, looks for what the
runtime should have left, and writes a marker.  Each of these steps may be the last.  Whatever the
runtime does, it is called at most once, on files that are ready for it, and what it leaves is kept
when the compilation fails.

Main definitions:

- `Compilation.Prepares`: the steps before the runtime is called.
- `Compilation.Complete`: what the runtime has to leave.
- `Compilation.Settles`: the steps after the call.
- `Compilation.Course`: the ways that a compilation goes.
- `Compilation.Contract`: what can be relied on.

Main results:

- `Prepares.ready`: what the runtime finds.
- `course_compileDefinition`: every compilation goes one of these ways.
- `contract_compile`: every compilation keeps the contract.
-/

namespace LayerNet

/-! ## Steps -/

/-- An action goes on with what the one before it has left of the world, unless that one has
failed. -/
theorem Effect.run_bind {ε α β : Type} (x : Effect ε α) (f : α → Effect ε β) (world : World) :
    (x >>= f).run world =
      match x.run world with
      | (.ok a, world) => (f a).run world
      | (.error e, world) => (.error e, world) := by
  have hbind : (x >>= f).run world =
      let result := x.run world
      (ExceptT.bindCont f result.1).run result.2 := rfl
  rw [hbind]
  cases x.run world with
  | mk result world' => cases result <;> rfl

theorem Effect.run_askFiles {ε α : Type} (question : FileSystem → α) (world : World) :
    (Effect.askFiles (ε := ε) question).run world = (.ok (question world.files), world) :=
  rfl

/-- A call is recorded whatever the bridge answers. -/
theorem Effect.run_adapt_call {ε : Type} (wrap : BridgeError → ε) (bridge : Bridge)
    (script payload : String) (world : World) :
    ((Effect.call bridge script payload).adapt wrap).run world =
      ((bridge script payload world.files).1.mapError wrap,
        ⟨(bridge script payload world.files).2, world.calls ++ [⟨script, payload⟩]⟩) :=
  rfl

namespace Compilation

/-- A write that fails leaves the files as they were. -/
theorem run_writeOutput (path text : String) (world : World) :
    (writeOutput path text).run world =
      match world.files.writeText path text with
      | .ok files => (.ok (), { world with files })
      | .error fault => (.error (.write path fault), world) := by
  simp only [writeOutput, Effect.replaceFiles, Effect.onFiles, ExceptT.run, ExceptT.mk]
  cases world.files.writeText path text <;> rfl

/-- Directories that were made on the way stay, also if one of them cannot be made. -/
theorem run_makeOutputDirectory (path : String) (world : World) :
    (makeOutputDirectory path).run world =
      match world.files.makeDirectories path with
      | (.ok (), files) => (.ok (), { world with files })
      | (.error fault, files) => (.error (.write path fault), { world with files }) := by
  have hrun : (makeOutputDirectory path).run world =
      ((world.files.makeDirectories path).1.mapError (.write path),
        { world with files := (world.files.makeDirectories path).2 }) := rfl
  rw [hrun]
  cases world.files.makeDirectories path with
  | mk result files => cases result <;> rfl

/-- Looking for the model changes nothing. -/
theorem run_requireModel (directory : String) (world : World) :
    (requireModel directory).run world =
      (if world.files.isFile (Path.join directory savedModelFile) then .ok ()
        else .error (.missingModel directory), world) := by
  unfold requireModel
  rw [Effect.run_bind, Effect.run_askFiles]
  cases world.files.isFile (Path.join directory savedModelFile) <;> rfl

theorem run_callRuntime (bridge : Bridge) (script payload : String) (world : World) :
    (callRuntime bridge script payload).run world =
      ((bridge script payload world.files).1.mapError .bridge,
        ⟨(bridge script payload world.files).2, world.calls ++ [⟨script, payload⟩]⟩) :=
  Effect.run_adapt_call CompileError.bridge bridge script payload world

/-! ## Before the call -/

/-- Making the directories and writing the definition. -/
def preparation (definition : Json) (config : CompileConfig) : Effect CompileError Unit := do
  if let some directory := config.infoDirectory then
    makeOutputDirectory directory
    writeOutput (Path.join directory definitionFile) definition.sorted.spread
  makeOutputDirectory config.saveDirectory

/-- The directories could be made and the definition could be written, where descriptions are
wanted; `ready` are the files then. -/
inductive Prepares (definition : Json) (config : CompileConfig) (files ready : FileSystem) :
    Prop where
  | plain (hinfo : config.infoDirectory = none)
      (hsave : files.makeDirectories config.saveDirectory = (.ok (), ready))
  | described {directory : String} {made written : FileSystem}
      (hinfo : config.infoDirectory = some directory)
      (hmade : files.makeDirectories directory = (.ok (), made))
      (hwritten : made.writeText (Path.join directory definitionFile) definition.sorted.spread =
        .ok written)
      (hsave : written.makeDirectories config.saveDirectory = (.ok (), ready))

variable {definition : Json} {config : CompileConfig}

/-- If the directories are made and the definition is written, that is all. -/
theorem Prepares.run_preparation {world : World} {ready : FileSystem}
    (h : Prepares definition config world.files ready) :
    (preparation definition config).run world = (.ok (), { world with files := ready }) := by
  cases h with
  | plain hinfo hsave =>
      simp only [preparation, hinfo, run_makeOutputDirectory, hsave]
  | described hinfo hmade hwritten hsave =>
      simp only [preparation, hinfo, Effect.run_bind, run_makeOutputDirectory, hmade,
        run_writeOutput, hwritten, hsave]

/-- A preparation is one of the steps of `Prepares`, or ends in an error of its own with no call
made. -/
theorem run_preparation_cases (definition : Json) (config : CompileConfig) (world : World) :
    (∃ ready, Prepares definition config world.files ready ∧
        (preparation definition config).run world = (.ok (), { world with files := ready })) ∨
      ∃ path fault left, (preparation definition config).run world =
        (.error (.write path fault), { world with files := left }) := by
  cases hinfo : config.infoDirectory with
  | none =>
      simp only [preparation, hinfo, run_makeOutputDirectory]
      cases hsave : world.files.makeDirectories config.saveDirectory with
      | mk result ready =>
          cases result with
          | ok => exact Or.inl ⟨ready, .plain hinfo hsave, rfl⟩
          | error fault => exact Or.inr ⟨_, fault, ready, rfl⟩
  | some directory =>
      simp only [preparation, hinfo, Effect.run_bind, run_makeOutputDirectory, run_writeOutput]
      cases hmade : world.files.makeDirectories directory with
      | mk result made =>
          cases result with
          | error fault => exact Or.inr ⟨_, fault, made, rfl⟩
          | ok =>
              simp only
              cases hwritten : made.writeText (Path.join directory definitionFile)
                  definition.sorted.spread with
              | error fault => exact Or.inr ⟨_, fault, made, rfl⟩
              | ok written =>
                  simp only
                  cases hsave : written.makeDirectories config.saveDirectory with
                  | mk result ready =>
                      cases result with
                      | ok => exact Or.inl ⟨ready, .described hinfo hmade hwritten hsave, rfl⟩
                      | error fault => exact Or.inr ⟨_, fault, ready, rfl⟩

/-- The files that the runtime is called on: the directory of the model is there, unless no path was
given for it, and the description holds the definition. -/
theorem Prepares.isDirectory {files ready : FileSystem}
    (h : Prepares definition config files ready) :
    config.saveDirectory = "" ∨ ready.isDirectory config.saveDirectory = true := by
  cases h with
  | plain hinfo hsave => exact (FileSystem.makeDirectories_spec hsave).2 rfl
  | described hinfo hmade hwritten hsave => exact (FileSystem.makeDirectories_spec hsave).2 rfl

/-- The document is in its place before the runtime is called. -/
theorem Prepares.holds {files ready : FileSystem} (h : Prepares definition config files ready)
    {directory : String} (hinfo : config.infoDirectory = some directory) :
    ready.Holds (Path.join directory definitionFile) definition.sorted.spread := by
  cases h with
  | plain hnone => simp [hinfo] at hnone
  | described hsome _ hwritten hsave =>
      rw [hinfo, Option.some.injEq] at hsome
      subst hsome
      have hspares : FileSystem.Spares _ ready := (FileSystem.makeDirectories_spec hsave).1
      exact hspares.holds (FileSystem.holds_of_writeText hwritten)

/-! ## After the call -/

/-- What the runtime is given. -/
def callOf (definition : Json) (definitions : List String) (config : CompileConfig) : Call where
  script := Script.training definitions
  payload := (config.payload definition).compact

/-- The path of the marker. -/
def markerPath (config : CompileConfig) : String :=
  Path.join config.saveDirectory markerFile

/-- The lines of the marker: the version, and the digest of what the runtime was given. -/
def markerText (call : Call) : String :=
  programVersion ++ "\n" ++ fingerprint call.script call.payload ++ "\n"

/-- The model that a compilation gives. -/
def modelOf (config : CompileConfig) (call : Call) (output : RuntimeOutput) : CompiledModel where
  directory := config.saveDirectory
  signatures := modelSignatures
  log := output.stdout
  fingerprint := fingerprint call.script call.payload

/-- Looking for what the runtime has left, and writing the marker. -/
def completion (config : CompileConfig) (call : Call) (output : RuntimeOutput) :
    Effect CompileError CompiledModel := do
  requireModel config.saveDirectory
  if config.cpuInference then
    requireModel (Path.join config.saveDirectory cpuDirectory)
  writeOutput (markerPath config) (markerText call)
  return modelOf config call output

/-- The files that the runtime has to leave are there. -/
def Complete (config : CompileConfig) (files : FileSystem) : Prop :=
  files.isFile (Path.join config.saveDirectory savedModelFile) = true ∧
    (config.cpuInference = true →
      files.isFile (Path.join (Path.join config.saveDirectory cpuDirectory) savedModelFile) = true)

/-- What comes of the result of the call and of the files that the runtime has left. -/
inductive Settles (config : CompileConfig) (call : Call) :
    Except BridgeError RuntimeOutput × FileSystem → Except CompileError CompiledModel × FileSystem →
      Prop where
  | failed {error : BridgeError} {left : FileSystem} :
      Settles config call (.error error, left) (.error (.bridge error), left)
  | incomplete {output : RuntimeOutput} {left : FileSystem} {directory : String}
      (h : ¬Complete config left) :
      Settles config call (.ok output, left) (.error (.missingModel directory), left)
  | unmarked {output : RuntimeOutput} {left : FileSystem} {fault : FileFault}
      (hcomplete : Complete config left)
      (hmark : left.writeText (markerPath config) (markerText call) = .error fault) :
      Settles config call (.ok output, left) (.error (.write (markerPath config) fault), left)
  | done {output : RuntimeOutput} {left marked : FileSystem} (hcomplete : Complete config left)
      (hmark : left.writeText (markerPath config) (markerText call) = .ok marked) :
      Settles config call (.ok output, left) (.ok (modelOf config call output), marked)

/-- With the models there, all that is left is the marker. -/
theorem run_completion_of_complete {world : World} (h : Complete config world.files) (call : Call)
    (output : RuntimeOutput) :
    (completion config call output).run world =
      match world.files.writeText (markerPath config) (markerText call) with
      | .ok marked => (.ok (modelOf config call output), { world with files := marked })
      | .error fault => (.error (.write (markerPath config) fault), world) := by
  have hmarking : (completion config call output).run world =
      (writeOutput (markerPath config) (markerText call) >>= fun _ =>
        pure (modelOf config call output)).run world := by
    unfold completion
    rw [Effect.run_bind, run_requireModel, if_pos h.1]
    cases hcpu : config.cpuInference with
    | false => rfl
    | true =>
        simp only [if_true, Effect.run_bind, run_requireModel, if_pos (h.2 hcpu)]
  rw [hmarking, Effect.run_bind, run_writeOutput]
  cases world.files.writeText (markerPath config) (markerText call) <;> rfl

/-- Without one of the models that is said, and nothing is written. -/
theorem run_completion_of_not_complete {world : World} (h : ¬Complete config world.files)
    (call : Call) (output : RuntimeOutput) :
    ∃ directory, (completion config call output).run world =
      (.error (.missingModel directory), world) := by
  simp only [completion, Effect.run_bind, run_requireModel]
  cases hmodel : world.files.isFile (Path.join config.saveDirectory savedModelFile) with
  | false => exact ⟨config.saveDirectory, rfl⟩
  | true =>
      cases hcpu : config.cpuInference with
      | false => exact absurd ⟨hmodel, fun hon => by simp [hcpu] at hon⟩ h
      | true =>
          have hcopy : world.files.isFile
              (Path.join (Path.join config.saveDirectory cpuDirectory) savedModelFile) = false :=
            Bool.eq_false_iff.mpr fun hcopy => h ⟨hmodel, fun _ => hcopy⟩
          refine ⟨Path.join config.saveDirectory cpuDirectory, ?_⟩
          simp [Effect.run_bind, run_requireModel, hcopy]

/-- What is done after a call that succeeded. -/
theorem run_completion (config : CompileConfig) (call : Call) (output : RuntimeOutput)
    (world : World) :
    ∃ outcome files, Settles config call (.ok output, world.files) (outcome, files) ∧
      (completion config call output).run world = (outcome, { world with files := files }) := by
  by_cases h : Complete config world.files
  · rw [run_completion_of_complete h]
    cases hmark : world.files.writeText (markerPath config) (markerText call) with
    | ok marked => exact ⟨_, _, .done h hmark, rfl⟩
    | error fault => exact ⟨_, _, .unmarked h hmark, rfl⟩
  · rcases run_completion_of_not_complete h call output with ⟨directory, hrun⟩
    exact ⟨_, _, .incomplete h, hrun⟩

/-! ## The whole course -/

/-- With a positive batch size the compilation is its preparation, one call and its completion. -/
theorem compileDefinition_eq (bridge : Bridge) (definition : Json) (definitions : List String)
    {config : CompileConfig} (hbatch : config.batchSize ≠ 0) :
    compileDefinition bridge definition definitions config = (do
      preparation definition config
      let call := callOf definition definitions config
      let output ← callRuntime bridge call.script call.payload
      completion config call output) := by
  unfold compileDefinition preparation
  rw [if_neg hbatch]
  cases config.infoDirectory with
  | none => rfl
  | some directory =>
      simp only [bind_assoc]
      rfl

/-- The ways that a compilation goes: nothing is done, or the runtime is not called since files
could not be prepared for it, or it is called once. -/
inductive Course (bridge : Bridge) (definition : Json) (definitions : List String)
    (config : CompileConfig) (world : World) :
    Except CompileError CompiledModel × World → Prop where
  | refused (hbatch : config.batchSize = 0) :
      Course bridge definition definitions config world (.error .batchSize, world)
  | unprepared {path : String} {fault : FileFault} {left : FileSystem}
      (hbatch : config.batchSize ≠ 0)
      (hrun : (preparation definition config).run world =
        (.error (.write path fault), { world with files := left })) :
      Course bridge definition definitions config world
        (.error (.write path fault), { world with files := left })
  | called {ready files : FileSystem} {outcome : Except CompileError CompiledModel} {call : Call}
      (hcall : call = callOf definition definitions config) (hbatch : config.batchSize ≠ 0)
      (hready : Prepares definition config world.files ready)
      (hsettles : Settles config call (bridge call.script call.payload ready) (outcome, files)) :
      Course bridge definition definitions config world (outcome, ⟨files, world.calls ++ [call]⟩)

/-- A batch size of zero is refused before anything is touched. -/
theorem run_compileDefinition_of_batchSize_eq (bridge : Bridge) (definitions : List String)
    (world : World) (hbatch : config.batchSize = 0) :
    (compileDefinition bridge definition definitions config).run world =
      (.error .batchSize, world) := by
  unfold compileDefinition
  rw [if_pos hbatch]
  rfl

/-- What cannot be prepared is not compiled: the runtime is not called. -/
theorem run_compileDefinition_of_unprepared (bridge : Bridge) (definitions : List String)
    {world after : World} {error : CompileError} (hbatch : config.batchSize ≠ 0)
    (hrun : (preparation definition config).run world = (.error error, after)) :
    (compileDefinition bridge definition definitions config).run world = (.error error, after) := by
  rw [compileDefinition_eq bridge definition definitions hbatch, Effect.run_bind, hrun]

/-- What is prepared is compiled by one call, with the script and the payload of `callOf`. -/
theorem run_compileDefinition_of_prepares (bridge : Bridge) (definitions : List String)
    (world : World) {ready : FileSystem} {call : Call}
    (hcall : call = callOf definition definitions config) (hbatch : config.batchSize ≠ 0)
    (hready : Prepares definition config world.files ready) :
    ∃ outcome files,
      Settles config call (bridge call.script call.payload ready) (outcome, files) ∧
        (compileDefinition bridge definition definitions config).run world =
          (outcome, ⟨files, world.calls ++ [call]⟩) := by
  subst hcall
  rw [compileDefinition_eq bridge definition definitions hbatch, Effect.run_bind,
    hready.run_preparation]
  simp only [Effect.run_bind, run_callRuntime]
  cases hresult : bridge (callOf definition definitions config).script
      (callOf definition definitions config).payload ready with
  | mk result left =>
      cases result with
      | error error => exact ⟨_, _, .failed, rfl⟩
      | ok output => exact run_completion config _ output ⟨left, _⟩

/-- Every compilation goes one of these ways. -/
theorem course_compileDefinition (bridge : Bridge) (definition : Json) (definitions : List String)
    (config : CompileConfig) (world : World) :
    Course bridge definition definitions config world
      ((compileDefinition bridge definition definitions config).run world) := by
  by_cases hbatch : config.batchSize = 0
  · rw [run_compileDefinition_of_batchSize_eq bridge definitions world hbatch]
    exact .refused hbatch
  · rcases run_preparation_cases definition config world with
      ⟨ready, hready, -⟩ | ⟨path, fault, left, hrun⟩
    · rcases run_compileDefinition_of_prepares bridge definitions world rfl hbatch hready with
        ⟨outcome, files, hsettles, hrun⟩
      rw [hrun]
      exact .called rfl hbatch hready hsettles
    · rw [run_compileDefinition_of_unprepared bridge definitions hbatch hrun]
      exact .unprepared hbatch hrun

/-! ## What can be relied on -/

/-- What a compilation guarantees, whatever the files are and whatever the runtime does. -/
structure Contract (bridge : Bridge) (definition : Json) (definitions : List String)
    (config : CompileConfig) (world : World) (run : Except CompileError CompiledModel × World) :
    Prop where
  /-- without a batch nothing is done -/
  refused : config.batchSize = 0 → run = (.error .batchSize, world)
  /-- otherwise the runtime is not called, and makes no difference, or it is called once, on files
  where the directory of the model is there and the description holds the definition -/
  called : config.batchSize ≠ 0 →
    (run.2.calls = world.calls ∧ (∃ path fault, run.1 = .error (.write path fault)) ∧
        ∀ other : Bridge, (compileDefinition other definition definitions config).run world = run) ∨
      (run.2.calls = world.calls ++ [callOf definition definitions config] ∧
        ∃ ready, Prepares definition config world.files ready ∧
          (config.saveDirectory = "" ∨ ready.isDirectory config.saveDirectory = true) ∧
          ∀ directory ∈ config.infoDirectory,
            ready.Holds (Path.join directory definitionFile) definition.sorted.spread)
  /-- a model is given if no step fails, and only then -/
  succeeds_iff : (∃ model, run.1 = .ok model) ↔
    config.batchSize ≠ 0 ∧ ∃ ready output left marked,
      Prepares definition config world.files ready ∧
      bridge (callOf definition definitions config).script
        (callOf definition definitions config).payload ready = (.ok output, left) ∧
      Complete config left ∧
      left.writeText (markerPath config) (markerText (callOf definition definitions config)) =
        .ok marked
  /-- with a model there is the marker of what the runtime was given, and it is all that was changed
  after the call -/
  marked : ∀ model, run.1 = .ok model →
    run.2.calls = world.calls ++ [callOf definition definitions config] ∧
      run.2.files.Holds (markerPath config) (markerText (callOf definition definitions config)) ∧
      ∃ ready output left, Prepares definition config world.files ready ∧
        bridge (callOf definition definitions config).script
          (callOf definition definitions config).payload ready = (.ok output, left) ∧
        left.writeText (markerPath config) (markerText (callOf definition definitions config)) =
          .ok run.2.files ∧
        model = modelOf config (callOf definition definitions config) output
  /-- a failure after the call leaves the files as the runtime has left them -/
  kept : ∀ error, run.1 = .error error →
    run.2.calls = world.calls ++ [callOf definition definitions config] →
      ∃ ready, Prepares definition config world.files ready ∧
        run.2.files = (bridge (callOf definition definitions config).script
          (callOf definition definitions config).payload ready).2

/-- What a runtime finds is determined by what was there before. -/
theorem Prepares.eq {files ready ready' : FileSystem} (h : Prepares definition config files ready)
    (h' : Prepares definition config files ready') : ready = ready' := by
  have hrun (ready : FileSystem) (h : Prepares definition config files ready) :
      (preparation definition config).run ⟨files, []⟩ = (.ok (), ⟨ready, []⟩) := h.run_preparation
  have hsame := (hrun ready h).symm.trans (hrun ready' h')
  exact congrArg (fun result => result.2.files) hsame

/-- A model comes out exactly if the runtime has not failed, its files are there, and the marker can
be written. -/
theorem Settles.ok_iff {call : Call} {result : Except BridgeError RuntimeOutput × FileSystem}
    {outcome : Except CompileError CompiledModel} {files : FileSystem}
    (h : Settles config call result (outcome, files)) :
    (∃ model, outcome = .ok model) ↔
      ∃ output left marked, result = (.ok output, left) ∧ Complete config left ∧
        left.writeText (markerPath config) (markerText call) = .ok marked := by
  cases h with
  | failed => simp
  | @incomplete output left directory hmissing => simp [hmissing]
  | unmarked hcomplete hmark => simp [hcomplete, hmark]
  | @done output left marked hcomplete hmark => simp [hcomplete, hmark]

/-- A model that comes out is marked. -/
theorem Settles.exists_of_ok {call : Call} {result : Except BridgeError RuntimeOutput × FileSystem}
    {model : CompiledModel} {files : FileSystem}
    (h : Settles config call result (.ok model, files)) :
    ∃ output left, result = (.ok output, left) ∧
      left.writeText (markerPath config) (markerText call) = .ok files ∧
      model = modelOf config call output := by
  cases h with
  | done hcomplete hmark => exact ⟨_, _, rfl, hmark, rfl⟩

/-- An error leaves the files as the runtime has left them, without a marker. -/
theorem Settles.eq_of_error {call : Call} {result : Except BridgeError RuntimeOutput × FileSystem}
    {error : CompileError} {files : FileSystem}
    (h : Settles config call result (.error error, files)) : files = result.2 := by
  cases h <;> rfl

/-- Whichever way a compilation goes, it keeps the contract. -/
theorem Course.contract {bridge : Bridge} {definitions : List String} {world : World}
    {run : Except CompileError CompiledModel × World}
    (h : Course bridge definition definitions config world run) :
    Contract bridge definition definitions config world run := by
  cases h with
  | refused hbatch =>
      exact {
        refused := fun _ => rfl
        called := fun hpositive => absurd hbatch hpositive
        succeeds_iff := by simp [hbatch]
        marked := by simp
        kept := by simp }
  | @unprepared path fault left hbatch hrun =>
      have hnever {ready : FileSystem} : ¬Prepares definition config world.files ready := by
        intro hready
        rw [hready.run_preparation] at hrun
        cases hrun
      exact {
        refused := fun hzero => absurd hzero hbatch
        called := fun _ => Or.inl ⟨rfl, ⟨path, fault, rfl⟩, fun other =>
          run_compileDefinition_of_unprepared other definitions hbatch hrun⟩
        succeeds_iff := by simp [hnever]
        marked := by simp
        kept := by simp }
  | @called ready files outcome call hcall hbatch hready hsettles =>
      subst hcall
      exact {
        refused := fun hzero => absurd hzero hbatch
        called := fun _ => Or.inr
          ⟨rfl, ready, hready, hready.isDirectory, fun directory hinfo => hready.holds hinfo⟩
        succeeds_iff := by
          refine hsettles.ok_iff.trans ⟨?_, ?_⟩
          · rintro ⟨output, left, marked, hresult, hcomplete, hmark⟩
            exact ⟨hbatch, ready, output, left, marked, hready, hresult, hcomplete, hmark⟩
          · rintro ⟨-, ready', output, left, marked, hready', hresult, hcomplete, hmark⟩
            rw [← hready.eq hready'] at hresult
            exact ⟨output, left, marked, hresult, hcomplete, hmark⟩
        marked := by
          rintro model rfl
          rcases hsettles.exists_of_ok with ⟨output, left, hresult, hmark, hmodel⟩
          exact ⟨rfl, FileSystem.holds_of_writeText hmark,
            ready, output, left, hready, hresult, hmark, hmodel⟩
        kept := by
          rintro error rfl -
          exact ⟨ready, hready, hsettles.eq_of_error⟩ }

/-- A network that cannot be assembled leaves the world as it is. -/
theorem run_compileNetwork_of_error (bridge : Bridge) {net : Network} {outputs : List LayerId}
    (config : CompileConfig) (world : World) {error : NetworkError}
    (h : net.assemble outputs = .error error) :
    (compileNetwork bridge net outputs config).run world = (.error (.network error), world) := by
  unfold compileNetwork
  rw [h]
  rfl

/-- A network is compiled as the document of its assembly. -/
theorem run_compileNetwork_of_ok (bridge : Bridge) {net : Network} {outputs : List LayerId}
    (config : CompileConfig) (world : World) {assembly : Assembly}
    (h : net.assemble outputs = .ok assembly) :
    (compileNetwork bridge net outputs config).run world =
      (compileDefinition bridge assembly.definition.toJson assembly.definitions config).run
        world := by
  unfold compileNetwork
  rw [h]
  rfl

/-- Every compilation of a definition keeps the contract, and so does every compilation of a network
that can be assembled; if it cannot, nothing is done. -/
theorem contract_compile (bridge : Bridge) (config : CompileConfig) (world : World) :
    (∀ definition definitions, Contract bridge definition definitions config world
        ((compileDefinition bridge definition definitions config).run world)) ∧
      ∀ (net : Network) (outputs : List LayerId),
        match net.assemble outputs with
        | .error error =>
          (compileNetwork bridge net outputs config).run world = (.error (.network error), world)
        | .ok assembly =>
          Contract bridge assembly.definition.toJson assembly.definitions config world
            ((compileNetwork bridge net outputs config).run world) := by
  refine ⟨fun definition definitions =>
    (course_compileDefinition bridge definition definitions config world).contract, ?_⟩
  intro net outputs
  cases hassemble : net.assemble outputs with
  | error error => exact run_compileNetwork_of_error bridge config world hassemble
  | ok assembly =>
      simp only
      rw [run_compileNetwork_of_ok bridge config world hassemble]
      exact (course_compileDefinition bridge _ _ config world).contract

/-! ## The empty path and devices -/

/-- A runtime that does nothing. -/
def idle : Bridge :=
  fun _ _ files => (.ok {}, files)

/-- A model in the directory `out`, with devices in the places of its description and its marker. -/
def deviceFiles : FileSystem where
  root := .directory [("out", .directory
    [("kgraph-version", .device .null), ("model.json", .device .null),
      ("saved_model.pb", .file .empty false)])]

/-- A model with its description in the directory `out`. -/
def outConfig : CompileConfig where
  saveDirectory := "out"
  infoDirectory := some "out"

/-- A device that takes a text keeps nothing of it. -/
theorem writeText_of_device {files : FileSystem} {path part : String} {place : List String}
    {device : Device} {text : String} (htakes : device.takes text.toUTF8 = true)
    (hentry : files.locateEntry path = .ok (place, some part))
    (hslash : Path.endsWithSlash path = false)
    (hdevice : files.node? (place ++ [part]) = some (.device device)) :
    files.writeText path text = .ok files := by
  simpa [FileSystem.writeText, FileSystem.write, hentry, hslash, hdevice, bind, Except.bind, pure,
    Except.pure] using htakes

theorem writeText_of_missing {files : FileSystem} {path part : String} {place : List String}
    (text : String) (hentry : files.locateEntry path = .ok (place, some part))
    (hslash : Path.endsWithSlash path = false) (hmissing : files.node? (place ++ [part]) = none) :
    files.writeText path text =
      .ok (files.putNode (place ++ [part]) (.file text.toUTF8 false)) := by
  simp [FileSystem.writeText, FileSystem.write, hentry, hslash, hmissing, bind, Except.bind, pure,
    Except.pure]

theorem read_ne_of_device {files : FileSystem} {path text : String} {place : List String}
    {device : Device} (h : files.locate path = .ok (place, .device device)) (htext : text ≠ "") :
    files.read path ≠ .ok text.toUTF8 := by
  intro hread
  have hempty : text.toUTF8 = "".toUTF8 := by
    simp only [FileSystem.read, h, bind, Except.bind, pure, Except.pure] at hread
    split_ifs at hread
    exact (Except.ok.inj hread).symm
  exact htext (String.toByteArray_inj.mp hempty)

/-- The preparation succeeds although the document goes to a device. -/
theorem prepares_deviceFiles (definition : Json) :
    Prepares definition outConfig deviceFiles deviceFiles := by
  have hmade : deviceFiles.makeDirectories "out" = (.ok (), deviceFiles) :=
    FileSystem.makeDirectories_of_isDirectory (by decide +kernel)
  have hentry : deviceFiles.locateEntry (Path.join "out" definitionFile) =
      .ok (["out"], some "model.json") := by decide +kernel
  exact .described rfl hmade (writeText_of_device rfl hentry (by decide +kernel) rfl) hmade

/-- Without a path for the model the runtime is called though there is no such directory.  Devices
take the definition and the marker, and keep neither. -/
theorem unkept_examples :
    (∃ ready, Prepares (.obj []) { saveDirectory := "" } {} ready ∧
        ((compileDefinition idle (.obj []) [] { saveDirectory := "" }).run {}).2.calls =
          [callOf (.obj []) [] { saveDirectory := "" }] ∧
        ready.isDirectory "" = false) ∧
      (Prepares (.obj []) outConfig deviceFiles deviceFiles ∧
        deviceFiles.read (Path.join "out" definitionFile) ≠
          .ok (Json.obj []).sorted.spread.toUTF8) ∧
      ∃ model files, (compileDefinition idle (.obj []) [] outConfig).run ⟨deviceFiles, []⟩ =
          (.ok model, ⟨files, [callOf (.obj []) [] outConfig]⟩) ∧
        files.read (markerPath outConfig) ≠
          .ok (markerText (callOf (.obj []) [] outConfig)).toUTF8 := by
  have hempty : ({} : FileSystem).makeDirectories "" = (.ok (), {}) := by
    rw [FileSystem.makeDirectories, if_pos (by decide)]
  have hdefinition : deviceFiles.locate (Path.join "out" definitionFile) =
      .ok (["out", "model.json"], .device .null) :=
    FileSystem.locate_eq_ok_iff.mpr ⟨by decide +kernel, by decide +kernel, rfl, by decide +kernel⟩
  have hmarker : deviceFiles.locate (markerPath outConfig) =
      .ok (["out", "kgraph-version"], .device .null) :=
    FileSystem.locate_eq_ok_iff.mpr ⟨by decide +kernel, by decide +kernel, rfl, by decide +kernel⟩
  have hmark (text : String) :
      deviceFiles.writeText (markerPath outConfig) text = .ok deviceFiles := by
    have hentry : deviceFiles.locateEntry (markerPath outConfig) =
      .ok (["out"], some "kgraph-version") := by decide +kernel
    exact writeText_of_device rfl hentry (by decide +kernel) rfl
  have hcomplete : Complete outConfig deviceFiles :=
    ⟨by decide +kernel, fun hcpu => absurd hcpu (by decide)⟩
  refine ⟨⟨{}, .plain rfl hempty, ?_, by decide +kernel⟩,
    ⟨prepares_deviceFiles _, read_ne_of_device hdefinition (by decide +kernel)⟩, ?_⟩
  · rcases run_compileDefinition_of_prepares idle [] {} rfl (by decide)
      (.plain rfl hempty : Prepares (.obj []) { saveDirectory := "" } {} {}) with
      ⟨outcome, files, -, hrun⟩
    rw [hrun]
    rfl
  · rcases run_compileDefinition_of_prepares idle [] ⟨deviceFiles, []⟩ rfl (by decide)
      (prepares_deviceFiles (.obj [])) with ⟨outcome, files, hsettles, hrun⟩
    obtain ⟨model, rfl⟩ :=
      hsettles.ok_iff.mpr ⟨{}, deviceFiles, deviceFiles, rfl, hcomplete, hmark _⟩
    refine ⟨model, files, hrun, ?_⟩
    have hfiles : files = deviceFiles := by
      cases hsettles with
      | done _ hmarked => exact (Except.ok.inj ((hmark _).symm.trans hmarked)).symm
    rw [hfiles]
    exact read_ne_of_device hmarker (by simp [markerText])

end Compilation

end LayerNet
