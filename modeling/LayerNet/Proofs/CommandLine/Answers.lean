import LayerNet.CommandLine.Commands
import LayerNet.Proofs.Program
import LayerNet.Proofs.SavedGraph.Loading
import LayerNet.Proofs.Training.SavedModels

/-!
# What a run of the program leaves

For every host that starts programs: a run tells by its status whether it has done what it was asked
to, and only then writes to the standard output; the current directory stays.  A compilation
succeeds just if its runtime can be used and gives a model, and then the fingerprint that is written
is that of the marker.

Main definitions:

- `Outcome.Tells`: the outcomes that there are.
- `CompileRequest.Course`, `DecompileRequest.Course`: the ways that a request can go.

Main results:

- `CompileRequest.answer_code_eq_zero_iff`: which compilations succeed.
- `CompileRequest.marker_of_answer`: what one that succeeds writes and leaves.
- `DecompileRequest.statements_of_answer`: where the statements of a graph are written to.
- `answer_tells`: what is written where, with which status.
- `current_answer`: the current directory stays.
-/

namespace LayerNet

/-! ## The current directory -/

section Current

variable {bridge : Bridge}

/-- A compilation leaves the current directory if its runtime does. -/
theorem Compilation.current_compileDefinition
    (hbridge : ∀ script payload files, (bridge script payload files).2.current = files.current)
    (definition : Json) (definitions : List String) (config : CompileConfig) (world : World) :
    ((compileDefinition bridge definition definitions config).run world).2.files.current =
      world.files.current := by
  have hcourse := course_compileDefinition bridge definition definitions config world
  generalize (compileDefinition bridge definition definitions config).run world = run at hcourse
  cases hcourse with
  | refused => rfl
  | @unprepared path fault left _ hrun =>
      have halters := alters_preparation definition config world
      rw [hrun] at halters
      exact halters.makes.current
  | @called ready files outcome call _ _ hready hsettles =>
      have hleft := (hbridge call.script call.payload ready).trans hready.alters.makes.current
      cases outcome with
      | error error => rw [← hleft, hsettles.eq_of_error]
      | ok model =>
          rcases hsettles.exists_of_ok with ⟨output, left, hresult, hmark, -⟩
          rw [hresult] at hleft
          exact (FileSystem.alters_of_writeText hmark).makes.current.trans hleft

/-- Loading a graph leaves the current directory if the runtime does. -/
theorem current_loadGraph
    (hbridge : ∀ script payload files, (bridge script payload files).2.current = files.current)
    (directory : String) (world : World) :
    ((loadGraph bridge directory).run world).2.files.current = world.files.current := by
  rw [run_loadGraph]
  split
  · rfl
  · rw [run_loadThrough]
    split
    · exact hbridge _ _ _
    · rfl

end Current

namespace CommandLine

open Compilation

/-! ## Outcomes -/

/-- The outcomes that there are: something is done; it goes wrong behind what was said before; or
the arguments are no request. -/
inductive Outcome.Tells : Outcome → Prop where
  | done (stdout stderr : String) : Tells { stdout, stderr }
  | failed (message said : String) : Tells (.failure message said)
  | misused (stderr : String) : Tells { code := 2, stderr }

/-- What goes wrong is told on the standard error only. -/
theorem Outcome.Tells.stdout_eq {outcome : Outcome} (h : outcome.Tells) (hcode : outcome.code ≠ 0) :
    outcome.stdout = "" := by
  cases h with
  | done => exact absurd rfl hcode
  | failed => rfl
  | misused => rfl

variable [Host] {environment : Table String} {files : FileSystem}

/-! ## Compilation -/

namespace CompileRequest

variable {r : CompileRequest}

/-- The ways that a compilation can go. -/
inductive Course (environment : Table String) (r : CompileRequest) (files : FileSystem) :
    Outcome × FileSystem → Prop where
  | unprepared {message : String} (hprepare : r.prepare files = .error message) :
      Course environment r files (.failure message "", files)
  | unavailable {settings : Settings} {config : CompileConfig} {definition : Json}
      {left : FileSystem} {message : String}
      (hprepare : r.prepare files = .ok (settings, config, definition))
      (hruntime : (interpreterOf environment settings).isAvailable files = (false, left)) :
      Course environment r files (.failure message "", left)
  | failed {settings : Settings} {config : CompileConfig} {definition : Json} {ready : FileSystem}
      {error : CompileError} {world : World} {said : String}
      (hprepare : r.prepare files = .ok (settings, config, definition))
      (hruntime : (interpreterOf environment settings).isAvailable files = (true, ready))
      (hrun : (compileDefinition (interpreterOf environment settings).bridge definition []
        config).run ⟨ready, []⟩ = (.error error, world)) :
      Course environment r files (.failure error.message said, world.files)
  | done {settings : Settings} {config : CompileConfig} {definition : Json} {ready : FileSystem}
      {model : CompiledModel} {world : World} {said : String}
      (hprepare : r.prepare files = .ok (settings, config, definition))
      (hruntime : (interpreterOf environment settings).isAvailable files = (true, ready))
      (hrun : (compileDefinition (interpreterOf environment settings).bridge definition []
        config).run ⟨ready, []⟩ = (.ok model, world)) :
      Course environment r files (⟨0, model.fingerprint ++ "\n", said⟩, world.files)

theorem course_answer (environment : Table String) (r : CompileRequest) (files : FileSystem) :
    Course environment r files (r.answer environment files) := by
  unfold answer
  cases hprepare : r.prepare files with
  | error message => exact .unprepared hprepare
  | ok prepared =>
      rcases prepared with ⟨settings, config, definition⟩
      simp only
      cases hruntime : (interpreterOf environment settings).isAvailable files with
      | mk available ready =>
          cases available with
          | false => exact .unavailable hprepare hruntime
          | true =>
              simp only
              cases hrun : (compileDefinition (interpreterOf environment settings).bridge definition
                  [] config).run ⟨ready, []⟩ with
              | mk result world =>
                  cases result with
                  | error error => exact .failed hprepare hruntime hrun
                  | ok model => exact .done hprepare hruntime hrun

/-- A compilation succeeds just if it is prepared, its runtime can be used, and a model is given. -/
theorem answer_code_eq_zero_iff : (r.answer environment files).1.code = 0 ↔
    ∃ settings config definition ready model world,
      r.prepare files = .ok (settings, config, definition) ∧
      (interpreterOf environment settings).isAvailable files = (true, ready) ∧
      (compileDefinition (interpreterOf environment settings).bridge definition [] config).run
        ⟨ready, []⟩ = (.ok model, world) := by
  have hcourse := course_answer environment r files
  generalize r.answer environment files = answered at hcourse
  cases hcourse with
  | unprepared hprepare => simp [hprepare, Outcome.failure]
  | unavailable hprepare hruntime => simp [hprepare, hruntime, Outcome.failure]
  | failed hprepare hruntime hrun =>
      refine iff_of_false Nat.one_ne_zero ?_
      rintro ⟨_, _, _, _, _, _, hprepare', hruntime', hrun'⟩
      cases hprepare.symm.trans hprepare'
      cases hruntime.symm.trans hruntime'
      cases hrun.symm.trans hrun'
  | done hprepare hruntime hrun =>
      exact iff_of_true rfl ⟨_, _, _, _, _, _, hprepare, hruntime, hrun⟩

/-- A compilation that succeeds writes the fingerprint of what the runtime was given, and leaves a
marker with it. -/
theorem marker_of_answer (h : (r.answer environment files).1.code = 0) :
    ∃ settings config definition, r.prepare files = .ok (settings, config, definition) ∧
      (r.answer environment files).1.stdout =
        fingerprint (callOf definition [] config).script (callOf definition [] config).payload
          ++ "\n" ∧
      (r.answer environment files).2.Holds (markerPath config)
        (markerText (callOf definition [] config)) := by
  have hcourse := course_answer environment r files
  generalize r.answer environment files = answered at hcourse h
  cases hcourse with
  | unprepared | unavailable | failed => cases h
  | @done settings config definition ready model world said hprepare hruntime hrun =>
      have hcontract := (course_compileDefinition (interpreterOf environment settings).bridge
        definition [] config ⟨ready, []⟩).contract
      rw [hrun] at hcontract
      rcases hcontract.marked model rfl with ⟨-, hholds, _, output, _, -, -, -, rfl⟩
      exact ⟨settings, config, definition, hprepare, rfl, hholds⟩

theorem answer_tells (environment : Table String) (r : CompileRequest) (files : FileSystem) :
    (r.answer environment files).1.Tells := by
  have hcourse := course_answer environment r files
  generalize r.answer environment files = answered at hcourse
  cases hcourse with
  | unprepared | unavailable | failed => exact .failed _ _
  | done => exact .done _ _

theorem current_answer (environment : Table String) (r : CompileRequest) (files : FileSystem) :
    (r.answer environment files).2.current = files.current := by
  have hcourse := course_answer environment r files
  generalize r.answer environment files = answered at hcourse
  have hready {settings : Settings} {available : Bool} {ready : FileSystem}
      (h : (interpreterOf environment settings).isAvailable files = (available, ready)) :
      ready.current = files.current := by
    rw [← Program.current_isAvailable (interpreterOf environment settings) files, h]
  have hworld {settings : Settings} {config : CompileConfig} {definition : Json}
      {ready : FileSystem} {result : Except CompileError CompiledModel} {world : World}
      (h : (compileDefinition (interpreterOf environment settings).bridge definition []
        config).run ⟨ready, []⟩ = (result, world)) : world.files.current = ready.current := by
    have hkept := current_compileDefinition
      (interpreterOf environment settings).current_bridge definition [] config ⟨ready, []⟩
    rwa [h] at hkept
  cases hcourse with
  | unprepared => rfl
  | unavailable _ hruntime => exact hready hruntime
  | failed _ hruntime hrun => exact (hworld hrun).trans (hready hruntime)
  | done _ hruntime hrun => exact (hworld hrun).trans (hready hruntime)

end CompileRequest

/-! ## Reconstruction -/

namespace DecompileRequest

variable {r : DecompileRequest}

/-- The ways that a reconstruction can go. -/
inductive Course (environment : Table String) (r : DecompileRequest) (files : FileSystem) :
    Outcome × FileSystem → Prop where
  | unsettled {error : ConfigError} (hsettings : currentSettings files = .error error) :
      Course environment r files (.failure error.message "", files)
  | unloaded {settings : Settings} {error : LoadError} {world : World}
      (hsettings : currentSettings files = .ok settings)
      (hload : (loadGraph (interpreterOf environment settings).bridge r.input).run ⟨files, []⟩ =
        (.error error, world)) :
      Course environment r files (.failure error.message "", world.files)
  | shown {settings : Settings} {graph : SavedGraph} {world : World}
      (hsettings : currentSettings files = .ok settings)
      (hload : (loadGraph (interpreterOf environment settings).bridge r.input).run ⟨files, []⟩ =
        (.ok graph, world)) (houtput : r.output = none) :
      Course environment r files
        ({ stdout := graph.statements (r.options settings) ++ "\n" }, world.files)
  | unwritten {settings : Settings} {graph : SavedGraph} {world : World} {path message : String}
      {fault : FileFault} (hsettings : currentSettings files = .ok settings)
      (hload : (loadGraph (interpreterOf environment settings).bridge r.input).run ⟨files, []⟩ =
        (.ok graph, world)) (houtput : r.output = some path)
      (hwrite : world.files.writeText path (graph.statements (r.options settings) ++ "\n") =
        .error fault) :
      Course environment r files (.failure message "", world.files)
  | written {settings : Settings} {graph : SavedGraph} {world : World} {path said : String}
      {left : FileSystem} (hsettings : currentSettings files = .ok settings)
      (hload : (loadGraph (interpreterOf environment settings).bridge r.input).run ⟨files, []⟩ =
        (.ok graph, world)) (houtput : r.output = some path)
      (hwrite : world.files.writeText path (graph.statements (r.options settings) ++ "\n") =
        .ok left) :
      Course environment r files ({ stderr := said }, left)

theorem course_answer (environment : Table String) (r : DecompileRequest) (files : FileSystem) :
    Course environment r files (r.answer environment files) := by
  unfold answer
  cases hsettings : currentSettings files with
  | error error => exact .unsettled hsettings
  | ok settings =>
      simp only
      cases hload : (loadGraph (interpreterOf environment settings).bridge r.input).run
          ⟨files, []⟩ with
      | mk result world =>
          cases result with
          | error error => exact .unloaded hsettings hload
          | ok graph =>
              simp only
              cases houtput : r.output with
              | none => exact .shown hsettings hload houtput
              | some path =>
                  simp only
                  cases hwrite : world.files.writeText path
                      (graph.statements (r.options settings) ++ "\n") with
                  | error fault => exact .unwritten hsettings hload houtput hwrite
                  | ok left => exact .written hsettings hload houtput hwrite

/-- A reconstruction that succeeds writes the statements of the graph to the standard output, or to
the file that is asked for. -/
theorem statements_of_answer (h : (r.answer environment files).1.code = 0) :
    ∃ settings graph world, currentSettings files = .ok settings ∧
      (loadGraph (interpreterOf environment settings).bridge r.input).run ⟨files, []⟩ =
        (.ok graph, world) ∧
      (r.output = none → (r.answer environment files).1.stdout =
        graph.statements (r.options settings) ++ "\n") ∧
      ∀ path, r.output = some path → (r.answer environment files).2.Holds path
        (graph.statements (r.options settings) ++ "\n") := by
  have hcourse := course_answer environment r files
  generalize r.answer environment files = answered at hcourse h
  cases hcourse with
  | unsettled | unloaded | unwritten => cases h
  | shown hsettings hload houtput =>
      exact ⟨_, _, _, hsettings, hload, fun _ => rfl, fun path hpath => by simp [houtput] at hpath⟩
  | written hsettings hload houtput hwrite =>
      refine ⟨_, _, _, hsettings, hload, fun hnone => by simp [houtput] at hnone,
        fun path hpath => ?_⟩
      rw [houtput, Option.some.injEq] at hpath
      exact hpath ▸ FileSystem.holds_of_writeText hwrite

theorem answer_tells (environment : Table String) (r : DecompileRequest) (files : FileSystem) :
    (r.answer environment files).1.Tells := by
  have hcourse := course_answer environment r files
  generalize r.answer environment files = answered at hcourse
  cases hcourse with
  | unsettled | unloaded | unwritten => exact .failed _ _
  | shown | written => exact .done _ _

theorem current_answer (environment : Table String) (r : DecompileRequest) (files : FileSystem) :
    (r.answer environment files).2.current = files.current := by
  have hcourse := course_answer environment r files
  generalize r.answer environment files = answered at hcourse
  have hworld {settings : Settings} {result : Except LoadError SavedGraph} {world : World}
      (h : (loadGraph (interpreterOf environment settings).bridge r.input).run ⟨files, []⟩ =
        (result, world)) : world.files.current = files.current := by
    have hkept := current_loadGraph
      (interpreterOf environment settings).current_bridge r.input ⟨files, []⟩
    rwa [h] at hkept
  cases hcourse with
  | unsettled => rfl
  | unloaded _ hload => exact hworld hload
  | shown _ hload => exact hworld hload
  | unwritten _ hload => exact hworld hload
  | written _ hload _ hwrite =>
      exact (FileSystem.alters_of_writeText hwrite).makes.current.trans (hworld hload)

end DecompileRequest

/-! ## Arguments -/

/-- Arguments that are no request change nothing, and are the only ones with the status two. -/
theorem answer_of_read_error {stop : Stop} {arguments : List String}
    (h : Request.read arguments = .error stop) :
    (answer environment arguments files).2 = files ∧
      ((answer environment arguments files).1.code = 2 ↔ ∃ error, stop = .usage error) := by
  rw [answer, h]
  cases stop <;> simp

/-- Every run tells what came of it: with the status zero it has done what it was asked to;
otherwise it writes to the standard error only. -/
theorem answer_tells (environment : Table String) (arguments : List String) (files : FileSystem) :
    (answer environment arguments files).1.Tells := by
  unfold answer
  split
  · exact .done _ _
  · exact .misused _
  · exact CompileRequest.answer_tells _ _ _
  · exact DecompileRequest.answer_tells _ _ _

/-- A run leaves the current directory, whatever it is asked to and whatever it starts. -/
theorem current_answer (environment : Table String) (arguments : List String)
    (files : FileSystem) : (answer environment arguments files).2.current = files.current := by
  unfold answer
  split
  · rfl
  · rfl
  · exact CompileRequest.current_answer _ _ _
  · exact DecompileRequest.current_answer _ _ _

end CommandLine

end LayerNet
