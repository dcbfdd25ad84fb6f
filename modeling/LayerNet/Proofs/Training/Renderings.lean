import LayerNet.Proofs.Json.Reading
import LayerNet.Proofs.Network.Assembly
import LayerNet.Proofs.Training.Fingerprint

/-!
# Renderings of a model definition

A model definition is written three times: on one line with its keys as they come, over several
lines with its keys sorted, for people to read, and on one line with its keys sorted as a text in
the payload that the runtime is given.  All three say the same, so that what people read is what the
runtime is given.

Main results:

- `payload_model_config`: what a payload has for a model.
- `renderings_agree`: the three renderings of a model that is compiled.
-/

namespace LayerNet.Compilation

open Json

/-- A payload has the model definition on one line, with sorted keys, as a text. -/
theorem payload_model_config (config : CompileConfig) (definition : Json) :
    (Reading.ofText? (config.payload definition).compact).bind (Reading.field? "model_config") =
      some (.text (written definition.sorted.compact)) := by
  rw [Reading.ofText?_compact, Option.bind_some, CompileConfig.payload, field?_reading_obj]
  rfl

variable {bridge : Bridge} {definition : Json} {definitions : List String} {config : CompileConfig}
  {world : World} {call : Call}

/-- A runtime that is called finds the files that were prepared for it. -/
theorem prepares_of_calls_eq
    (hcall : ((compileDefinition bridge definition definitions config).run world).2.calls =
      world.calls ++ [call]) :
    ∃ ready outcome files, Prepares definition config world.files ready ∧
      Settles config call (bridge call.script call.payload ready) (outcome, files) ∧
      (compileDefinition bridge definition definitions config).run world =
        (outcome, ⟨files, world.calls ++ [call]⟩) := by
  have hgiven := call_eq_of_calls_eq hcall
  have hcourse := course_compileDefinition bridge definition definitions config world
  generalize (compileDefinition bridge definition definitions config).run world = run
    at hcall hcourse
  cases hcourse with
  | refused => simp at hcall
  | unprepared => simp at hcall
  | called hcall' _ hready hsettles =>
      obtain rfl := hcall'.trans hgiven.symm
      exact ⟨_, _, _, hready, hsettles, rfl⟩

/-- For every model that is compiled with a description, as long as the runtime is called: the
definition on one line, the description, and the text in the payload say the same, and the latter
two even have the same pieces.  The runtime reads the description where it was written, unless a
device has that place: it takes the description and keeps nothing. -/
theorem renderings_agree {net : Network} {outputs : List LayerId} {directory : String}
    {a : Assembly} (ha : net.assemble outputs = .ok a)
    (hinfo : config.infoDirectory = some directory)
    (hcall : ((compileNetwork bridge net outputs config).run world).2.calls =
      world.calls ++ [call]) :
    ∃ (ready : FileSystem) (described escaped embedded : String) (value : Reading),
      (Prepares a.definition.toJson config world.files ready ∧
        ∃ outcome files,
          Settles config call (bridge call.script call.payload ready) (outcome, files) ∧
          (compileNetwork bridge net outputs config).run world =
            (outcome, ⟨files, world.calls ++ [call]⟩)) ∧
      (ready.readText (Path.join directory definitionFile) = .ok described ∨
        ∃ place device, ready.locate (Path.join directory definitionFile) =
          .ok (place, .device device)) ∧
      ((Reading.ofText? call.payload).bind (Reading.field? "model_config") = some (.text escaped) ∧
        unescape? escaped = some embedded) ∧
      (Reading.ofText? a.definition.toJson.compact = some value ∧
        Reading.ofText? described = some value ∧ Reading.ofText? embedded = some value) ∧
      pieces described.toList = pieces embedded.toList := by
  have hrun := run_compileNetwork_of_ok bridge config world ha
  rw [hrun] at hcall ⊢
  rcases prepares_of_calls_eq hcall with ⟨ready, outcome, files, hready, hsettles, hrun'⟩
  have hgiven := call_eq_of_calls_eq hcall
  refine ⟨ready, a.definition.toJson.sorted.spread, written a.definition.toJson.sorted.compact,
    a.definition.toJson.sorted.compact, reading a.definition.toJson,
    ⟨hready, outcome, files, hsettles, hrun'⟩, (hready.holds hinfo).readText,
      ⟨?_, unescape?_written _⟩, ⟨Reading.ofText?_compact _, ?_, ?_⟩, ?_⟩
  · rw [hgiven]
    exact payload_model_config config _
  · rw [Reading.ofText?_spread, reading_sorted]
  · rw [Reading.ofText?_compact, reading_sorted]
  · rw [pieces_spread, pieces_compact]

/-! ## A layer that needs escapes -/

/-- A layer of its own, with a quote, a backslash, a line feed and a control in its name and in what
is said of it. -/
def escapingHistory : List Edit :=
  [.add
    { name := some "\"\\\n"
      kind := .custom
        { className := "Own", baseName := "own",
          params := [("b\x01", .str "\"\""), ("a", .arr [.ofFloat (1.0 / 0.0), .obj []])] } } []]

/-- The network that the history leads to. -/
def escaping : Network :=
  (Builder.run ⟨{}, {}⟩ escapingHistory).network

theorem exists_assemble_escaping : ∃ a, escaping.assemble [0] = .ok a := by
  have hnet : escaping.WellFormed := Builder.wellFormed_run Network.wellFormed_empty escapingHistory
  have hfollow : escaping.FollowInputs [0] := by decide
  refine Network.exists_assemble_eq_ok hnet (by decide) fun output hmem => ⟨?_, ?_⟩
  · rw [List.mem_singleton.mp hmem]
    decide
  · exact hfollow.not_reachesCycle (by decide) hmem

/-- An empty directory `out`. -/
def outFiles : FileSystem where
  root := .directory [("out", .directory [])]

/-- A description in the directory `out`, and no path for the model. -/
def describedConfig : CompileConfig where
  saveDirectory := ""
  infoDirectory := some "out"

/-- A description becomes a file in an empty directory. -/
theorem exists_prepares_outFiles (definition : Json) :
    ∃ ready, Prepares definition describedConfig outFiles ready ∧
      ready.isFile (Path.join "out" definitionFile) = true := by
  have hmade : outFiles.makeDirectories "out" = (.ok (), outFiles) :=
    FileSystem.makeDirectories_of_isDirectory (by decide +kernel)
  have hentry : outFiles.locateEntry (Path.join "out" definitionFile) =
      .ok (["out"], some "model.json") := by decide +kernel
  have hwritten (text : String) : outFiles.writeText (Path.join "out" definitionFile) text =
      .ok (outFiles.putNode ["out", "model.json"] (.file text.toUTF8 false)) :=
    writeText_of_missing text hentry (by decide +kernel) rfl
  have hsave (files : FileSystem) : files.makeDirectories "" = (.ok (), files) := by
    rw [FileSystem.makeDirectories, if_pos (by decide)]
  exact ⟨_, .described rfl hmade (hwritten _) (hsave _), rfl⟩

/-- The layer is compiled with its description, which is read as it was written. -/
theorem renderings_agree_escaping :
    ∃ (a : Assembly) (call : Call) (ready : FileSystem) (described escaped embedded : String)
      (value : Reading), escaping.assemble [0] = .ok a ∧
        ((compileNetwork idle escaping [0] describedConfig).run ⟨outFiles, []⟩).2.calls =
          [] ++ [call] ∧
        ready.readText (Path.join "out" definitionFile) = .ok described ∧
        (Reading.ofText? call.payload).bind (Reading.field? "model_config") =
          some (.text escaped) ∧
        unescape? escaped = some embedded ∧
        Reading.ofText? a.definition.toJson.compact = some value ∧
        Reading.ofText? described = some value ∧ Reading.ofText? embedded = some value := by
  rcases exists_assemble_escaping with ⟨a, ha⟩
  rcases exists_prepares_outFiles a.definition.toJson with ⟨ready, hready, hfile⟩
  have hcall : ((compileNetwork idle escaping [0] describedConfig).run ⟨outFiles, []⟩).2.calls =
      [] ++ [callOf a.definition.toJson a.definitions describedConfig] := by
    rcases run_compileDefinition_of_prepares idle a.definitions ⟨outFiles, []⟩ rfl (by decide)
      hready with ⟨outcome, files, -, hrun⟩
    rw [run_compileNetwork_of_ok idle describedConfig ⟨outFiles, []⟩ ha, hrun]
  rcases renderings_agree ha rfl hcall with ⟨_, described, escaped, embedded, value,
    ⟨hprepares, -⟩, hread, ⟨hescaped, hembedded⟩, ⟨hcompact, hdescribed, hvalue⟩, -⟩
  obtain rfl := hready.eq hprepares
  exact ⟨a, _, ready, described, escaped, embedded, value, ha, hcall,
    hread.resolve_right (FileSystem.locate_ne_device_of_isFile hfile), hescaped, hembedded,
    hcompact, hdescribed, hvalue⟩

/-- Where a device has the place of the description, the runtime is called as well, and reads
nothing that denotes anything. -/
theorem description_of_device :
    ∃ (a : Assembly) (value : Reading), escaping.assemble [0] = .ok a ∧
      Prepares a.definition.toJson outConfig deviceFiles deviceFiles ∧
      ((compileNetwork idle escaping [0] outConfig).run ⟨deviceFiles, []⟩).2.calls =
        [callOf a.definition.toJson a.definitions outConfig] ∧
      Reading.ofText? a.definition.toJson.compact = some value ∧
      deviceFiles.readText (Path.join "out" definitionFile) = .ok "" ∧
      Reading.ofText? "" = none := by
  rcases exists_assemble_escaping with ⟨a, ha⟩
  have hready := prepares_deviceFiles a.definition.toJson
  have hlocate : deviceFiles.locate (Path.join "out" definitionFile) =
      .ok (["out", "model.json"], .device .null) :=
    FileSystem.locate_eq_ok_iff.mpr ⟨by decide +kernel, by decide +kernel, rfl, by decide +kernel⟩
  refine ⟨a, _, ha, hready, ?_, Reading.ofText?_compact _,
    FileSystem.readText_of_device hlocate, by decide +kernel⟩
  rcases run_compileDefinition_of_prepares idle a.definitions ⟨deviceFiles, []⟩ rfl (by decide)
    hready with ⟨outcome, files, -, hrun⟩
  rw [run_compileNetwork_of_ok idle outConfig ⟨deviceFiles, []⟩ ha, hrun]
  rfl

end LayerNet.Compilation
