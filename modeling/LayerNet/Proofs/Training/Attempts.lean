import LayerNet.Proofs.Training.SavedModels

/-!
# Attempts into one directory

Models are compiled into the same directory again and again.  A compilation that fails writes no
marker, but takes none away either: the marker of an earlier one stays, whatever the runtime has
done to the model in the meantime.  So a marker tells of the last attempt that saved a model, and of
the last call of the runtime only if that attempt was the one that made it.

Main definitions:

- `Compilation.Attempt`: a compilation with all that it is given.
- `Compilation.entries`: what became of attempts, one after the other.
- `Compilation.SparesMarker`: runtimes that write no marker.

Main results:

- `Attempt.marker_step`: where a marker comes from that is there after an attempt.
- `marker_after`: where it comes from after any attempts.
- `marker_of_attempts`: when it tells of the last call.
-/

namespace LayerNet.Compilation

/-! ## Attempts -/

/-- A compilation of a model definition, with all that it is given. -/
structure Attempt where
  bridge : Bridge
  definition : Json
  definitions : List String
  config : CompileConfig

namespace Attempt

/-- What becomes of an attempt. -/
def run (attempt : Attempt) (world : World) : Except CompileError CompiledModel × World :=
  (compileDefinition attempt.bridge attempt.definition attempt.definitions attempt.config).run world

/-- What the runtime is given, if it is called. -/
def call (attempt : Attempt) : Call :=
  callOf attempt.definition attempt.definitions attempt.config

end Attempt

/-- The world after attempts. -/
def after (world : World) (attempts : List Attempt) : World :=
  attempts.foldl (fun world attempt => (attempt.run world).2) world

/-- What there is to say of an attempt. -/
structure Entry where
  call : Call
  /-- whether the runtime was called -/
  called : Bool
  /-- whether a model was given -/
  saved : Bool

/-- What there is to say of an attempt in a world. -/
def Attempt.entry (attempt : Attempt) (world : World) : Entry where
  call := attempt.call
  called := (attempt.run world).2.calls != world.calls
  saved := (attempt.run world).1.isOk

/-- What there is to say of attempts, one after the other. -/
def entries (world : World) : List Attempt → List Entry
  | [] => []
  | attempt :: attempts => attempt.entry world :: entries (attempt.run world).2 attempts

/-- The last attempt of which something is so. -/
def last? (holds : Entry → Bool) (world : World) (attempts : List Attempt) : Option Entry :=
  ((entries world attempts).filter holds).getLast?

/-- The content of the marker in a directory. -/
def markerIn? (directory : String) (world : World) : Option ByteArray :=
  world.files.fileAt? (Path.join directory markerFile)

/-- The runtime writes no marker in a directory: if there is one, it was there before the call. -/
def SparesMarker (bridge : Bridge) (directory : String) : Prop :=
  ∀ script payload files content,
    (bridge script payload files).2.fileAt? (Path.join directory markerFile) = some content →
      files.fileAt? (Path.join directory markerFile) = some content

/-- The runtime takes no marker away. -/
def KeepsMarker (bridge : Bridge) (directory : String) : Prop :=
  ∀ script payload files content,
    files.fileAt? (Path.join directory markerFile) = some content →
      (bridge script payload files).2.fileAt? (Path.join directory markerFile) = some content

/-! ## One attempt -/

theorem isName_markerFile : Path.IsName markerFile := by
  decide

namespace Attempt

variable {attempt : Attempt} {directory : String} {content : ByteArray}

/-- What an attempt can do to markers: nothing, if the runtime is not called; otherwise the runtime
finds them as they were, and they stay as it leaves them unless a model is given. -/
inductive Treats (attempt : Attempt) (world : World) : Prop where
  | uncalled (hcalled : (attempt.entry world).called = false)
      (hsaved : (attempt.entry world).saved = false)
      (hkept : ∀ directory, markerIn? directory (attempt.run world).2 = markerIn? directory world)
  | called {ready : FileSystem} (hcalled : (attempt.entry world).called = true)
      (hready : Prepares attempt.definition attempt.config world.files ready)
      (hfound : ∀ directory,
        ready.fileAt? (Path.join directory markerFile) = markerIn? directory world)
      (hleft : (attempt.entry world).saved = false ∧ (attempt.run world).2.files =
          (attempt.bridge attempt.call.script attempt.call.payload ready).2 ∨
        (attempt.entry world).saved = true ∧ (attempt.run world).2.files.Holds
          (markerPath attempt.config) (markerText attempt.call))

theorem treats (attempt : Attempt) (world : World) : attempt.Treats world := by
  have hcourse := course_compileDefinition attempt.bridge attempt.definition attempt.definitions
    attempt.config world
  change Course _ _ _ _ _ (attempt.run world) at hcourse
  have hcalled : (attempt.entry world).called = ((attempt.run world).2.calls != world.calls) := rfl
  have hsaved : (attempt.entry world).saved = (attempt.run world).1.isOk := rfl
  generalize hrun : attempt.run world = run at hcourse hcalled hsaved
  cases hcourse with
  | refused hbatch => exact .uncalled (by simp [hcalled]) hsaved fun directory => by rw [hrun]
  | @unprepared path fault left hbatch hstopped =>
      refine .uncalled (by simp [hcalled]) hsaved fun directory => ?_
      have halters := alters_preparation attempt.definition attempt.config world
      rw [hstopped] at halters
      rw [hrun]
      exact halters.fileAt?_join isName_markerFile (by decide) directory
  | @called ready files outcome call hcall hbatch hready hsettles =>
      subst hcall
      have hfound (directory : String) := hready.alters.fileAt?_join isName_markerFile
        (by decide) directory
      refine .called (by simp [hcalled]) hready hfound ?_
      rw [hrun, hsaved]
      cases outcome with
      | error error => exact Or.inl ⟨rfl, hsettles.eq_of_error⟩
      | ok model =>
          rcases hsettles.exists_of_ok with ⟨output, left, -, hmark, -⟩
          exact Or.inr ⟨rfl, FileSystem.holds_of_writeText hmark⟩

/-- With a model the runtime was called. -/
theorem called_of_saved {world : World} (h : (attempt.entry world).saved = true) :
    (attempt.entry world).called = true := by
  cases attempt.treats world with
  | uncalled _ hsaved => simp [hsaved] at h
  | called hcalled => exact hcalled

/-- A marker that is there after an attempt was written by it, or was there before. -/
theorem marker_step (world : World) (hdirectory : attempt.config.saveDirectory = directory)
    (hspares : SparesMarker attempt.bridge directory)
    (hmarker : markerIn? directory (attempt.run world).2 = some content) :
    (attempt.entry world).saved = true ∧
        content = (markerText (attempt.entry world).call).toUTF8 ∨
      (attempt.entry world).saved = false ∧ markerIn? directory world = some content := by
  cases attempt.treats world with
  | uncalled _ hsaved hkept => exact Or.inr ⟨hsaved, (hkept directory).symm.trans hmarker⟩
  | called _ _ hfound hleft =>
      rcases hleft with ⟨hsaved, hfiles⟩ | ⟨hsaved, hholds⟩
      · refine Or.inr ⟨hsaved, (hfound directory).symm.trans ?_⟩
        rw [markerIn?, hfiles] at hmarker
        exact hspares _ _ _ _ hmarker
      · subst hdirectory
        exact Or.inl ⟨hsaved, hholds.eq_of_fileAt? hmarker⟩

/-- An attempt without a model leaves a marker that its runtime leaves. -/
theorem marker_of_not_saved {world : World} (hsaved : (attempt.entry world).saved = false)
    (hkeeps : KeepsMarker attempt.bridge directory)
    (hmarker : markerIn? directory world = some content) :
    markerIn? directory (attempt.run world).2 = some content := by
  cases attempt.treats world with
  | uncalled _ _ hkept => exact (hkept directory).trans hmarker
  | called _ _ hfound hleft =>
      rcases hleft with ⟨-, hfiles⟩ | ⟨hsaved', -⟩
      · rw [markerIn?, hfiles]
        exact hkeeps _ _ _ _ ((hfound directory).trans hmarker)
      · simp [hsaved] at hsaved'

end Attempt

/-! ## Any attempts -/

variable {directory : String} {content : ByteArray} {attempts : List Attempt} {world : World}

theorem last?_cons (holds : Entry → Bool) (world : World) (attempt : Attempt)
    (attempts : List Attempt) :
    last? holds world (attempt :: attempts) =
      (last? holds (attempt.run world).2 attempts).or
        (if holds (attempt.entry world) then some (attempt.entry world) else none) := by
  rw [last?, entries, List.filter_cons]
  cases hholds : holds (attempt.entry world) with
  | false => simp [last?]
  | true => simp [last?, List.getLast?_cons]

/-- A marker that is there after attempts is that of the last one that gave a model; if none did, it
was there before. -/
theorem marker_after (world : World)
    (hdirectory : ∀ attempt ∈ attempts, attempt.config.saveDirectory = directory)
    (hspares : ∀ attempt ∈ attempts, SparesMarker attempt.bridge directory)
    (hmarker : markerIn? directory (after world attempts) = some content) :
    (∃ entry, last? (·.saved) world attempts = some entry ∧
        content = (markerText entry.call).toUTF8) ∨
      last? (·.saved) world attempts = none ∧ markerIn? directory world = some content := by
  induction attempts generalizing world with
  | nil => exact Or.inr ⟨rfl, hmarker⟩
  | cons attempt attempts ih =>
      rw [List.forall_mem_cons] at hdirectory hspares
      rw [last?_cons]
      rcases ih (attempt.run world).2 hdirectory.2 hspares.2 hmarker with
        ⟨entry, hlast, hcontent⟩ | ⟨hnone, hbefore⟩
      · exact Or.inl ⟨entry, by rw [hlast, Option.some_or], hcontent⟩
      · rw [hnone, Option.none_or]
        rcases attempt.marker_step world hdirectory.1 hspares.1 hbefore with
          ⟨hsaved, hcontent⟩ | ⟨hsaved, hthere⟩
        · exact Or.inl ⟨attempt.entry world, by simp [hsaved], hcontent⟩
        · exact Or.inr ⟨by simp [hsaved], hthere⟩

theorem called_of_mem_entries {entry : Entry} (hmem : entry ∈ entries world attempts)
    (hsaved : entry.saved = true) : entry.called = true := by
  induction attempts generalizing world with
  | nil => cases hmem
  | cons attempt attempts ih =>
      rcases List.mem_cons.mp hmem with rfl | hrest
      · exact Attempt.called_of_saved hsaved
      · exact ih hrest

/-- If the last attempt that called the runtime gave a model, it is the last that gave one. -/
theorem last?_saved_of_called {entry : Entry} (h : last? (·.called) world attempts = some entry)
    (hsaved : entry.saved = true) : last? (·.saved) world attempts = some entry := by
  rcases List.getLast?_eq_some_iff.mp h with ⟨front, hfront⟩
  have hfilter : (entries world attempts).filter (·.saved) =
      ((entries world attempts).filter (·.called)).filter (·.saved) := by
    rw [List.filter_filter]
    refine List.filter_congr fun other hmem => ?_
    cases hother : other.saved with
    | false => rfl
    | true => simp [called_of_mem_entries hmem hother]
  rw [last?, hfilter, hfront, List.filter_append, List.filter_singleton]
  simp [hsaved]

/-- A marker that is there tells what the runtime was given at the last call, and that call led to a
model. -/
def TellsLastCall (directory : String) (world : World) (attempts : List Attempt) : Prop :=
  ∀ content, markerIn? directory (after world attempts) = some content →
    ∃ entry, last? (·.called) world attempts = some entry ∧ entry.saved = true ∧
      content = (markerText entry.call).toUTF8

/-- For attempts into a directory without a marker, and runtimes that write none: a marker that is
there in the end is that of the last attempt that gave a model.  So it tells of the last call just
if that call led to a model. -/
theorem marker_of_attempts
    (hdirectory : ∀ attempt ∈ attempts, attempt.config.saveDirectory = directory)
    (hspares : ∀ attempt ∈ attempts, SparesMarker attempt.bridge directory)
    (hnone : markerIn? directory world = none) :
    (∀ content, markerIn? directory (after world attempts) = some content →
        ∃ entry, last? (·.saved) world attempts = some entry ∧
          content = (markerText entry.call).toUTF8) ∧
      (TellsLastCall directory world attempts ↔
        markerIn? directory (after world attempts) = none ∨
          ∃ entry, last? (·.called) world attempts = some entry ∧ entry.saved = true) := by
  have hsource (content : ByteArray)
      (hmarker : markerIn? directory (after world attempts) = some content) :
      ∃ entry, last? (·.saved) world attempts = some entry ∧
        content = (markerText entry.call).toUTF8 := by
    refine (marker_after world hdirectory hspares hmarker).resolve_right ?_
    rintro ⟨-, hthere⟩
    simp [hnone] at hthere
  refine ⟨hsource, fun htells => ?_, ?_⟩
  · cases hmarker : markerIn? directory (after world attempts) with
    | none => exact Or.inl rfl
    | some content =>
        rcases htells content hmarker with ⟨entry, hlast, hsaved, -⟩
        exact Or.inr ⟨entry, hlast, hsaved⟩
  · rintro (hgone | ⟨entry, hlast, hsaved⟩) content hmarker
    · simp [hgone] at hmarker
    · rcases hsource content hmarker with ⟨entry', hlast', hcontent⟩
      rw [last?_saved_of_called hlast hsaved, Option.some.injEq] at hlast'
      subst hlast'
      exact ⟨entry, hlast, hsaved, hcontent⟩

/-! ## Failures behind a model -/

theorem after_concat (world : World) (attempts : List Attempt) (attempt : Attempt) :
    after world (attempts ++ [attempt]) = (attempt.run (after world attempts)).2 := by
  rw [after, List.foldl_append]
  rfl

theorem entries_concat (world : World) (attempts : List Attempt) (attempt : Attempt) :
    entries world (attempts ++ [attempt]) =
      entries world attempts ++ [attempt.entry (after world attempts)] := by
  induction attempts generalizing world with
  | nil => rfl
  | cons first attempts ih =>
      rw [List.cons_append, entries, ih, entries, List.cons_append]
      rfl

/-- With a marker there, it is enough that the runtime is called, fails, and leaves the marker: then
the marker does not tell of the last call. -/
theorem not_tellsLastCall_concat {attempt : Attempt}
    (hmarker : markerIn? directory (after world attempts) = some content)
    (hcalled : (attempt.entry (after world attempts)).called = true)
    (hsaved : (attempt.entry (after world attempts)).saved = false)
    (hkeeps : KeepsMarker attempt.bridge directory) :
    ¬TellsLastCall directory world (attempts ++ [attempt]) := by
  intro htells
  have hthere : markerIn? directory (after world (attempts ++ [attempt])) = some content := by
    rw [after_concat]
    exact attempt.marker_of_not_saved hsaved hkeeps hmarker
  have hlast : last? (·.called) world (attempts ++ [attempt]) =
      some (attempt.entry (after world attempts)) := by
    rw [last?, entries_concat, List.filter_append, List.filter_singleton]
    simp [hcalled]
  rcases htells content hthere with ⟨entry, hentry, hmodel, -⟩
  rw [hlast, Option.some.injEq] at hentry
  rw [← hentry, hsaved] at hmodel
  cases hmodel

/-- A runtime that writes a model into the directory `out`, and then gives `result`. -/
def writing (result : Except BridgeError RuntimeOutput) : Bridge :=
  fun _ _ files =>
    match files.writeText (modelPath "out") "model" with
    | .ok written => (result, written)
    | .error _ => (result, files)

theorem markerIn?_writing (result : Except BridgeError RuntimeOutput) (script payload : String)
    (files : FileSystem) :
    (writing result script payload files).2.fileAt? (Path.join "out" markerFile) =
      files.fileAt? (Path.join "out" markerFile) := by
  unfold writing
  cases hwritten : files.writeText (modelPath "out") "model" with
  | error fault => rfl
  | ok written =>
      refine (FileSystem.alters_of_writeText hwritten).fileAt?_eq fun hsame => ?_
      exact placeOf_modelPath_ne files plainConfig "out" hsame.symm

theorem sparesMarker_writing (result : Except BridgeError RuntimeOutput) :
    SparesMarker (writing result) "out" := by
  intro script payload files content hmarker
  rwa [markerIn?_writing] at hmarker

theorem keepsMarker_writing (result : Except BridgeError RuntimeOutput) :
    KeepsMarker (writing result) "out" := by
  intro script payload files content hmarker
  rwa [markerIn?_writing]

theorem writing_fst (result : Except BridgeError RuntimeOutput) (script payload : String)
    (files : FileSystem) : (writing result script payload files).1 = result := by
  unfold writing
  split <;> rfl

/-- An attempt whose runtime writes a model. -/
def savingAttempt : Attempt where
  bridge := writing (.ok {})
  definition := .obj []
  definitions := []
  config := plainConfig

/-- An attempt for another batch, whose runtime fails behind the model that it writes. -/
def failingAttempt : Attempt where
  bridge := writing (.error (.exit "exit status: 1" {}))
  definition := .obj []
  definitions := []
  config := { plainConfig with batchSize := 2 }

/-- A runtime that is called and fails is the end of an attempt, with the files as it leaves
them. -/
theorem run_of_bridge_error {attempt : Attempt} {ready left : FileSystem} {error : BridgeError}
    (hbatch : attempt.config.batchSize ≠ 0)
    (hready : Prepares attempt.definition attempt.config world.files ready)
    (hbridge : attempt.bridge attempt.call.script attempt.call.payload ready =
      (.error error, left)) :
    attempt.run world = (.error (.bridge error), ⟨left, world.calls ++ [attempt.call]⟩) := by
  rcases run_compileDefinition_of_prepares attempt.bridge attempt.definitions world rfl hbatch
    hready with ⟨outcome, files, hsettles, hrun⟩
  change Settles _ _ (attempt.bridge attempt.call.script attempt.call.payload ready) _ at hsettles
  rw [hbridge] at hsettles
  cases hsettles with
  | failed => exact hrun

/-- An attempt without a batch. -/
def refusedAttempt : Attempt where
  bridge := writing (.ok {})
  definition := .obj []
  definitions := []
  config := { plainConfig with batchSize := 0 }

/-- A model in the directory `out`. -/
def writtenFiles : FileSystem :=
  outFiles.putNode ["out", savedModelFile] (.file "model".toUTF8 false)

/-- The model with the marker of the attempt that gives one. -/
def markedFiles : FileSystem :=
  writtenFiles.putNode ["out", markerFile] (.file (markerText savingAttempt.call).toUTF8 false)

theorem writing_outFiles (result : Except BridgeError RuntimeOutput) (script payload : String) :
    writing result script payload outFiles = (result, writtenFiles) := by
  have hentry : outFiles.locateEntry (modelPath "out") = .ok (["out"], some savedModelFile) := by
    decide +kernel
  have hwritten := writeText_of_missing "model" hentry (by decide +kernel) rfl
  simp only [writing, hwritten]
  rfl

theorem writing_writtenFiles (result : Except BridgeError RuntimeOutput)
    (script payload : String) :
    writing result script payload writtenFiles = (result, writtenFiles) := by
  have hwritten : writtenFiles.writeText (modelPath "out") "model" = .ok writtenFiles := rfl
  simp only [writing, hwritten]

theorem markerIn?_markedFiles (calls : List Call) :
    markerIn? "out" ⟨markedFiles, calls⟩ = some (markerText savingAttempt.call).toUTF8 := by
  have hplace : markedFiles.placeOf (Path.join "out" markerFile) = ["out", markerFile] := by
    calc
      markedFiles.placeOf (Path.join "out" markerFile) =
          outFiles.placeOf (Path.join "out" markerFile) :=
        FileSystem.placeOf_eq_of_current rfl _
      _ = ["out", markerFile] := by decide +kernel
  refine FileSystem.fileAt?_eq_some_iff.mpr ⟨false, ?_⟩
  rw [hplace]
  exact FileSystem.node?_putNode_self writtenFiles _ _

/-- An attempt without a batch does nothing. -/
theorem run_refusedAttempt (world : World) :
    refusedAttempt.run world = (.error .batchSize, world) :=
  run_compileDefinition_of_batchSize_eq _ _ world rfl

/-- The attempt gives a model wherever its runtime has one to leave, and there is its marker. -/
theorem run_savingAttempt (files : FileSystem) (calls : List Call)
    (hthere : files.isDirectory "out" = true)
    (hleft : ∀ script payload, savingAttempt.bridge script payload files = (.ok {}, writtenFiles)) :
    savingAttempt.run ⟨files, calls⟩ = (.ok (modelOf plainConfig savingAttempt.call {}),
      ⟨markedFiles, calls ++ [savingAttempt.call]⟩) := by
  have hready : Prepares (.obj []) plainConfig files files := prepares_plain _ hthere
  have hcomplete : Complete plainConfig writtenFiles := complete_iff.mpr (by decide +kernel)
  have hentry : writtenFiles.locateEntry (markerPath plainConfig) =
      .ok (["out"], some markerFile) := by decide +kernel
  have hmark := writeText_of_missing (markerText savingAttempt.call) hentry (by decide +kernel) rfl
  calc
    savingAttempt.run ⟨files, calls⟩ = (completion plainConfig savingAttempt.call {}).run
        ⟨writtenFiles, calls ++ [savingAttempt.call]⟩ :=
      run_compileDefinition_of_call [] (by decide) rfl hready (hleft _ _)
    _ = (.ok (modelOf plainConfig savingAttempt.call {}),
        ⟨markedFiles, calls ++ [savingAttempt.call]⟩) := by
      rw [run_completion_of_complete hcomplete]
      simp only [hmark]
      rfl

/-- The attempt fails wherever its runtime is called, with the files as that leaves them. -/
theorem run_failingAttempt (files : FileSystem) {left : FileSystem} (calls : List Call)
    (hthere : files.isDirectory "out" = true)
    (hleft : ∀ script payload, (failingAttempt.bridge script payload files).2 = left) :
    failingAttempt.run ⟨files, calls⟩ =
      (.error (.bridge (.exit "exit status: 1" {})), ⟨left, calls ++ [failingAttempt.call]⟩) :=
  run_of_bridge_error (by decide) (.plain rfl (FileSystem.makeDirectories_of_isDirectory hthere))
    (Prod.ext (writing_fst _ failingAttempt.call.script failingAttempt.call.payload files)
      (hleft _ _))

/-- A runtime fails behind its model, an attempt is refused, one gives a model, and one is
refused. -/
def mixedAttempts : List Attempt :=
  [failingAttempt, refusedAttempt, savingAttempt, refusedAttempt]

/-- The marker is that of the model, whose runtime was the last that was called. -/
theorem marker_of_attempts_saving :
    markerIn? "out" (after ⟨outFiles, []⟩ mixedAttempts) =
        some (markerText savingAttempt.call).toUTF8 ∧
      TellsLastCall "out" ⟨outFiles, []⟩ mixedAttempts := by
  have htells := @marker_of_attempts "out" mixedAttempts ⟨outFiles, []⟩
    (by simp [mixedAttempts, failingAttempt, refusedAttempt, savingAttempt, plainConfig])
    (by simp [mixedAttempts, failingAttempt, refusedAttempt, savingAttempt, sparesMarker_writing])
    (by decide +kernel)
  have hfailing : failingAttempt.run ⟨outFiles, []⟩ =
      (.error (.bridge (.exit "exit status: 1" {})), ⟨writtenFiles, [failingAttempt.call]⟩) :=
    run_failingAttempt outFiles [] (by decide +kernel) fun script payload =>
      congrArg Prod.snd (writing_outFiles _ script payload)
  have hfailed : failingAttempt.entry ⟨outFiles, []⟩ = ⟨failingAttempt.call, true, false⟩ := by
    simp [Attempt.entry, hfailing, Except.isOk, Except.toBool]
  have hsaving := run_savingAttempt writtenFiles [failingAttempt.call] (by decide +kernel)
    fun script payload => writing_writtenFiles _ script payload
  have hsaved : savingAttempt.entry ⟨writtenFiles, [failingAttempt.call]⟩ =
      ⟨savingAttempt.call, true, true⟩ := by
    simp [Attempt.entry, hsaving, Except.isOk, Except.toBool]
  have hrefused (world : World) : refusedAttempt.entry world =
      ⟨refusedAttempt.call, false, false⟩ := by
    simp [Attempt.entry, run_refusedAttempt, Except.isOk, Except.toBool]
  constructor
  · simp only [after, mixedAttempts, List.foldl_cons, List.foldl_nil, hfailing, run_refusedAttempt,
      hsaving]
    exact markerIn?_markedFiles _
  · refine htells.2.mpr (Or.inr ⟨⟨savingAttempt.call, true, true⟩, ?_, rfl⟩)
    simp only [mixedAttempts, last?_cons, hfailing, hfailed, run_refusedAttempt, hrefused,
      hsaving, hsaved]
    rfl

/-- A runtime fails behind a model that it has written again, and the marker of the first model is
still there. -/
theorem marker_outlives_failure :
    (∀ attempt ∈ [savingAttempt, failingAttempt], attempt.config.saveDirectory = "out" ∧
        SparesMarker attempt.bridge "out") ∧
      markerIn? "out" ⟨outFiles, []⟩ = none ∧
      ¬TellsLastCall "out" ⟨outFiles, []⟩ [savingAttempt, failingAttempt] := by
  refine ⟨by simp [savingAttempt, failingAttempt, plainConfig, sparesMarker_writing],
    by decide +kernel, ?_⟩
  have hsaving := run_savingAttempt outFiles [] (by decide +kernel)
    fun script payload => writing_outFiles _ script payload
  have hafter : after ⟨outFiles, []⟩ [savingAttempt] = ⟨markedFiles, [savingAttempt.call]⟩ :=
    congrArg Prod.snd hsaving
  have hfailing := run_failingAttempt markedFiles [savingAttempt.call] rfl
    fun _ _ => rfl
  have hentry : failingAttempt.entry (after ⟨outFiles, []⟩ [savingAttempt]) =
      ⟨failingAttempt.call, true, false⟩ := by
    simp [hafter, Attempt.entry, hfailing, Except.isOk, Except.toBool]
  have hbefore : markerIn? "out" (after ⟨outFiles, []⟩ [savingAttempt]) =
      some (markerText savingAttempt.call).toUTF8 := by
    rw [hafter]
    exact markerIn?_markedFiles _
  exact not_tellsLastCall_concat hbefore (by rw [hentry]) (by rw [hentry]) (keepsMarker_writing _)

end LayerNet.Compilation
