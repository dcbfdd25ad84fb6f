import LayerNet.Proofs.Decimal.Overflow
import LayerNet.Proofs.Json.Numbers
import LayerNet.Proofs.Settings.LastValues
import LayerNet.Proofs.Training.Renderings

/-!
# The learning rate that a runtime is given

The learning rate of a compilation stands in the payload, in the configuration of the optimizer.  It
is a number there if the float is finite, and `null` otherwise.  Settings take infinities and what
is no number for learning rates as well, and numerals that are too large, so that it depends on the
last value that a text gives to the learning rate whether the runtime is given a number.

Main definitions:

- `Compilation.payloadRate?`: the learning rate in a payload.
- `Json.Reading.IsNumber`: the numbers of a document.
- `Settings.HasNumericRate`: the texts whose learning rate is a number.

Main results:

- `Settings.isFinite_learningRate_iff`: which settings have a finite learning rate.
- `Compilation.payloadRate?_payload`: what a payload has for the learning rate.
- `Compilation.payloadRate?_of_parse`: which texts of settings give the runtime a number.
-/

namespace LayerNet

/-! ## Numbers of documents -/

namespace Json

/-- Whether a value of a document is a number. -/
def Reading.IsNumber : Reading → Prop
  | .word w => Json.IsNumber w.toList
  | _ => False

/-- The value `null` of a document. -/
def Reading.null : Reading :=
  .word (String.ofList nullChars)

/-- A number does not begin with a letter. -/
theorem not_isNumber_nullChars : ¬ Json.IsNumber nullChars := by
  rintro (⟨whole, fraction, exponent, ⟨⟨hne, hdigits⟩, -⟩, -, -, h⟩ | ⟨ds, -, h⟩)
  · have hhead : whole.head? = some 'n' := by
      rw [← List.head?_append_of_ne_nil _ hne, ← h]
      rfl
    exact absurd (hdigits 'n' (List.mem_of_mem_head? hhead)) (by decide)
  · cases h

theorem Reading.not_isNumber_null : ¬ Reading.null.IsNumber := by
  rw [Reading.null, Reading.IsNumber, String.toList_ofList]
  exact not_isNumber_nullChars

theorem Reading.isNumber_float (x : Float) : (reading (.float x)).IsNumber := by
  rw [reading, Reading.IsNumber, String.toList_ofList]
  exact isNumber_floatChars x

/-- A float is a number of a document if it is finite, and `null` otherwise. -/
theorem reading_ofFloat (x : Float) :
    ((reading (.ofFloat x)).IsNumber ↔ x.isFinite = true) ∧
      ((reading (.ofFloat x)).IsNumber ∨ reading (.ofFloat x) = .null) := by
  rw [ofFloat]
  split <;> rename_i hfinite
  · exact ⟨iff_of_true (Reading.isNumber_float x) hfinite, Or.inl (Reading.isNumber_float x)⟩
  · exact ⟨iff_of_false Reading.not_isNumber_null hfinite, Or.inr rfl⟩

/-- An object with sorted keys says what it would say with its keys as they come. -/
theorem field?_reading_object (key : String) (fields : List (String × Json)) :
    (reading (.object fields)).field? key = (Table.find? key fields.reverse).map reading := by
  rw [object, field?_reading_obj, Table.find?_reverse (Table.sorted_ofPairs fields).nodup_keys,
    Table.find?_ofPairs]

end Json

/-! ## Payloads -/

namespace Compilation

open Json

/-- The learning rate that a payload has, as it is written there. -/
def payloadRate? (payload : String) : Option Reading :=
  (((Reading.ofText? payload).bind (Reading.field? "optimizer")).bind
    (Reading.field? "config")).bind (Reading.field? "learning_rate")

/-- The rule of an optimizer has no learning rate of its own. -/
theorem find?_learningRate_entries (o : Optimizer) :
    Table.find? "learning_rate" o.entries.reverse = some (.ofFloat o.learningRate) := by
  rw [Optimizer.entries]
  cases o.rule <;> rfl

/-- A payload has the learning rate of the optimizer as a float of a document. -/
theorem payloadRate?_payload (config : CompileConfig) (definition : Json) :
    payloadRate? (config.payload definition).compact =
      some (reading (.ofFloat config.optimizer.learningRate)) := by
  have hoptimizer : (reading (config.payload definition)).field? "optimizer" =
      some (reading config.optimizer.toJson) := field?_reading_obj _ _
  have hconfig : (reading config.optimizer.toJson).field? "config" =
      some (reading (.object config.optimizer.entries)) := field?_reading_object _ _
  have hrate : (reading (.object config.optimizer.entries)).field? "learning_rate" =
      some (reading (.ofFloat config.optimizer.learningRate)) := by
    rw [field?_reading_object, find?_learningRate_entries, Option.map_some]
  rw [payloadRate?, Reading.ofText?_compact, Option.bind_some, hoptimizer, Option.bind_some,
    hconfig, Option.bind_some, hrate]

end Compilation

/-! ## Settings -/

namespace Settings

variable {text root : String} {settings : Settings}

/-- Whether the learning rate of a text is a number: what it says last of the learning rate, if it
says anything. -/
def HasNumericRate (text : String) : Prop :=
  ∀ value ∈ (values text .learningRate).getLast?, Decimal.IsNumber value

/-- The learning rates that optimizers have without being asked. -/
theorem isFinite_learningRate_of_mem_aliases :
    ∀ entry ∈ Optimizer.aliases, entry.2.learningRate.isFinite = true := by
  decide +kernel

theorem isFinite_learningRate_of_ofAlias? {name : String} {o : Optimizer}
    (h : Optimizer.ofAlias? name = some o) : o.learningRate.isFinite = true := by
  have hmem : (Optimizer.lowered name, o) ∈ Optimizer.aliases :=
    (Table.find?_eq_some_iff_mem (by decide)).mp h
  exact isFinite_learningRate_of_mem_aliases (Optimizer.lowered name, o) hmem

/-- The learning rate that comes with the optimizer in force. -/
theorem isFinite_learningRate_of_inForce {o : Optimizer}
    (h : SettingKey.optimizer.inForce root text = .ok o) :
    o.learningRate.isFinite = true := by
  rw [SettingKey.inForce] at h
  cases hlast : (values text .optimizer).getLast? with
  | none =>
      rw [hlast] at h
      have hadam : Optimizer.adam.learningRate.isFinite = true := by decide +kernel
      rw [← Except.ok.inj h]
      exact hadam
  | some value =>
      rw [hlast] at h
      have hread : SettingValue.optimizer value = .ok o := h
      have halias := SettingValue.optimizer_eq_ok_iff.mp hread
      exact isFinite_learningRate_of_ofAlias? halias

/-- The settings of a text have a finite learning rate exactly if the text has a number for it, if
it has anything. -/
theorem isFinite_learningRate_iff (h : parse text root = .ok settings) :
    settings.optimizer.learningRate.isFinite = true ↔ HasNumericRate text := by
  rcases inForce_of_parse h with ⟨-, hkeys, o, ho, hoptimizer⟩
  have hrate :
      settings.optimizer.learningRate = settings.learningRate.getD (Optimizer.learningRate o) :=
    congrArg Optimizer.learningRate (hoptimizer.trans (settings.withLearningRate_eq o))
  have hsettled := hkeys .learningRate (by decide)
  rw [SettingKey.inForce] at hsettled
  rw [hrate, HasNumericRate]
  cases hlast : (values text .learningRate).getLast? with
  | none =>
      rw [hlast] at hsettled
      have hnone : settings.learningRate = none := (Except.ok.inj hsettled).symm
      rw [hnone]
      exact iff_of_true (isFinite_learningRate_of_inForce ho) fun value hvalue =>
        absurd hvalue (Option.not_mem_none value)
  | some value =>
      rw [hlast] at hsettled
      change (SettingValue.learningRate value).map some = .ok settings.learningRate at hsettled
      rcases map_eq_ok_iff.mp hsettled with ⟨x, hx, hsome⟩
      have hfloat := SettingValue.learningRate_eq_ok_iff.mp hx
      rw [← hsome, Option.getD_some, Decimal.isFinite_float?_iff hfloat]
      exact ⟨fun hnumber _ heq => Option.some.inj heq ▸ hnumber, fun hall => hall value rfl⟩

end Settings

/-! ## Compilations -/

namespace Compilation

open Json

variable {text root : String} {settings : Settings}

/-- Whenever the runtime is called with settings that are read of a text, it is given a number for
the learning rate, or `null`; and a number exactly if the text has a number for it, if it has
anything. -/
theorem payloadRate?_of_parse {bridge : Bridge} {definition : Json} {definitions : List String}
    {world : World} {call : Call} (h : Settings.parse text root = .ok settings)
    (hcall :
      ((compileDefinition bridge definition definitions settings.compileConfig).run world).2.calls =
      world.calls ++ [call]) :
    ∃ rate, payloadRate? call.payload = some rate ∧ (rate.IsNumber ↔ Settings.HasNumericRate text) ∧
      (rate.IsNumber ∨ rate = .null) := by
  have hrate :
      payloadRate? call.payload = some (reading (.ofFloat settings.optimizer.learningRate)) := by
    rw [call_eq_of_calls_eq hcall]
    exact payloadRate?_payload settings.compileConfig definition
  rcases reading_ofFloat settings.optimizer.learningRate with ⟨hnumber, hnull⟩
  exact ⟨_, hrate, hnumber.trans (Settings.isFinite_learningRate_iff h), hnull⟩

/-! ## A learning rate that is lost -/

/-- Settings with a learning rate that is no number. -/
def lostRate : String :=
  "[compile]\nsave_dir = out\nlearning_rate = nan"

/-- Settings that go on with a learning rate that is one. -/
def keptRate : String :=
  lostRate ++ "\nlearning_rate = +1.5E-3"

/-- Whether settings have a model saved in the directory `out`, without a description. -/
def savesInOut (settings : Settings) : Bool :=
  settings.batchSize != 0 && settings.infoDirectory.isNone &&
    outFiles.isDirectory settings.saveDirectory

theorem calls_outFiles (h : savesInOut settings = true) (definition : Json) :
    ((compileDefinition idle definition [] settings.compileConfig).run ⟨outFiles, []⟩).2.calls =
      [] ++ [callOf definition [] settings.compileConfig] := by
  rw [savesInOut, Bool.and_eq_true, Bool.and_eq_true, bne_iff_ne, Option.isNone_iff_eq_none] at h
  rcases h with ⟨⟨hbatch, hinfo⟩, hsave⟩
  have hready : Prepares definition settings.compileConfig outFiles outFiles :=
    .plain hinfo (FileSystem.makeDirectories_of_isDirectory hsave)
  rcases run_compileDefinition_of_prepares idle [] ⟨outFiles, []⟩ rfl hbatch hready with
    ⟨outcome, files, -, hrun⟩
  rw [hrun]

/-- What is found of the settings that are read of a text holds of settings that are read. -/
theorem exists_parse_of_any {p : Settings → Bool}
    (h : (Settings.parse text root).toOption.any p = true) :
    ∃ settings, Settings.parse text root = .ok settings ∧ p settings = true := by
  cases hparse : Settings.parse text root with
  | error e =>
      rw [hparse] at h
      cases h
  | ok settings =>
      rw [hparse] at h
      exact ⟨settings, rfl, h⟩

theorem isNumber_keptRate : Decimal.IsNumber "+1.5E-3" := by
  have hwrites : Decimal.Writes (['1'] ++ '.' :: (['5'] ++ ['E', '-', '3'])) 15 (-3 - 1) :=
    .pointed (by decide) rfl
  exact ⟨['+'], _, 15, -3 - 1, by decide, rfl, hwrites, by decide +kernel⟩

/-- The later value is a number, and the runtime is given it. -/
theorem payloadRate?_of_parse_keptRate : ∃ settings call rate,
    Settings.parse keptRate "." = .ok settings ∧
      ((compileDefinition idle (.obj []) [] settings.compileConfig).run ⟨outFiles, []⟩).2.calls =
        [] ++ [call] ∧
      payloadRate? call.payload = some rate ∧ rate.IsNumber := by
  have hany : (Settings.parse keptRate ".").toOption.any savesInOut = true := by decide +kernel
  rcases exists_parse_of_any hany with ⟨settings, hsettings, hsaves⟩
  have hcall := calls_outFiles hsaves (.obj [])
  rcases @payloadRate?_of_parse keptRate "." settings idle (.obj []) [] ⟨outFiles, []⟩ _ hsettings
    hcall with ⟨rate, hrate, hiff, -⟩
  have hlast : (Settings.values keptRate .learningRate).getLast? = some "+1.5E-3" := by
    decide +kernel
  refine ⟨settings, _, rate, hsettings, hcall, hrate, hiff.mpr fun value hvalue => ?_⟩
  rw [hlast] at hvalue
  exact Option.some.inj hvalue ▸ isNumber_keptRate

/-- The learning rate that is no number is accepted, and the runtime is given none. -/
theorem payloadRate?_lostRate : ∃ settings call, Settings.parse lostRate "." = .ok settings ∧
    ((compileDefinition idle (.obj []) [] settings.compileConfig).run ⟨outFiles, []⟩).2.calls =
      [] ++ [call] ∧
    payloadRate? call.payload = some .null ∧ ¬ Reading.null.IsNumber := by
  have hany : (Settings.parse lostRate ".").toOption.any
      (fun s => !s.optimizer.learningRate.isFinite && savesInOut s) = true := by decide +kernel
  rcases exists_parse_of_any hany with ⟨settings, hsettings, hp⟩
  rw [Bool.and_eq_true, Bool.not_eq_true'] at hp
  have hnull : Json.ofFloat settings.optimizer.learningRate = .null := by
    rw [Json.ofFloat, hp.1, if_neg Bool.false_ne_true]
  have hrate : payloadRate? (settings.compileConfig.payload (.obj [])).compact =
      some (reading (.ofFloat settings.optimizer.learningRate)) := payloadRate?_payload _ _
  rw [hnull] at hrate
  exact ⟨settings, _, hsettings, calls_outFiles hp.2 (.obj []), hrate, Reading.not_isNumber_null⟩

end Compilation

end LayerNet
