import LayerNet.CommandLine.Commands
import LayerNet.Proofs.Settings.BadLines
import LayerNet.Proofs.Settings.LastValues

/-!
# Where a configuration comes from

Whatever a compilation is given comes from the request if the request has it, else from the
settings, else there is a default.  A learning rate is given apart from the optimizer: the one that
is in force goes to the optimizer that is in force, and an optimizer that is not chosen leaves
nothing behind.

Main definitions:

- `SettingKey.settled?`: what the last value says that a text gives to a key.
- `firstGiven`: of a request, a setting and a default the first that is there.
- `CompileRequest.Chooses`: the configuration of a request beside a text of settings.
- `CompileRequest.NamesKnown`: the requests for losses and optimizers that there are.

Main results:

- `Settings.get_of_parse`, `Settings.optimizer_of_parse`: what settings have for a key.
- `CompileRequest.exists_config_iff`: which requests have a configuration.
- `CompileRequest.config_of_parse`: where everything in it comes from.
-/

namespace LayerNet

/-! ## Settings -/

/-- What the last value says that a text gives to a key, if it gives one. -/
def SettingKey.settled? (root text : String) (key : SettingKey) : Option key.Value :=
  ((Settings.values text key).getLast?).bind fun value => (key.read root value).toOption

theorem SettingKey.eq_of_inForce {root text : String} {key : SettingKey} {value : key.Value}
    (h : key.inForce root text = .ok value) :
    value = (key.settled? root text).getD (key.get (Settings.rooted root)) := by
  rw [inForce] at h
  rw [settled?]
  cases hlast : (Settings.values text key).getLast? with
  | none =>
      rw [hlast] at h
      exact (Except.ok.inj h).symm
  | some last =>
      rw [hlast] at h
      have hread : key.read root last = .ok value := h
      rw [Option.bind_some, hread]
      rfl

namespace Settings

variable {text root : String} {s : Settings}

/-- Settings have for a key what the text says last, and what holds where nothing is settled if it
says nothing.  The optimizer is the exception: it may have another learning rate. -/
theorem get_of_parse (h : parse text root = .ok s) (key : SettingKey) (hkey : key ≠ .optimizer) :
    key.get s = (key.settled? root text).getD (key.get (rooted root)) :=
  SettingKey.eq_of_inForce ((inForce_of_parse h).2.1 key hkey)

theorem optimizer_of_parse (h : parse text root = .ok s) :
    s.optimizer =
      s.withLearningRate ((SettingKey.optimizer.settled? root text).getD Optimizer.adam) := by
  rcases inForce_of_parse h with ⟨-, -, o, ho, heq⟩
  rw [heq, SettingKey.eq_of_inForce ho]
  rfl

end Settings

/-- Of a request, a setting and a default the first that is there. -/
def firstGiven {α : Type} (requested settled : Option α) (fallback : α) : α :=
  (requested.or settled).getD fallback

theorem getD_eq_firstGiven {α : Type} {settled : Option α} {fallback a : α}
    (h : a = settled.getD fallback) (requested : Option α) :
    requested.getD a = firstGiven requested settled fallback := by
  subst h
  cases requested <;> rfl

namespace CommandLine.CompileRequest

variable {r : CompileRequest} {text root : String} {settings : Settings} {config : CompileConfig}

/-- Whether the loss and the optimizer of a request are known, if it has them. -/
def NamesKnown (r : CompileRequest) : Prop :=
  (∀ name ∈ r.loss, name ∈ Loss.names) ∧
    ∀ name ∈ r.optimizer, Optimizer.lowered name ∈ Optimizer.names

/-- The optimizer that is chosen, with its own parameters. -/
def algorithm (r : CompileRequest) (root text : String) : Optimizer :=
  firstGiven (r.optimizer.bind Optimizer.ofAlias?)
    (SettingKey.optimizer.settled? root text) Optimizer.adam

/-- The configuration of a request beside a text of settings for a directory. -/
structure Chooses (r : CompileRequest) (root text : String) (config : CompileConfig) : Prop where
  saveDirectory : config.saveDirectory =
    firstGiven r.saveDirectory (SettingKey.saveDirectory.settled? root text)
      (Path.join root "model")
  batchSize : config.batchSize = firstGiven r.batchSize (SettingKey.batchSize.settled? root text) 1
  loss : config.loss =
    firstGiven (r.loss.bind Loss.ofName?) (SettingKey.loss.settled? root text) .meanSquaredError
  infoDirectory : config.infoDirectory =
    r.infoDirectory.or (SettingKey.infoDirectory.settled? root text).join
  cpuInference : config.cpuInference =
    (r.cpuInference || (SettingKey.cpuInference.settled? root text).getD false)
  /-- the parameters of the algorithm are those that it has without being asked -/
  defaults : ∃ name, (name, r.algorithm root text) ∈ Optimizer.aliases
  /-- without a learning rate anywhere the optimizer keeps its own -/
  optimizer : config.optimizer =
    { r.algorithm root text with
      learningRate := firstGiven r.learningRate (SettingKey.learningRate.settled? root text).join
        (r.algorithm root text).learningRate }

/-! ### Requests beside settings -/

/-- What is chosen by a name, if one is given, or else what is settled. -/
def choose {α : Type} (find : String → Option α) (message : String → String) (settled : α) :
    Option String → Except String α
  | none => .ok settled
  | some name =>
    match find name with
    | some a => .ok a
    | none => .error (message name)

/-- A name that is given must be known. -/
theorem choose_eq_ok_iff {α : Type} {find : String → Option α} {message : String → String}
    {settled a : α} {requested : Option String} : choose find message settled requested = .ok a ↔
      (∀ name ∈ requested, find name ≠ none) ∧ (requested.bind find).getD settled = a := by
  cases requested with
  | none => simp [choose]
  | some name => cases hname : find name <;> simp [choose, hname]

theorem chosenOptimizer_eq (r : CompileRequest) (settings : Settings) : r.chosenOptimizer settings =
    (choose settings.optimizerNamed (fun name => "--optimizer: " ++ Optimizer.unknownMessage name)
      settings.optimizer r.optimizer).map fun o =>
        { o with learningRate := r.learningRate.getD o.learningRate } := by
  rw [chosenOptimizer]
  cases r.optimizer with
  | none => cases r.learningRate <;> rfl
  | some name =>
      rw [choose]
      dsimp only
      cases settings.optimizerNamed name with
      | none => rfl
      | some o => cases r.learningRate <;> rfl

theorem config_eq (r : CompileRequest) (settings : Settings) : r.config settings =
    choose Loss.ofName?
        (fun name => "--loss: " ++ Loss.unknownMessage name) settings.loss r.loss >>=
      fun loss => (r.chosenOptimizer settings).map fun optimizer =>
        { saveDirectory := r.saveDirectory.getD settings.saveDirectory
          loss
          optimizer
          batchSize := r.batchSize.getD settings.batchSize
          infoDirectory := r.infoDirectory.or settings.infoDirectory
          cpuInference := r.cpuInference || settings.cpuInference } := by
  rw [config]
  cases r.loss with
  | none => rfl
  | some name =>
      rw [choose]
      dsimp only
      cases Loss.ofName? name with
      | none => rfl
      | some loss => rfl

/-! ### Everything that is chosen -/

/-- A request has a configuration exactly if the names in it are known, whatever is settled. -/
theorem exists_config_iff : (∃ config, r.config settings = .ok config) ↔ r.NamesKnown := by
  have hloss (name : String) : Loss.ofName? name ≠ none ↔ name ∈ Loss.names := by
    rw [ne_eq, Loss.ofName?_eq_none_iff, not_not]
  have hoptimizer (name : String) : settings.optimizerNamed name ≠ none ↔
      Optimizer.lowered name ∈ Optimizer.names := by
    rw [ne_eq, Settings.optimizerNamed, Option.map_eq_none_iff, Optimizer.ofAlias?_eq_none_iff,
      not_not]
  simp only [config_eq, chosenOptimizer_eq, bind_eq_ok_iff, map_eq_ok_iff, choose_eq_ok_iff, hloss,
    hoptimizer]
  constructor
  · rintro ⟨_, _, ⟨hknown, -⟩, _, ⟨_, ⟨hknown', -⟩, -⟩, -⟩
    exact ⟨hknown, hknown'⟩
  · rintro ⟨hknown, hknown'⟩
    exact ⟨_, _, ⟨hknown, rfl⟩, _, ⟨_, ⟨hknown', rfl⟩, rfl⟩, rfl⟩

/-- The optimizer of the name that is given, or else the settled one, is the algorithm that is
chosen, with the settled learning rate. -/
theorem getD_optimizerNamed (h : Settings.parse text root = .ok settings) (r : CompileRequest) :
    (r.optimizer.bind settings.optimizerNamed).getD settings.optimizer =
      settings.withLearningRate (r.algorithm root text) := by
  have hnamed : r.optimizer.bind settings.optimizerNamed =
      (r.optimizer.bind Optimizer.ofAlias?).map settings.withLearningRate := by
    rw [Option.map_bind]
    rfl
  rw [hnamed, Settings.optimizer_of_parse h, algorithm]
  cases r.optimizer.bind Optimizer.ofAlias? <;> rfl

theorem algorithm_mem_aliases (r : CompileRequest) (root text : String) :
    ∃ name, (name, r.algorithm root text) ∈ Optimizer.aliases := by
  have hnamed {name : String} {o : Optimizer} (h : Optimizer.ofAlias? name = some o) :
      (Optimizer.lowered name, o) ∈ Optimizer.aliases :=
    (Table.find?_eq_some_iff_mem (by decide)).mp h
  rw [algorithm]
  cases hrequested : r.optimizer.bind Optimizer.ofAlias? with
  | some o =>
      rcases Option.bind_eq_some_iff.mp hrequested with ⟨name, -, hname⟩
      exact ⟨_, hnamed hname⟩
  | none =>
      cases hsettled : SettingKey.optimizer.settled? root text with
      | none => exact ⟨"adam", List.mem_cons_of_mem _ List.mem_cons_self⟩
      | some o =>
          rcases Option.bind_eq_some_iff.mp hsettled with ⟨value, -, hvalue⟩
          change (SettingValue.optimizer value).toOption = some o at hvalue
          cases hread : SettingValue.optimizer value with
          | error fault =>
              rw [hread] at hvalue
              cases hvalue
          | ok other =>
              rw [hread] at hvalue
              cases hvalue
              exact ⟨_, hnamed (SettingValue.optimizer_eq_ok_iff.mp hread)⟩

theorem chooses_of_config (h : Settings.parse text root = .ok settings)
    (hconfig : r.config settings = .ok config) : r.Chooses root text config := by
  rw [config_eq, bind_eq_ok_iff] at hconfig
  rcases hconfig with ⟨loss, hloss, hconfig⟩
  rcases map_eq_ok_iff.mp hconfig with ⟨optimizer, hoptimizer, rfl⟩
  rw [chosenOptimizer_eq] at hoptimizer
  rcases map_eq_ok_iff.mp hoptimizer with ⟨o, ho, rfl⟩
  have hsettled := Settings.get_of_parse h
  have hrate : settings.learningRate = (SettingKey.learningRate.settled? root text).join := by
    refine (hsettled .learningRate (by decide)).trans ?_
    cases SettingKey.learningRate.settled? root text <;> rfl
  have hinfo : settings.infoDirectory = (SettingKey.infoDirectory.settled? root text).join := by
    refine (hsettled .infoDirectory (by decide)).trans ?_
    cases SettingKey.infoDirectory.settled? root text <;> rfl
  refine ⟨?_, ?_, ?_, ?_, ?_, r.algorithm_mem_aliases root text, ?_⟩
  · exact getD_eq_firstGiven (hsettled .saveDirectory (by decide)) r.saveDirectory
  · exact getD_eq_firstGiven (hsettled .batchSize (by decide)) r.batchSize
  · rw [← (choose_eq_ok_iff.mp hloss).2]
    exact getD_eq_firstGiven (hsettled .loss (by decide)) (r.loss.bind Loss.ofName?)
  · exact congrArg r.infoDirectory.or hinfo
  · exact congrArg (r.cpuInference || ·) (hsettled .cpuInference (by decide))
  · rw [← (choose_eq_ok_iff.mp ho).2, getD_optimizerNamed h, Settings.withLearningRate_eq, hrate,
      getD_eq_firstGiven rfl]

/-- What a compilation is started with is the configuration of the request, if there is one. -/
theorem prepare_eq_ok_iff {files : FileSystem} {definition : Json} :
    r.prepare files = .ok (settings, config, definition) ↔ currentSettings files = .ok settings ∧
      r.config settings = .ok config ∧ readDefinition files r.input = .ok definition := by
  have hsettings : (currentSettings files).mapError ConfigError.message = .ok settings ↔
      currentSettings files = .ok settings := mapError_eq_ok_iff
  rw [prepare, bind_eq_ok_iff]
  constructor
  · rintro ⟨s, hs, h⟩
    rcases bind_eq_ok_iff.mp h with ⟨c, hc, h⟩
    rcases bind_eq_ok_iff.mp h with ⟨d, hd, h⟩
    cases h
    exact ⟨hsettings.mp hs, hc, hd⟩
  · rintro ⟨hs, hc, hd⟩
    refine ⟨settings, hsettings.mpr hs, ?_⟩
    exact bind_eq_ok_iff.mpr ⟨config, hc, bind_eq_ok_iff.mpr ⟨definition, hd, rfl⟩⟩

/-- A request whose names are known has a configuration beside any settings that are read of a text,
and everything in it is from the request, or else from the text, or else a default.  It is what the
compilation is started with. -/
theorem config_of_parse (h : Settings.parse text root = .ok settings) (r : CompileRequest) :
    ((∃ config, r.config settings = .ok config) ↔ r.NamesKnown) ∧
      (∀ config, r.config settings = .ok config → r.Chooses root text config) ∧
      ∀ files s config definition, currentSettings files = .ok settings →
        r.prepare files = .ok (s, config, definition) → r.Chooses root text config := by
  refine ⟨exists_config_iff, fun config hconfig => chooses_of_config h hconfig, ?_⟩
  intro files s config definition hcurrent hprepare
  rcases prepare_eq_ok_iff.mp hprepare with ⟨hs, hconfig, -⟩
  cases hcurrent.symm.trans hs
  exact chooses_of_config h hconfig

/-- A request for another optimizer than the settled one. -/
def otherOptimizer : CompileRequest where
  input := "model.json"
  optimizer := some "Adam"

/-- The settled learning rate goes to the optimizer that is asked for. -/
theorem config_of_parse_rateFirst : ∃ settings config rate,
    Settings.parse Settings.rateFirst "." = .ok settings ∧
      otherOptimizer.config settings = .ok config ∧
      Decimal.float? "0.3" = some rate ∧ config.batchSize = 1 ∧ config.saveDirectory = "./model" ∧
      config.optimizer = { Optimizer.adam with learningRate := rate } := by
  have haccepted : (Settings.parse Settings.rateFirst ".").isOk = true := by decide +kernel
  rcases exists_eq_ok_of_isOk haccepted with ⟨settings, hsettings⟩
  rcases config_of_parse hsettings otherOptimizer with ⟨hexists, hchooses, -⟩
  have hknown : otherOptimizer.NamesKnown := by
    refine ⟨nofun, ?_⟩
    rintro name ⟨⟩
    decide
  rcases hexists.mpr hknown with ⟨config, hconfig⟩
  have hchoice := hchooses config hconfig
  have hvalues (key : SettingKey) : (Settings.values Settings.rateFirst key).getLast? =
      if key = .learningRate then some "0.3"
      else if key = .optimizer then some "\"sgd\"" else none := by
    rw [Settings.values, Settings.said_rateFirst]
    cases key <;> decide
  have hfloat : (Decimal.float? "0.3").isSome = true := by decide +kernel
  rcases Option.isSome_iff_exists.mp hfloat with ⟨rate, hrate⟩
  have hbatch : SettingKey.batchSize.settled? "." Settings.rateFirst = none := by
    rw [SettingKey.settled?, hvalues]
    rfl
  have hdirectory : SettingKey.saveDirectory.settled? "." Settings.rateFirst = none := by
    rw [SettingKey.settled?, hvalues]
    rfl
  have hlearning : SettingKey.learningRate.settled? "." Settings.rateFirst = some (some rate) := by
    have hread : SettingKey.learningRate.read "." "0.3" = .ok (some rate) := by
      change (SettingValue.learningRate "0.3").map some = _
      rw [SettingValue.learningRate, hrate]
      rfl
    rw [SettingKey.settled?, hvalues]
    exact congrArg Except.toOption hread
  refine ⟨settings, config, rate, hsettings, hconfig, hrate, ?_, ?_, ?_⟩
  · rw [hchoice.batchSize, hbatch]
    rfl
  · rw [hchoice.saveDirectory, hdirectory]
    decide
  · rw [hchoice.optimizer, hlearning]
    rfl

end CommandLine.CompileRequest
end LayerNet
