import LayerNet.Proofs.Outcome
import LayerNet.Settings.Reader

/-!
# The keys of settings

Every key that is known belongs to a section, and an assignment to it has one reader for its value
and one field of the settings that it fills; it leaves all other fields alone.  Two settings of a
directory are the same if they have the same for every key.

Main definitions:

- `SettingKey`: the known keys, with their sections, names, readers and fields.

Main results:

- `Settings.assign_key`, `Settings.assign_of_unknown`: what assignments do.
- `Settings.assign_eq_ok`: what an assignment that is accepted has done.
- `SettingKey.get_set_self`, `SettingKey.get_set_of_ne`: what is found after an assignment.
- `SettingKey.eq_of_get_eq`: settings are told by their fields.
-/

namespace LayerNet

/-! ## Values -/

namespace SettingValue

variable {value : String}

theorem optimizer_eq_ok_iff {o : Optimizer} :
    optimizer value = .ok o ↔ Optimizer.ofAlias? (unquoted value) = some o := by
  rw [optimizer]
  split <;> rename_i hname <;> simp [hname]

theorem learningRate_eq_ok_iff {rate : Float} :
    learningRate value = .ok rate ↔ Decimal.float? value = some rate := by
  rw [learningRate]
  split <;> rename_i hfloat <;> simp [hfloat]

end SettingValue

/-! ## Keys -/

/-- The keys that are known. -/
inductive SettingKey where
  | interpreter
  | batchSize
  | loss
  | optimizer
  | learningRate
  | saveDirectory
  | infoDirectory
  | cpuInference
  | functionMarker
  | internalCalls
  | includeMainGraph
deriving DecidableEq

namespace SettingKey

/-- The section that a key belongs to. -/
def sectionName : SettingKey → String
  | interpreter => "runtime"
  | batchSize | loss | optimizer | learningRate | saveDirectory | infoDirectory | cpuInference =>
    "compile"
  | functionMarker | internalCalls | includeMainGraph => "decompile"

/-- The name of a key in its section. -/
def name : SettingKey → String
  | interpreter => "interpreter"
  | batchSize => "batch_size"
  | loss => "loss"
  | optimizer => "optimizer"
  | learningRate => "learning_rate"
  | saveDirectory => "save_dir"
  | infoDirectory => "model_info_dir"
  | cpuInference => "cpu_inference"
  | functionMarker => "function_marker"
  | internalCalls => "internal_call_prefixes"
  | includeMainGraph => "include_main_graph"

/-- What is settled under a key. -/
def Value : SettingKey → Type
  | interpreter | saveDirectory | functionMarker => String
  | batchSize => Nat
  | loss => Loss
  | optimizer => Optimizer
  | learningRate => Option Float
  | infoDirectory => Option String
  | cpuInference | includeMainGraph => Bool
  | internalCalls => List String

/-- What settings have for a key. -/
def get (s : Settings) : (key : SettingKey) → key.Value
  | interpreter => s.interpreter
  | batchSize => s.batchSize
  | loss => s.loss
  | optimizer => s.optimizer
  | learningRate => s.learningRate
  | saveDirectory => s.saveDirectory
  | infoDirectory => s.infoDirectory
  | cpuInference => s.cpuInference
  | functionMarker => s.reconstruction.functionMarker
  | internalCalls => s.reconstruction.internalCalls
  | includeMainGraph => s.reconstruction.includeMainGraph

/-- Settings with another value for a key. -/
def set (s : Settings) : (key : SettingKey) → key.Value → Settings
  | interpreter, value => { s with interpreter := value }
  | batchSize, value => { s with batchSize := value }
  | loss, value => { s with loss := value }
  | optimizer, value => { s with optimizer := value }
  | learningRate, value => { s with learningRate := value }
  | saveDirectory, value => { s with saveDirectory := value }
  | infoDirectory, value => { s with infoDirectory := value }
  | cpuInference, value => { s with cpuInference := value }
  | functionMarker, value =>
    { s with reconstruction := { s.reconstruction with functionMarker := value } }
  | internalCalls, value =>
    { s with reconstruction := { s.reconstruction with internalCalls := value } }
  | includeMainGraph, value =>
    { s with reconstruction := { s.reconstruction with includeMainGraph := value } }

/-- What the text of a value says for a key, in settings that belong to the directory `root`. -/
def read (root : String) : (key : SettingKey) → String → Except SettingFault key.Value
  | interpreter, text | functionMarker, text => .ok (unquoted text)
  | batchSize, text => SettingValue.batchSize text
  | loss, text => SettingValue.loss text
  | optimizer, text => SettingValue.optimizer text
  | learningRate, text => (SettingValue.learningRate text).map some
  | saveDirectory, text => .ok (Path.join root (unquoted text))
  | infoDirectory, text => .ok (some (Path.join root (unquoted text)))
  | cpuInference, text | includeMainGraph, text => SettingValue.boolean text
  | internalCalls, text => SettingValue.texts text

/-- No two keys have the same name. -/
theorem name_injective {key other : SettingKey} (h : key.name = other.name) : key = other := by
  cases key <;> cases other <;> first | rfl | exact absurd h (by decide)

/-! ## Fields -/

variable {s s' : Settings}

@[simp]
theorem root_set (s : Settings) (key : SettingKey) (value : key.Value) :
    (set s key value).root = s.root := by
  cases key <;> rfl

@[simp]
theorem get_set_self (s : Settings) (key : SettingKey) (value : key.Value) :
    get (set s key value) key = value := by
  cases key <;> rfl

theorem get_set_of_ne {key other : SettingKey} (h : other ≠ key) (s : Settings)
    (value : key.Value) : get (set s key value) other = get s other := by
  cases key <;> cases other <;> first | rfl | exact absurd rfl h

/-- Settings of one directory are the same if they have the same for every key. -/
theorem eq_of_get_eq (hroot : s.root = s'.root) (h : ∀ key, get s key = get s' key) : s = s' := by
  have hreconstruction : s.reconstruction = s'.reconstruction := by
    have hmarker : s.reconstruction.functionMarker = s'.reconstruction.functionMarker :=
      h functionMarker
    have hcalls : s.reconstruction.internalCalls = s'.reconstruction.internalCalls :=
      h internalCalls
    have hmain : s.reconstruction.includeMainGraph = s'.reconstruction.includeMainGraph :=
      h includeMainGraph
    cases hs : s.reconstruction
    cases hs' : s'.reconstruction
    rw [hs, hs'] at hmarker hcalls hmain
    rw [ReconstructionOptions.mk.injEq]
    exact ⟨hmarker, hcalls, hmain⟩
  cases s
  cases s'
  rw [Settings.mk.injEq]
  exact ⟨hroot, h interpreter, h loss, h optimizer, h learningRate, h batchSize, h saveDirectory,
    h infoDirectory, h cpuInference, hreconstruction⟩

end SettingKey

/-! ## Assignments -/

namespace Settings

variable {s s' : Settings} {sectionName name text : String}

/-- An assignment to a known key in its section fills the field of the key. -/
theorem assign_key (s : Settings) (key : SettingKey) (text : String) :
    s.assign key.sectionName key.name text =
      (key.read s.root text).map (SettingKey.set s key) := by
  cases key with
  | learningRate =>
      change (SettingValue.learningRate text).map _ =
        ((SettingValue.learningRate text).map some).map _
      cases SettingValue.learningRate text <;> rfl
  | _ => rfl

/-- An assignment to any other key says nothing. -/
theorem assign_of_unknown
    (h : ∀ key : SettingKey, ¬ (key.sectionName = sectionName ∧ key.name = name)) :
    s.assign sectionName name text = .ok s := by
  unfold assign
  split
  · exact absurd ⟨rfl, rfl⟩ (h .interpreter)
  · exact absurd ⟨rfl, rfl⟩ (h .batchSize)
  · exact absurd ⟨rfl, rfl⟩ (h .loss)
  · exact absurd ⟨rfl, rfl⟩ (h .optimizer)
  · exact absurd ⟨rfl, rfl⟩ (h .learningRate)
  · exact absurd ⟨rfl, rfl⟩ (h .saveDirectory)
  · exact absurd ⟨rfl, rfl⟩ (h .infoDirectory)
  · exact absurd ⟨rfl, rfl⟩ (h .cpuInference)
  · exact absurd ⟨rfl, rfl⟩ (h .functionMarker)
  · exact absurd ⟨rfl, rfl⟩ (h .internalCalls)
  · exact absurd ⟨rfl, rfl⟩ (h .includeMainGraph)
  · rfl

/-- What an assignment that is accepted has done: it has filled the field of its key with what its
value says, or nothing. -/
theorem assign_eq_ok (h : s.assign sectionName name text = .ok s') :
    (∃ (key : SettingKey) (value : key.Value), key.sectionName = sectionName ∧ key.name = name ∧
        key.read s.root text = .ok value ∧ s' = key.set s value) ∨
      (∀ key : SettingKey, ¬ (key.sectionName = sectionName ∧ key.name = name)) ∧ s' = s := by
  by_cases hknown : ∃ key : SettingKey, key.sectionName = sectionName ∧ key.name = name
  · rcases hknown with ⟨key, rfl, rfl⟩
    rw [assign_key, map_eq_ok_iff] at h
    rcases h with ⟨value, hread, heq⟩
    exact Or.inl ⟨key, value, rfl, rfl, hread, heq.symm⟩
  · rw [not_exists] at hknown
    rw [assign_of_unknown hknown] at h
    exact Or.inr ⟨hknown, (Except.ok.inj h).symm⟩

/-- An assignment is refused exactly if it is one to a known key, which its value is refused by. -/
theorem assign_eq_error_iff {fault : SettingFault} :
    s.assign sectionName name text = .error fault ↔
      ∃ key : SettingKey, key.sectionName = sectionName ∧ key.name = name ∧
        key.read s.root text = .error fault := by
  constructor
  · intro h
    by_cases hknown : ∃ key : SettingKey, key.sectionName = sectionName ∧ key.name = name
    · rcases hknown with ⟨key, rfl, rfl⟩
      rw [assign_key, map_eq_error_iff] at h
      exact ⟨key, rfl, rfl, h⟩
    · rw [not_exists] at hknown
      rw [assign_of_unknown hknown] at h
      cases h
  · rintro ⟨key, rfl, rfl, hread⟩
    rw [assign_key, map_eq_error_iff]
    exact hread

end Settings
end LayerNet
