import LayerNet.Reconstruction.Session
import LayerNet.Training.Compilation

/-!
# Settings

What a user may settle once for a directory instead of with every command.  Paths in the settings
are taken from the directory that the settings belong to.

Main definitions:

- `Settings`, `Settings.rooted`: the settings, and those of a directory without any.
- `Settings.compileConfig`, `Settings.optimizerNamed`: what they say for a compilation.
- `Settings.program`: the interpreter that scripts are run with.
-/

namespace LayerNet

/-- The interpreter when none is settled. -/
def defaultInterpreter : String :=
  "python3"

/-- What may be settled for a directory. -/
structure Settings where
  /-- the directory that the settings belong to -/
  root : String
  interpreter : String := defaultInterpreter
  loss : Loss := default
  optimizer : Optimizer := default
  /-- the learning rate if one is settled; another optimizer takes it over -/
  learningRate : Option Float := none
  batchSize : Nat := 1
  saveDirectory : String := Path.join root "model"
  infoDirectory : Option String := none
  cpuInference : Bool := false
  reconstruction : ReconstructionOptions := {}

namespace Settings

/-- The settings of a directory in which nothing is settled. -/
def rooted (root : String) : Settings where
  root := root

/-- The settings when not even a directory is given. -/
instance : Inhabited Settings :=
  ⟨rooted "."⟩

/-- An optimizer with the settled learning rate, if there is one. -/
def withLearningRate (s : Settings) (o : Optimizer) : Optimizer :=
  match s.learningRate with
  | some rate => { o with learningRate := rate }
  | none => o

/-- A learning rate that is given goes before the one that the algorithm has of its own. -/
theorem withLearningRate_eq (s : Settings) (o : Optimizer) :
    s.withLearningRate o = { o with learningRate := s.learningRate.getD o.learningRate } := by
  rw [withLearningRate]
  cases s.learningRate <;> rfl

/-- The optimizer of a name, with the settled learning rate. -/
def optimizerNamed (s : Settings) (name : String) : Option Optimizer :=
  (Optimizer.ofAlias? name).map s.withLearningRate

/-- The configuration of a compilation as it is settled. -/
def compileConfig (s : Settings) : CompileConfig where
  saveDirectory := s.saveDirectory
  loss := s.loss
  optimizer := s.optimizer
  batchSize := s.batchSize
  infoDirectory := s.infoDirectory
  cpuInference := s.cpuInference

end Settings

/-- The interpreter that is used: the override without the blanks around it, unless it is blank or
not there. -/
def chosenInterpreter (override : Option String) (fallback : String) : String :=
  match override with
  | some program => if Text.isBlankText program then fallback else Text.trim program
  | none => fallback

/-- The interpreter that scripts are run with; `override` comes from the surroundings. -/
def Settings.program (s : Settings) (override : Option String) : String :=
  chosenInterpreter override s.interpreter

end LayerNet
