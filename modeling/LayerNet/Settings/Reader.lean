import LayerNet.Decimal.Reader
import LayerNet.Settings.Basic
import LayerNet.Text.Lines

/-!
# Reading settings

Settings are written line by line: blank lines, comments, sections in brackets, and assignments of a
value to a key, which belong to the section last begun.  An assignment to a key that is not known in
its section says nothing.  The first line that cannot be read is reported.

Main definitions:

- `SettingsLine`: what a line says.
- `SettingFault`: why a line cannot be read, with its message.
- `Settings.assign`: the effect of one assignment.
- `Settings.parse`: the settings that a text says.
-/

namespace LayerNet

/-! ## Lines -/

/-- What a line of settings says. -/
inductive SettingsLine where
  | nothing
  | sectionStart (name : String)
  | assignment (key value : String)
  | unreadable (text : String)
deriving DecidableEq, Repr

/-- A text without the quotation marks at its two ends. -/
def unquoted (text : String) : String :=
  Text.trimBoth (· = '"') text

namespace SettingsLine

/-- What the characters between brackets are, if they are between brackets. -/
def bracketed? : List Char → Option (List Char)
  | '[' :: cs => if cs.getLast? = some ']' then some cs.dropLast else none
  | _ => none

/-- What a line without blanks around it says. -/
def ofTrimmed (text : String) : SettingsLine :=
  let cs := text.toList
  if cs.isEmpty || cs.head? == some '#' then nothing
  else
    match bracketed? cs with
    | some name => sectionStart (Text.trim (String.ofList name))
    | none =>
      match Text.breakOn ['='] cs with
      | some (key, value) =>
        assignment (unquoted (Text.trim (String.ofList key))) (Text.trim (String.ofList value))
      | none => unreadable text

/-- What a line says. -/
def ofText (line : String) : SettingsLine :=
  ofTrimmed (Text.trim line)

end SettingsLine

/-! ## Faults -/

/-- Why a line of settings cannot be read. -/
inductive SettingFault where
  | notAssignment (text : String)
  | batchSize (text : String)
  | batchSizeZero
  | loss (name : String)
  | optimizer (name : String)
  | learningRate (text : String)
  | notBoolean (text : String)
  | notArray (text : String)
deriving DecidableEq, Repr

/-- What is said of a fault. -/
def SettingFault.message : SettingFault → String
  | .notAssignment text => "expected 'key = value', found '" ++ text ++ "'"
  | .batchSize text => "invalid batch_size '" ++ text ++ "'"
  | .batchSizeZero => "batch_size must be at least 1"
  | .loss name => Loss.unknownMessage name
  | .optimizer name => Optimizer.unknownMessage name
  | .learningRate text => "invalid learning_rate '" ++ text ++ "'"
  | .notBoolean text => "expected true or false, found '" ++ text ++ "'"
  | .notArray text => "expected a string array, found '" ++ text ++ "'"

/-- A fault with the number of its line, counted from one. -/
structure SettingError where
  line : Nat
  fault : SettingFault
deriving DecidableEq, Repr

/-! ## Values -/

namespace SettingValue

/-- A batch size: a number from one to `2 ^ 64 - 1`. -/
def batchSize (value : String) : Except SettingFault Nat :=
  match Decimal.word64? value with
  | none => .error (.batchSize value)
  | some 0 => .error .batchSizeZero
  | some n => .ok n

/-- The name of a loss, in quotation marks or not. -/
def loss (value : String) : Except SettingFault Loss :=
  match Loss.ofName? (unquoted value) with
  | some l => .ok l
  | none => .error (.loss (unquoted value))

/-- The name of an optimizer, in quotation marks or not. -/
def optimizer (value : String) : Except SettingFault Optimizer :=
  match Optimizer.ofAlias? (unquoted value) with
  | some o => .ok o
  | none => .error (.optimizer (unquoted value))

/-- A learning rate. -/
def learningRate (value : String) : Except SettingFault Float :=
  match Decimal.float? value with
  | some x => .ok x
  | none => .error (.learningRate value)

/-- One of two truth values. -/
def boolean (value : String) : Except SettingFault Bool :=
  if value = "true" then .ok true
  else if value = "false" then .ok false
  else .error (.notBoolean value)

/-- Texts between brackets, separated by commas, in quotation marks or not; empty ones are left
out. -/
def texts (value : String) : Except SettingFault (List String) :=
  match SettingsLine.bracketed? value.toList with
  | none => .error (.notArray value)
  | some cs =>
    let items := (Text.splitAtChar ',' (String.ofList cs)).map fun item => unquoted (Text.trim item)
    .ok (items.filter fun item => !item.isEmpty)

end SettingValue

/-! ## Assignments -/

namespace Settings

/-- The effect of an assignment in a section. -/
def assign (s : Settings) (sectionName key value : String) : Except SettingFault Settings :=
  match sectionName, key with
  | "runtime", "interpreter" => .ok { s with interpreter := unquoted value }
  | "compile", "batch_size" =>
    (SettingValue.batchSize value).map fun n => { s with batchSize := n }
  | "compile", "loss" => (SettingValue.loss value).map fun l => { s with loss := l }
  | "compile", "optimizer" =>
    (SettingValue.optimizer value).map fun o => { s with optimizer := o }
  | "compile", "learning_rate" =>
    (SettingValue.learningRate value).map fun rate => { s with learningRate := some rate }
  | "compile", "save_dir" => .ok { s with saveDirectory := Path.join s.root (unquoted value) }
  | "compile", "model_info_dir" =>
    .ok { s with infoDirectory := some (Path.join s.root (unquoted value)) }
  | "compile", "cpu_inference" =>
    (SettingValue.boolean value).map fun b => { s with cpuInference := b }
  | "decompile", "function_marker" =>
    .ok { s with reconstruction := { s.reconstruction with functionMarker := unquoted value } }
  | "decompile", "internal_call_prefixes" =>
    (SettingValue.texts value).map fun calls =>
      { s with reconstruction := { s.reconstruction with internalCalls := calls } }
  | "decompile", "include_main_graph" =>
    (SettingValue.boolean value).map fun b =>
      { s with reconstruction := { s.reconstruction with includeMainGraph := b } }
  | _, _ => .ok s

/-- The settings after some lines; `sectionName` is the section begun before them, and `line` the
number of the first. -/
def afterLines (s : Settings) (sectionName : String) (line : Nat) :
    List String → Except SettingError Settings
  | [] => .ok s
  | text :: rest =>
    match SettingsLine.ofText text with
    | .nothing => afterLines s sectionName (line + 1) rest
    | .sectionStart name => afterLines s name (line + 1) rest
    | .unreadable text => .error ⟨line, .notAssignment text⟩
    | .assignment key value =>
      match s.assign sectionName key value with
      | .error fault => .error ⟨line, fault⟩
      | .ok s => afterLines s sectionName (line + 1) rest

/-- The settings that a text says for a directory.  The learning rate goes to the optimizer
whichever of them comes first. -/
def parse (text root : String) : Except SettingError Settings :=
  ((rooted root).afterLines "" 1 (Text.lines text)).map fun s =>
    { s with optimizer := s.withLearningRate s.optimizer }

end Settings

end LayerNet
