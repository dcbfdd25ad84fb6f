import LayerNet.Settings.Reader

/-!
# Discovery of settings

The settings of a directory are in a file there, or else in the nearest directory above it that has
such a file.

Main definitions:

- `ConfigError`: why settings cannot be had, with its message.
- `Settings.load`: the settings of a file.
- `Settings.findFile?`: the nearest file with settings.
- `Settings.discover`: the settings of a directory.
-/

namespace LayerNet

/-- The name of files with settings. -/
def settingsFile : String :=
  "kgraph.toml"

/-- Why settings cannot be had. -/
inductive ConfigError where
  | read (path : String) (fault : FileFault)
  | invalid (path : String) (error : SettingError)
deriving DecidableEq, Repr

/-- What is said of an error. -/
def ConfigError.message : ConfigError → String
  | .read path fault => "cannot read '" ++ path ++ "': " ++ fault.message
  | .invalid path error =>
    path ++ ":" ++ Decimal.natText error.line ++ ": " ++ error.fault.message

namespace Settings

/-- The settings in a file; they belong to the directory that the file is in. -/
def load (files : FileSystem) (path : String) : Except ConfigError Settings :=
  match files.readText path with
  | .error fault => .error (.read path fault)
  | .ok text => (parse text ((Path.parent? path).getD ".")).mapError (.invalid path)

/-- The file with settings in a directory or else in the nearest directory above it. -/
def findFile? (files : FileSystem) (directory : String) : Option String :=
  ((Path.ancestors directory).map fun path => Path.join path settingsFile).find? files.contains

/-- The settings of a directory. -/
def discover (files : FileSystem) (directory : String) : Except ConfigError Settings :=
  match findFile? files directory with
  | some path => load files path
  | none => .ok (rooted directory)

end Settings

end LayerNet
