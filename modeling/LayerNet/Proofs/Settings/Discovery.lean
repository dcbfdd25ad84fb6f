import LayerNet.Proofs.Settings.LastValues
import LayerNet.Proofs.Storage.Ancestors
import LayerNet.Settings.Discovery

/-!
# The nearest file with settings

The settings of a directory are in the nearest file with settings, in the directory itself or in one
above it, and they belong to the directory that this file is in.  If there is no such file, nothing
is settled, and that belongs to the directory that was begun with.

Main definitions:

- `Settings.HoldsFile`: whether a directory has a file with settings.
- `Settings.Nearest`: the nearest directory that has one.

Main results:

- `Settings.holdsFile_iff_of_ne_empty`, `Settings.holdsFile_empty_iff`: it is an entry of the
  directory.
- `Settings.findFile?_eq_some_iff`, `Settings.findFile?_eq_none_iff`: which file is found, and when
  there is none.
- `Settings.root_of_load`: where the settings in a file belong.
- `Settings.discover_nearest`: which settings a directory has.
-/

namespace LayerNet.Settings

/-- Whether a directory has a file with settings. -/
def HoldsFile (files : FileSystem) (directory : String) : Prop :=
  files.contains (Path.join directory settingsFile) = true

/-- The nearest directory that has a file with settings, from a directory upward. -/
def Nearest (files : FileSystem) (start directory : String) : Prop :=
  ∃ nearer further, Path.ancestors start = nearer ++ directory :: further ∧
    HoldsFile files directory ∧ ∀ other ∈ nearer, ¬ HoldsFile files other

variable {files : FileSystem} {start directory path : String} {s : Settings}

/-! ## The file -/

theorem isName_settingsFile : Path.IsName settingsFile := by
  decide

/-- A directory has a file with settings if that is among its entries, unless the path that leads to
the file is too long. -/
theorem holdsFile_iff_of_ne_empty (hdirectory : directory ≠ "") :
    HoldsFile files directory ↔
      (Path.join directory settingsFile).utf8ByteSize ≤ FileSystem.maxPath ∧
        ∃ place es, files.locate directory = .ok (place, .directory es) ∧
          (Table.find? settingsFile es).isSome = true := by
  simp only [HoldsFile, FileSystem.contains_iff,
    FileSystem.locate_join_eq_ok_iff isName_settingsFile, FileSystem.locate_eq_ok_iff,
    FileSystem.checkPath_join_iff isName_settingsFile (by decide) hdirectory]
  constructor
  · rintro ⟨_, node, ⟨hcheck, hlong⟩, -, above, es, hfold, hes, hentry, rfl⟩
    exact ⟨hlong, above, es, ⟨hcheck, hfold, hes, fun _ => rfl⟩, by rw [hentry]; rfl⟩
  · rintro ⟨hlong, above, es, ⟨hcheck, hfold, hes, -⟩, hthere⟩
    rcases Option.isSome_iff_exists.mp hthere with ⟨node, hentry⟩
    exact ⟨_, node, ⟨hcheck, hlong⟩, by decide, above, es, hfold, hes, hentry, rfl⟩

/-- The empty path has the files of the current directory. -/
theorem holdsFile_empty_iff :
    HoldsFile files "" ↔ ∃ es, files.node? files.current = some (.directory es) ∧
      (Table.find? settingsFile es).isSome = true := by
  have hcheck : FileSystem.checkPath (Path.join "" settingsFile) = .ok () := by decide +kernel
  simp only [HoldsFile, FileSystem.contains_iff,
    FileSystem.locate_join_eq_ok_iff isName_settingsFile, hcheck, true_and]
  constructor
  · rintro ⟨_, node, -, above, es, hfold, hes, hentry, rfl⟩
    obtain rfl : files.current = above := Except.ok.inj hfold
    exact ⟨es, hes, by rw [hentry]; rfl⟩
  · rintro ⟨es, hes, hthere⟩
    rcases Option.isSome_iff_exists.mp hthere with ⟨node, hentry⟩
    exact ⟨_, node, by decide, files.current, es, rfl, hes, hentry, rfl⟩

/-- The search finds the file of the nearest directory that holds one. -/
theorem findFile?_eq_some_iff : findFile? files start = some path ↔
    ∃ directory, Nearest files start directory ∧ path = Path.join directory settingsFile := by
  rw [findFile?, List.find?_map, Option.map_eq_some_iff]
  refine exists_congr fun directory => and_congr ?_ eq_comm
  rw [List.find?_eq_some_iff_append]
  constructor
  · rintro ⟨hholds, nearer, further, hsplit, hnone⟩
    refine ⟨nearer, further, hsplit, hholds, fun other hother => ?_⟩
    simpa [HoldsFile] using hnone other hother
  · rintro ⟨nearer, further, hsplit, hholds, hnone⟩
    refine ⟨hholds, nearer, further, hsplit, fun other hother => ?_⟩
    simpa [HoldsFile] using hnone other hother

/-- It finds nothing exactly if no ancestor holds a file. -/
theorem findFile?_eq_none_iff : findFile? files start = none ↔
    ∀ directory ∈ Path.ancestors start, ¬ HoldsFile files directory := by
  rw [findFile?, List.find?_map, Option.map_eq_none_iff, List.find?_eq_none]
  rfl

/-! ## The settings -/

/-- The root of settings that are loaded is the parent of their file. -/
theorem load_eq_ok_iff : load files path = .ok s ↔
    ∃ text, files.readText path = .ok text ∧ parse text ((Path.parent? path).getD ".") = .ok s := by
  rw [load]
  cases files.readText path with
  | error fault => simp
  | ok text => simp [mapError_eq_ok_iff]

/-- The settings in a file belong to the directory that the file is in. -/
theorem root_of_load (h : load files (Path.join directory settingsFile) = .ok s) :
    Path.route s.root = Path.route directory ∧
      ∃ text, files.readText (Path.join directory settingsFile) = .ok text ∧
        parse text s.root = .ok s := by
  rcases Path.route_parent_join isName_settingsFile directory with ⟨parent, hparent, hroute⟩
  rcases load_eq_ok_iff.mp h with ⟨text, htext, hparse⟩
  rw [hparent, Option.getD_some] at hparse
  obtain rfl : s.root = parent := (inForce_of_parse hparse).1
  exact ⟨hroute, text, htext, hparse⟩

theorem discover_of_nearest (h : Nearest files start directory) :
    discover files start = load files (Path.join directory settingsFile) := by
  rw [discover, findFile?_eq_some_iff.mpr ⟨directory, h, rfl⟩]

/-- Without a file the defaults hold, with paths from the start of the search. -/
theorem discover_of_none (h : ∀ directory ∈ Path.ancestors start, ¬ HoldsFile files directory) :
    discover files start = .ok (rooted start) := by
  rw [discover, findFile?_eq_none_iff.mpr h]

/-- The settings of a directory are those in the nearest file with settings, in the directory or
above it, and belong to the directory of this file.  The directories that are looked into go without
one more name each, down to none.  If none of them has such a file, nothing is settled. -/
theorem discover_nearest (files : FileSystem) (start : String) :
    (∃ above, Path.ancestors start = start :: above) ∧
    (Path.ancestors start).map Path.route = (Path.route start).upward ∧
    (∀ path, findFile? files start = some path ↔
      ∃ directory, Nearest files start directory ∧ path = Path.join directory settingsFile) ∧
    (findFile? files start = none ↔
      ∀ directory ∈ Path.ancestors start, ¬ HoldsFile files directory) ∧
    (∀ directory s, Nearest files start directory → discover files start = .ok s →
      Path.route s.root = Path.route directory ∧
      ∃ text, files.readText (Path.join directory settingsFile) = .ok text ∧
        parse text s.root = .ok s) ∧
    ((∀ directory ∈ Path.ancestors start, ¬ HoldsFile files directory) →
      discover files start = .ok (rooted start)) := by
  refine ⟨?_, Path.map_route_ancestors start, fun path => findFile?_eq_some_iff,
    findFile?_eq_none_iff, ?_, discover_of_none⟩
  · rw [Path.ancestors]
    exact ⟨_, rfl⟩
  · intro directory s hnearest hs
    rw [discover_of_nearest hnearest] at hs
    exact root_of_load hs

/-- A file system with settings in its current directory. -/
def settledFiles : FileSystem where
  root := .directory [(settingsFile, .file "[compile]\nbatch_size = 4\n".toUTF8 false)]

/-- A part that is a point is passed over on the way up. -/
theorem ancestors_nested : Path.ancestors "a/./b" = ["a/./b", "a", ""] := by
  have hb : Path.parent? "a/./b" = some "a" := by decide +kernel
  have ha : Path.parent? "a" = some "" := by decide +kernel
  have hnone : Path.parent? "" = none := by decide +kernel
  rw [Path.ancestors_of_parent? hb, Path.ancestors_of_parent? ha, Path.ancestors_of_none hnone]

/-- The file is found two levels up, behind a path with a point in it. -/
theorem discover_nearest_settledFiles : Nearest settledFiles "a/./b" "" ∧
    findFile? settledFiles "a/./b" = some settingsFile ∧
    ∃ s, discover settledFiles "a/./b" = .ok s ∧
      Path.route s.root = ⟨false, []⟩ ∧ s.batchSize = 4 := by
  rcases discover_nearest settledFiles "a/./b" with ⟨-, -, hfound, -, hsettled, -⟩
  have hnearest : Nearest settledFiles "a/./b" "" := by
    refine ⟨["a/./b", "a"], [], ancestors_nested, ?_, ?_⟩
    · rw [HoldsFile]
      decide +kernel
    · simp only [HoldsFile]
      decide +kernel
  have hdiscover : (discover settledFiles "a/./b").map Settings.batchSize = .ok 4 := by
    rw [discover_of_nearest hnearest]
    decide +kernel
  rcases map_eq_ok_iff.mp hdiscover with ⟨s, hs, hsize⟩
  have hroute := (hsettled "" s hnearest hs).1
  exact ⟨hnearest, (hfound _).mpr ⟨"", hnearest, rfl⟩, s, hs, hroute, hsize⟩

end LayerNet.Settings
