import LayerNet.Text.Lines

/-!
# Paths

A path is a text; nothing in it is looked up or simplified.  Its parts stand between slashes.  Empty
parts and parts `.` say nothing, but for a `.` at the very beginning.

Main definitions:

- `Path.join`: a path below another.
- `Path.parent?`: a path without its last part.
- `Path.ancestors`: a path, its parent, the parent of that, and so on.
- `Path.length_of_parent?`: a parent is shorter.
-/

namespace LayerNet.Path

/-! ## Joining -/

/-- Whether a path begins at the root. -/
def isAbsolute (path : String) : Bool :=
  path.toList.head? == some '/'

/-- The path that is reached by `path` from `base`; an absolute path is reached from anywhere. -/
def join (base path : String) : String :=
  if isAbsolute path then path
  else if base.isEmpty || base.toList.getLast? == some '/' then base ++ path
  else base ++ "/" ++ path

/-! ## Parents -/

/-- The characters of a path in reverse, without the parts at its end that say nothing. -/
def trimParts : List Char → List Char
  | '/' :: cs => trimParts cs
  | ['.'] => []
  | '.' :: '/' :: cs => trimParts cs
  | cs => cs

/-- The characters of a path in reverse without its last part; none if there is no part. -/
def withoutLast? (cs : List Char) : Option (List Char) :=
  match trimParts cs with
  | [] => none
  | _ :: cs => some (trimParts (cs.dropWhile (· ≠ '/')))

/-- Whether a path begins with a part `.`, which the characters `cs` follow. -/
def endsFirstPart (cs : List Char) : Bool :=
  cs.isEmpty || cs.head? == some '/'

/-- The characters of the parent of a path. -/
def parentChars? : List Char → Option (List Char)
  | '/' :: cs => (withoutLast? cs.reverse).map fun kept => '/' :: kept.reverse
  | '.' :: cs =>
    if endsFirstPart cs then
      some (((withoutLast? cs.reverse).map fun kept => '.' :: kept.reverse).getD [])
    else (withoutLast? ('.' :: cs).reverse).map List.reverse
  | cs => (withoutLast? cs.reverse).map List.reverse

/-- A path without its last part; the root and the empty path have no parent. -/
def parent? (path : String) : Option String :=
  (parentChars? path.toList).map String.ofList

/-- The parent of a path is shorter than the path, by the following lemmas: this is why going up
ends. -/
theorem length_trimParts (cs : List Char) : (trimParts cs).length ≤ cs.length := by
  fun_induction trimParts cs with
  | case1 cs ih => exact Nat.le_succ_of_le ih
  | case2 => exact Nat.zero_le _
  | case3 cs ih => exact Nat.le_succ_of_le (Nat.le_succ_of_le ih)
  | case4 => exact Nat.le_refl _

theorem length_of_withoutLast? {cs kept : List Char} (h : withoutLast? cs = some kept) :
    kept.length < cs.length := by
  unfold withoutLast? at h
  have whole := length_trimParts cs
  split at h
  · simp at h
  · rename_i c rest hrest
    simp only [Option.some.injEq] at h
    subst h
    have h₁ := length_trimParts (rest.dropWhile (· ≠ '/'))
    have h₂ := (List.dropWhile_suffix (l := rest) (· ≠ '/')).length_le
    simp only [hrest, List.length_cons] at whole
    omega

theorem length_of_parentChars? {cs kept : List Char} (h : parentChars? cs = some kept) :
    kept.length < cs.length := by
  unfold parentChars? at h
  split at h
  · simp only [Option.map_eq_some_iff] at h
    obtain ⟨k, hk, rfl⟩ := h
    simpa using length_of_withoutLast? hk
  · rename_i rest
    split at h
    · simp only [Option.some.injEq] at h
      subst h
      cases hk : withoutLast? rest.reverse with
      | none => simp
      | some k => simpa using length_of_withoutLast? hk
    · simp only [Option.map_eq_some_iff] at h
      obtain ⟨k, hk, rfl⟩ := h
      simpa using length_of_withoutLast? hk
  · simp only [Option.map_eq_some_iff] at h
    obtain ⟨k, hk, rfl⟩ := h
    simpa using length_of_withoutLast? hk

/-- A parent is shorter than its path. -/
theorem length_of_parent? {path parent : String} (h : parent? path = some parent) :
    parent.toList.length < path.toList.length := by
  simp only [parent?, Option.map_eq_some_iff] at h
  obtain ⟨kept, hkept, rfl⟩ := h
  simpa using length_of_parentChars? hkept

/-- A path, its parent, the parent of that, and so on. -/
def ancestors (path : String) : List String :=
  path ::
    match _hparent : parent? path with
    | some parent => ancestors parent
    | none => []
termination_by path.toList.length
decreasing_by exact length_of_parent? _hparent

/-! ## Parts -/

/-- The parts of a path that are not empty. -/
def parts (path : String) : List String :=
  (Text.splitAtChar '/' path).filter fun part => !part.isEmpty

/-- The path that leads from the root by names. -/
def ofPlace (place : List String) : String :=
  "/" ++ "/".intercalate place

/-- Whether a path ends with a slash, so that it can only mean a directory. -/
def endsWithSlash (path : String) : Bool :=
  path.toList.getLast? == some '/'

end LayerNet.Path
