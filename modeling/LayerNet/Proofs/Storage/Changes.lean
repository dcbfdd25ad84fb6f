import Mathlib.Data.List.Basic
import Mathlib.Tactic.SplitIfs
import LayerNet.Proofs.Outcome
import LayerNet.Storage.FileSystem

/-!
# Changes of file systems

Directories are made, and files are written, in directories that are there.  Such a change takes
nothing away, so that every path still leads where it led; what it may change is what a file holds
that is written to.  A directory that was made is there afterwards, and a file holds what was
written to it, unless the path leads to a device.

Main definitions:

- `Node.Keeps`, `FileSystem.Keeps`: nothing is taken away, and only given files may be others.
- `FileSystem.NamesEntry`: a path names an entry of a directory that is there.
- `FileSystem.Holds`: a path leads to a file with the given text, or to a device.

Main results:

- `Node.keeps_put`: what a change in a directory keeps.
- `FileSystem.Keeps.locate`: paths still lead where they led.
- `FileSystem.makeDirectories_spec`: what making directories does.
- `FileSystem.makeDirectories_of_isDirectory`: where the directory is there, it does nothing.
- `FileSystem.writeText_cases`, `FileSystem.holds_of_writeText`: what writing a text does.
- `FileSystem.Holds.readText`: what is read where a text was written.
-/

namespace LayerNet

/-! ## Trees -/

namespace Node

theorem isDirectory_of_find?_entries {node child : Node} {name : String}
    (h : Table.find? name node.entries = some child) : node.isDirectory = true := by
  cases node with
  | directory es => rfl
  | file content executable => simp [entries] at h
  | device device => simp [entries] at h

theorem find?_cons_of_find? {node child : Node} {name : String}
    (h : Table.find? name node.entries = some child) (names : List String) :
    node.find? (name :: names) = child.find? names := by
  rw [find?_cons, h, Option.bind_some]

theorem exists_of_find?_cons {node found : Node} {name : String} {names : List String}
    (h : node.find? (name :: names) = some found) :
    ∃ child, Table.find? name node.entries = some child ∧ child.find? names = some found := by
  rwa [find?_cons, Option.bind_eq_some_iff] at h

theorem find?_append (node : Node) (front back : List String) :
    node.find? (front ++ back) = (node.find? front).bind fun child => child.find? back := by
  induction front generalizing node with
  | nil => simp
  | cons name names ih =>
      rw [List.cons_append, find?_cons, find?_cons, Option.bind_assoc]
      exact congrArg _ (funext ih)

/-- There is nothing below what is no directory. -/
theorem eq_of_find?_of_not_isDirectory {node found : Node} {names : List String}
    (hnode : node.isDirectory = false) (h : node.find? names = some found) :
    names = [] ∧ found = node := by
  cases names with
  | nil => exact ⟨rfl, (Option.some.inj ((find?_nil node).symm.trans h)).symm⟩
  | cons name names =>
      rcases exists_of_find?_cons h with ⟨child, hchild, -⟩
      simp [isDirectory_of_find?_entries hchild] at hnode

/-- Nothing is taken away and directories stay directories; only the files and devices at the places
that `changes` names may be others. -/
def Keeps (changes : List String → Prop) (node node' : Node) : Prop :=
  ∀ ⦃place : List String⦄ ⦃found : Node⦄, node.find? place = some found →
    ∃ found', node'.find? place = some found' ∧ found'.isDirectory = found.isDirectory ∧
      (found.isDirectory = false → ¬changes place → found' = found)

variable {changes : List String → Prop}

theorem Keeps.refl (node : Node) : Keeps changes node node :=
  fun _ _ h => ⟨_, h, rfl, fun _ _ => rfl⟩

theorem Keeps.trans {node node' node'' : Node} (h : Keeps changes node node')
    (h' : Keeps changes node' node'') : Keeps changes node node'' := by
  intro place found hfound
  rcases h hfound with ⟨found', hfound', hkind, hsame⟩
  rcases h' hfound' with ⟨found'', hfound'', hkind', hsame'⟩
  refine ⟨found'', hfound'', hkind'.trans hkind, fun hfile hplace => ?_⟩
  rw [hsame' (hkind.trans hfile) hplace, hsame hfile hplace]

theorem Keeps.mono {changes' : List String → Prop} {node node' : Node}
    (h : Keeps changes node node') (himp : ∀ place, changes place → changes' place) :
    Keeps changes' node node' := by
  intro place found hfound
  rcases h hfound with ⟨found', hfound', hkind, hsame⟩
  exact ⟨found', hfound', hkind, fun hfile hplace =>
    hsame hfile fun hchanges => hplace (himp place hchanges)⟩

/-- Nothing is below what is no directory, so that it may be replaced. -/
theorem keeps_of_not_isDirectory {old new : Node} (hold : old.isDirectory = false)
    (hnew : new.isDirectory = false) (hchanges : changes []) : Keeps changes old new := by
  intro place found hfound
  rcases eq_of_find?_of_not_isDirectory hold hfound with ⟨rfl, rfl⟩
  exact ⟨new, find?_nil new, hnew.trans hold.symm, fun _ hplace => absurd hchanges hplace⟩

/-- In a directory an entry is put in, or is replaced by one that keeps what is below it. -/
theorem Keeps.insert {node child' : Node} {name : String} (hnode : node.isDirectory = true)
    (hchild : ∀ child, Table.find? name node.entries = some child →
      Keeps (fun names => changes (name :: names)) child child') :
    Keeps changes node (.directory (Table.insert name child' node.entries)) := by
  intro place found hfound
  cases place with
  | nil =>
      rw [find?_nil, Option.some.injEq] at hfound
      subst hfound
      exact ⟨_, find?_nil _, hnode.symm, fun hfile => absurd (hnode.symm.trans hfile) (by decide)⟩
  | cons first names =>
      rcases exists_of_find?_cons hfound with ⟨child, hat, hbelow⟩
      by_cases hfirst : first = name
      · subst hfirst
        rcases hchild child hat hbelow with ⟨found', hfound', hkind, hsame⟩
        refine ⟨found', ?_, hkind, hsame⟩
        rwa [find?_cons_of_find? (Table.find?_insert_self first child' node.entries)]
      · have hstays : Table.find? first (Table.insert name child' node.entries) = some child :=
          (Table.find?_insert_of_ne hfirst child' node.entries).trans hat
        exact ⟨found, (find?_cons_of_find? hstays names).trans hbelow, rfl, fun _ _ => rfl⟩

/-- A node may be put into a directory that is there, in the place of what is no directory. -/
theorem keeps_put {new node : Node} {place : List String} {part : String}
    {es : List (String × Node)} (hplace : node.find? place = some (.directory es))
    (hnew : ∀ old, Table.find? part es = some old →
      old.isDirectory = false ∧ new.isDirectory = false ∧ changes (place ++ [part])) :
    Keeps changes node (put new node (place ++ [part])) := by
  induction place generalizing node changes with
  | nil =>
      rw [find?_nil, Option.some.injEq] at hplace
      subst hplace
      refine Keeps.insert rfl fun old hold => ?_
      rcases hnew old hold with ⟨hfile, hfile', hchanges⟩
      exact keeps_of_not_isDirectory hfile hfile' hchanges
  | cons first place ih =>
      rcases exists_of_find?_cons hplace with ⟨inner, hinner, hbelow⟩
      have hput : put new node (first :: place ++ [part]) =
          .directory (Table.insert first (put new inner (place ++ [part])) node.entries) := by
        simp [put, hinner]
      rw [hput]
      refine Keeps.insert (isDirectory_of_find?_entries hinner) fun child hchild => ?_
      obtain rfl : inner = child := Option.some.inj (hinner.symm.trans hchild)
      exact ih hbelow hnew

end Node

namespace FileSystem

variable {fs fs' fs'' : FileSystem} {path : String} {place : List String}

theorem node?_of_directory {es : List (String × Node)}
    (h : fs.node? place = some (.directory es)) (part : String) :
    fs.node? (place ++ [part]) = Table.find? part es := by
  rw [node?] at h
  simp [node?, Node.find?_append, Node.find?_cons, h]

/-- From a directory a part leads to the directory itself, to the one above, or to an entry. -/
theorem step_eq_ok_iff {part : String} {place' : List String} :
    fs.step place part = .ok place' ↔
      ∃ es, fs.node? place = some (.directory es) ∧
        ((part = "." ∧ place' = place) ∨
          (part ≠ "." ∧ part = ".." ∧ place' = place.dropLast) ∨
          (part ≠ "." ∧ part ≠ ".." ∧ part.utf8ByteSize ≤ maxName ∧
            (Table.find? part es).isSome = true ∧ place' = place ++ [part])) := by
  constructor
  · intro h
    unfold step at h
    split at h
    · rename_i es hplace
      refine ⟨es, hplace, ?_⟩
      split_ifs at h with hdot hdots hlong hpart
      · exact Or.inl ⟨hdot, (Except.ok.inj h).symm⟩
      · exact Or.inr (Or.inl ⟨hdot, hdots, (Except.ok.inj h).symm⟩)
      · exact Or.inr (Or.inr
          ⟨hdot, hdots, Nat.le_of_not_lt hlong, hpart, (Except.ok.inj h).symm⟩)
    · simp at h
    · simp at h
  · rintro ⟨es, hplace, h⟩
    unfold step
    rw [hplace]
    rcases h with ⟨rfl, rfl⟩ | ⟨hdot, rfl, rfl⟩ | ⟨hdot, hdots, hlong, hpart, rfl⟩
    · rfl
    · rfl
    · simp [hdot, hdots, Nat.not_lt_of_le hlong, hpart]

/-! ## What stays -/

/-- What stays in a tree stays, and so does the current directory. -/
structure Keeps (changes : List String → Prop) (fs fs' : FileSystem) : Prop where
  current : fs'.current = fs.current
  root : Node.Keeps changes fs.root fs'.root

namespace Keeps

variable {changes : List String → Prop}

theorem refl (fs : FileSystem) : Keeps changes fs fs :=
  ⟨rfl, .refl fs.root⟩

theorem trans (h : Keeps changes fs fs') (h' : Keeps changes fs' fs'') : Keeps changes fs fs'' :=
  ⟨h'.current.trans h.current, h.root.trans h'.root⟩

theorem directory (h : Keeps changes fs fs') {es : List (String × Node)}
    (hplace : fs.node? place = some (.directory es)) :
    ∃ es', fs'.node? place = some (.directory es') := by
  rcases h.root hplace with ⟨found', hfound', hkind, -⟩
  cases found' with
  | directory es' => exact ⟨es', hfound'⟩
  | file content executable => simp [Node.isDirectory] at hkind
  | device device => simp [Node.isDirectory] at hkind

theorem putNode {new : Node} {part : String} {es : List (String × Node)}
    (hplace : fs.node? place = some (.directory es))
    (hnew : ∀ old, fs.node? (place ++ [part]) = some old →
      old.isDirectory = false ∧ new.isDirectory = false ∧ changes (place ++ [part])) :
    Keeps changes fs (fs.putNode (place ++ [part]) new) where
  current := rfl
  root := by
    rw [node?_of_directory hplace] at hnew
    exact Node.keeps_put hplace hnew

/-! ### Paths -/

theorem start (h : Keeps changes fs fs') (path : String) : fs'.start path = fs.start path := by
  rw [FileSystem.start, FileSystem.start, h.current]

theorem step (h : Keeps changes fs fs') {part : String} {place' : List String}
    (hstep : fs.step place part = .ok place') : fs'.step place part = .ok place' := by
  rcases step_eq_ok_iff.mp hstep with ⟨es, hplace, hparts⟩
  rcases h.directory hplace with ⟨es', hplace'⟩
  refine step_eq_ok_iff.mpr ⟨es', hplace', ?_⟩
  rcases hparts with hdot | hdots | ⟨hdot, hdots, hlong, hpart, rfl⟩
  · exact Or.inl hdot
  · exact Or.inr (Or.inl hdots)
  · rcases Option.isSome_iff_exists.mp hpart with ⟨child, hchild⟩
    rcases h.root ((node?_of_directory hplace part).trans hchild) with ⟨child', hchild', -⟩
    have hentry : Table.find? part es' = some child' :=
      (node?_of_directory hplace' part).symm.trans hchild'
    exact Or.inr (Or.inr ⟨hdot, hdots, hlong, Option.isSome_iff_exists.mpr ⟨child', hentry⟩, rfl⟩)

theorem foldlM_step (h : Keeps changes fs fs') {parts : List String} {place' : List String}
    (hfold : parts.foldlM fs.step place = .ok place') :
    parts.foldlM fs'.step place = .ok place' := by
  induction parts generalizing place with
  | nil => exact hfold
  | cons part parts ih =>
      rw [List.foldlM_cons, bind_eq_ok_iff] at hfold ⊢
      rcases hfold with ⟨next, hstep, hrest⟩
      exact ⟨next, h.step hstep, ih hrest⟩

end Keeps

theorem locate_eq_ok_iff {node : Node} :
    fs.locate path = .ok (place, node) ↔
      checkPath path = .ok () ∧ (Path.parts path).foldlM fs.step (fs.start path) = .ok place ∧
        fs.node? place = some node ∧
          (Path.endsWithSlash path = true → node.isDirectory = true) := by
  unfold locate
  simp only [bind_eq_ok_iff]
  constructor
  · rintro ⟨_, hcheck, place', hfold, h⟩
    split at h
    · simp at h
    · rename_i found hfound
      split_ifs at h with hslash
      simp only [pure, Except.pure, Except.ok.injEq, Prod.mk.injEq] at h
      rcases h with ⟨rfl, rfl⟩
      exact ⟨hcheck, hfold, hfound, by simpa using hslash⟩
  · rintro ⟨hcheck, hfold, hfound, hslash⟩
    refine ⟨(), hcheck, place, hfold, ?_⟩
    rw [hfound]
    simp only
    rw [if_neg (by simpa using hslash)]
    rfl

/-- Which texts are paths. -/
theorem checkPath_eq_ok_iff :
    checkPath path = .ok () ↔ '\x00' ∉ path.toList ∧ path ≠ "" ∧ path.utf8ByteSize ≤ maxPath := by
  unfold checkPath
  split_ifs <;> simp_all

/-- Whether a path leads anywhere is whether it can be looked up. -/
theorem contains_iff :
    fs.contains path = true ↔ ∃ place node, fs.locate path = .ok (place, node) := by
  unfold contains
  cases fs.locate path with
  | error fault => simp [Except.isOk, Except.toBool]
  | ok found => simp [Except.isOk, Except.toBool, Prod.ext_iff]

/-- A path still leads where it led. -/
theorem Keeps.locate {changes : List String → Prop} (h : Keeps changes fs fs') {found : Node}
    (hlocate : fs.locate path = .ok (place, found)) :
    ∃ found', fs'.locate path = .ok (place, found') ∧ found'.isDirectory = found.isDirectory ∧
      (found.isDirectory = false → ¬changes place → found' = found) := by
  rcases locate_eq_ok_iff.mp hlocate with ⟨hcheck, hfold, hfound, hslash⟩
  rcases h.root hfound with ⟨found', hfound', hkind, hsame⟩
  refine ⟨found', locate_eq_ok_iff.mpr ⟨hcheck, ?_, hfound', fun hends => ?_⟩, hkind, hsame⟩
  · rw [h.start]
    exact h.foldlM_step hfold
  · rw [hkind]
    exact hslash hends

/-! ### Entries -/

/-- The last part of a path is the name of an entry of a directory that is there; the entry may be
missing. -/
structure NamesEntry (fs : FileSystem) (path : String) (place : List String) (part : String) :
    Prop where
  isPath : checkPath path = .ok ()
  leads : ∃ front, Path.parts path = front ++ [part] ∧
    front.foldlM fs.step (fs.start path) = .ok place
  directory : ∃ es, fs.node? place = some (.directory es)
  ne_dot : part ≠ "."
  ne_dots : part ≠ ".."
  short : part.utf8ByteSize ≤ maxName

theorem namesEntry_of_locateEntry {part : String}
    (h : fs.locateEntry path = .ok (place, some part)) : fs.NamesEntry path place part := by
  unfold locateEntry at h
  simp only [bind_eq_ok_iff] at h
  rcases h with ⟨_, hcheck, place', hfold, h⟩
  split at h
  · simp [pure, Except.pure] at h
  · simp [bind_eq_ok_iff, pure, Except.pure] at h
  · simp [bind_eq_ok_iff, pure, Except.pure] at h
  · rename_i last hdot hdots hlast
    have hhere : (∃ here, fs.step place' "." = .ok here ∧ here = place ∧ last = part) ∧
        fs.step place' last ≠ .error .nameTooLong := by
      split at h
      · rename_i hstep
        simpa [bind_eq_ok_iff, pure, Except.pure, hstep] using h
      · rename_i hstep
        simpa [bind_eq_ok_iff, pure, Except.pure, hstep] using h
      · simp at h
    rcases hhere with ⟨⟨here, hplace, rfl, rfl⟩, hstep⟩
    rcases step_eq_ok_iff.mp hplace with ⟨es, hes, hsame⟩
    obtain rfl : here = place' := by simpa using hsame
    have hshort : last.utf8ByteSize ≤ maxName := by
      apply Nat.le_of_not_lt
      intro hlong
      apply hstep
      unfold step
      rw [hes]
      simp only
      rw [if_neg hdot, if_neg hdots, if_pos hlong]
    exact {
      isPath := hcheck
      leads := ⟨_, (List.dropLast_append_getLast? last hlast).symm, hfold⟩
      directory := ⟨es, hes⟩
      ne_dot := hdot
      ne_dots := hdots
      short := hshort }

/-- What stands at the entry that a path names is what the path leads to, also after a change. -/
theorem NamesEntry.locate {changes : List String → Prop} {part : String} {node : Node}
    (hentry : fs.NamesEntry path place part) (h : Keeps changes fs fs')
    (hnode : fs'.node? (place ++ [part]) = some node)
    (hslash : Path.endsWithSlash path = true → node.isDirectory = true) :
    fs'.locate path = .ok (place ++ [part], node) := by
  rcases hentry.leads with ⟨front, hparts, hfold⟩
  rcases hentry.directory with ⟨es, hes⟩
  rcases h.directory hes with ⟨es', hes'⟩
  have hstep : fs'.step place part = .ok (place ++ [part]) := by
    rw [node?_of_directory hes'] at hnode
    exact step_eq_ok_iff.mpr ⟨es', hes', Or.inr (Or.inr ⟨hentry.ne_dot, hentry.ne_dots,
      hentry.short, Option.isSome_iff_exists.mpr ⟨node, hnode⟩, rfl⟩)⟩
  refine locate_eq_ok_iff.mpr ⟨hentry.isPath, ?_, hnode, hslash⟩
  rw [hparts, List.foldlM_append, bind_eq_ok_iff, h.start]
  refine ⟨place, h.foldlM_step hfold, ?_⟩
  rw [List.foldlM_cons, hstep]
  rfl

/-! ## Making directories -/

/-- Making directories changes no file. -/
abbrev Spares (fs fs' : FileSystem) : Prop :=
  Keeps (fun _ => False) fs fs'

theorem node?_putNode_self (fs : FileSystem) (place : List String) (node : Node) :
    (fs.putNode place node).node? place = some node :=
  Node.find?_put_self node fs.root place

theorem makeDirectory_spec (h : fs.makeDirectory path = .ok fs') :
    Spares fs fs' ∧ fs'.isDirectory path = true := by
  unfold makeDirectory at h
  rw [bind_eq_ok_iff] at h
  rcases h with ⟨⟨place, part?⟩, hentry, h⟩
  cases part? with
  | none => simp at h
  | some part =>
      simp only at h
      split at h
      · simp at h
      · rename_i hnone
        obtain rfl : fs.putNode (place ++ [part]) .empty = fs' := Except.ok.inj h
        have hnames : fs.NamesEntry path place part := namesEntry_of_locateEntry hentry
        rcases hnames.directory with ⟨es, hes⟩
        have hspares : Spares fs (fs.putNode (place ++ [part]) .empty) :=
          .putNode hes fun old hold => by simp [hnone] at hold
        have hlocate : (fs.putNode (place ++ [part]) .empty).locate path =
            .ok (place ++ [part], .empty) :=
          hnames.locate hspares (node?_putNode_self _ _ _) fun _ => rfl
        refine ⟨hspares, ?_⟩
        unfold isDirectory
        rw [hlocate]
        rfl

theorem ensureDirectory_spec {result : Except FileFault Unit}
    (h : fs.ensureDirectory path = (result, fs')) :
    Spares fs fs' ∧ (result = .ok () → fs'.isDirectory path = true) := by
  unfold ensureDirectory at h
  split at h
  · rename_i made hmade
    obtain ⟨rfl, rfl⟩ := Prod.mk.inj h
    exact ⟨(makeDirectory_spec hmade).1, fun _ => (makeDirectory_spec hmade).2⟩
  · obtain ⟨rfl, rfl⟩ := Prod.mk.inj h
    refine ⟨.refl fs, fun hok => ?_⟩
    split at hok
    · assumption
    · simp at hok

/-- Files stay as they are when directories are made.  If this succeeds the directory is there,
unless no path was given. -/
theorem makeDirectories_spec {result : Except FileFault Unit}
    (h : fs.makeDirectories path = (result, fs')) :
    Spares fs fs' ∧ (result = .ok () → path = "" ∨ fs'.isDirectory path = true) := by
  fun_induction makeDirectories fs path generalizing result fs' with
  | case1 path hempty =>
      obtain ⟨rfl, rfl⟩ := Prod.mk.inj h
      exact ⟨.refl _, fun _ => Or.inl (by simpa using hempty)⟩
  | case2 path hempty hmissing hparent =>
      obtain ⟨rfl, rfl⟩ := Prod.mk.inj h
      exact ⟨.refl _, by simp⟩
  | case3 path hempty hmissing parent hparent fault made hmade ih =>
      obtain ⟨rfl, rfl⟩ := Prod.mk.inj h
      exact ⟨(ih hmade).1, by simp⟩
  | case4 path hempty hmissing parent hparent made hmade ih =>
      rcases ensureDirectory_spec h with ⟨hspares, hthere⟩
      exact ⟨(ih hmade).1.trans hspares, fun hok => Or.inr (hthere hok)⟩
  | case5 path hempty hother =>
      rcases ensureDirectory_spec h with ⟨hspares, hthere⟩
      exact ⟨hspares, fun hok => Or.inr (hthere hok)⟩

/-- A path that leads somewhere leads to an entry. -/
theorem exists_locateEntry_of_locate {node : Node} (h : fs.locate path = .ok (place, node)) :
    ∃ above part?, fs.locateEntry path = .ok (above, part?) ∧
      ∀ part ∈ part?, above ++ [part] = place := by
  rcases locate_eq_ok_iff.mp h with ⟨hcheck, hfold, -⟩
  rcases List.eq_nil_or_concat' (Path.parts path) with hparts | ⟨front, part, hparts⟩
  · refine ⟨fs.start path, none, ?_, by simp⟩
    simp [locateEntry, hcheck, hparts, bind, Except.bind, pure, Except.pure]
  · rw [hparts, List.foldlM_append, bind_eq_ok_iff] at hfold
    rcases hfold with ⟨above, hfront, hfold⟩
    rw [List.foldlM_cons, bind_eq_ok_iff] at hfold
    rcases hfold with ⟨_, hstep, hlast⟩
    obtain rfl := Except.ok.inj hlast
    rcases step_eq_ok_iff.mp hstep with ⟨es, hes, hpart⟩
    have hhere : fs.step above "." = .ok above :=
      step_eq_ok_iff.mpr ⟨es, hes, Or.inl ⟨rfl, rfl⟩⟩
    simp only [locateEntry, hcheck, hparts, List.dropLast_concat, List.getLast?_concat, hfront,
      bind, Except.bind, pure, Except.pure]
    rcases hpart with ⟨rfl, rfl⟩ | ⟨-, rfl, rfl⟩ | ⟨hdot, hdots, -, -, rfl⟩
    · exact ⟨_, none, by simp only [hhere]; rfl, by simp⟩
    · exact ⟨_, none, by simp only [hstep]; rfl, by simp⟩
    · refine ⟨above, some part, ?_, by simp⟩
      split
      · simp_all
      · simp_all
      · simp_all
      · rename_i hlast
        obtain rfl := Option.some.inj hlast
        rw [hstep, hhere]

/-- A directory that is there cannot be made. -/
theorem makeDirectory_of_isDirectory (h : fs.isDirectory path = true) :
    fs.makeDirectory path = .error .alreadyThere := by
  unfold isDirectory at h
  split at h
  · rename_i place node hlocate
    rcases exists_locateEntry_of_locate hlocate with ⟨above, part?, hentry, hplace⟩
    rw [makeDirectory, hentry]
    cases part? with
    | none => rfl
    | some part =>
        simp only [bind, Except.bind]
        rw [hplace part rfl, (locate_eq_ok_iff.mp hlocate).2.2.1]
  · cases h

/-- Where a directory is there, nothing is made. -/
theorem makeDirectories_of_isDirectory (h : fs.isDirectory path = true) :
    fs.makeDirectories path = (.ok (), fs) := by
  rw [makeDirectories]
  simp [makeDirectory_of_isDirectory h, ensureDirectory, h]

/-! ## Reading and writing files -/

/-- A device is never read as anything but nothing. -/
theorem readText_of_device {place : List String} {device : Device}
    (h : fs.locate path = .ok (place, .device device)) :
    fs.readText path = if device.endless then .error .outOfMemory else .ok "" := by
  have hempty : Text.Utf8.strict? .empty = some "" := Text.Utf8.strict?_toUTF8 ""
  cases device <;>
    simp [FileSystem.readText, read, h, Device.endless, hempty, bind, Except.bind, pure,
      Except.pure]

/-- A path leads to a file with the given text, or to a device that has taken it, and keeps
nothing. -/
inductive Holds (fs : FileSystem) (path text : String) : Prop where
  | file {place : List String} {executable : Bool}
      (h : fs.locate path = .ok (place, .file text.toUTF8 executable))
  | device {place : List String} {device : Device}
      (h : fs.locate path = .ok (place, .device device)) (htakes : device.takes text.toUTF8 = true)

/-- A file is no device. -/
theorem locate_ne_device_of_isFile (h : fs.isFile path = true) :
    ¬∃ place device, fs.locate path = .ok (place, .device device) := by
  rintro ⟨place, device, hlocate⟩
  rw [isFile, hlocate] at h
  cases h

/-- What a path holds is read there, unless it leads to a device. -/
theorem Holds.readText {text : String} (h : fs.Holds path text) :
    fs.readText path = .ok text ∨
      ∃ place device, fs.locate path = .ok (place, .device device) := by
  cases h with
  | file hlocate =>
      refine Or.inl ?_
      simp only [FileSystem.readText, read, hlocate, bind, Except.bind, pure, Except.pure,
        Text.Utf8.strict?_toUTF8]
  | device hlocate => exact Or.inr ⟨_, _, hlocate⟩

/-- A file is read as the text that it holds. -/
theorem Holds.readText_eq {text : String} (h : fs.Holds path text)
    (hfile : fs.isFile path = true) : fs.readText path = .ok text :=
  h.readText.resolve_right (locate_ne_device_of_isFile hfile)

/-- Directories that are made leave what a file holds. -/
theorem Spares.holds {text : String} (h : Spares fs fs') (hholds : fs.Holds path text) :
    fs'.Holds path text := by
  cases hholds with
  | file hlocate =>
      rcases h.locate hlocate with ⟨found', hfound', -, hsame⟩
      rw [hsame rfl not_false] at hfound'
      exact .file hfound'
  | device hlocate htakes =>
      rcases h.locate hlocate with ⟨found', hfound', -, hsame⟩
      rw [hsame rfl not_false] at hfound'
      exact .device hfound' htakes

/-- What writing does: a device takes the text, or a file is put in, in the place of what is no
directory. -/
theorem writeText_cases {text : String} (h : fs.writeText path text = .ok fs') :
    ∃ place part, fs.NamesEntry path place part ∧ Path.endsWithSlash path = false ∧
      ((∃ device, fs.node? (place ++ [part]) = some (.device device) ∧
          device.takes text.toUTF8 = true ∧ fs' = fs) ∨
        ∃ executable, fs' = fs.putNode (place ++ [part]) (.file text.toUTF8 executable) ∧
          ∀ old, fs.node? (place ++ [part]) = some old → old.isDirectory = false) := by
  unfold writeText write at h
  rw [bind_eq_ok_iff] at h
  rcases h with ⟨⟨place, part?⟩, hentry, h⟩
  cases part? with
  | none => simp at h
  | some part =>
      simp only at h
      split_ifs at h with hslash
      refine ⟨place, part, namesEntry_of_locateEntry hentry, by simpa using hslash, ?_⟩
      split at h
      · simp at h
      · rename_i device hdevice
        split_ifs at h with htakes
        exact Or.inl ⟨device, hdevice, htakes, (Except.ok.inj h).symm⟩
      · rename_i content executable hfile
        refine Or.inr ⟨executable, (Except.ok.inj h).symm, fun old hold => ?_⟩
        rw [hfile, Option.some.injEq] at hold
        exact hold ▸ rfl
      · rename_i hnone
        exact Or.inr ⟨false, (Except.ok.inj h).symm, fun old hold => by simp [hnone] at hold⟩

/-- A file holds what was written to it. -/
theorem holds_of_writeText {text : String} (h : fs.writeText path text = .ok fs') :
    fs'.Holds path text := by
  rcases writeText_cases h with ⟨place, part, hnames, hslash, ⟨device, hdevice, htakes, rfl⟩ |
    ⟨executable, rfl, hold⟩⟩
  · have hspares : Spares fs' fs' := .refl fs'
    exact .device (hnames.locate hspares hdevice fun hends => by simp [hslash] at hends) htakes
  · rcases hnames.directory with ⟨es, hes⟩
    have hkeeps : Keeps (· = place ++ [part]) fs
        (fs.putNode (place ++ [part]) (.file text.toUTF8 executable)) :=
      .putNode hes fun old hat => ⟨hold old hat, rfl, rfl⟩
    have hlocate := hnames.locate hkeeps (node?_putNode_self _ _ _)
      fun hends => by simp [hslash] at hends
    exact .file hlocate

end FileSystem

end LayerNet
