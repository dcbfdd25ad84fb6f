import LayerNet.Proofs.Storage.Changes
import LayerNet.Proofs.Text.Lines

/-!
# Places that paths stand for

There are no links, so a path can lead to one place only, which hangs on the current directory but
not on what is there.  That place can be asked about before there is anything on the way to it, and
what a change puts there can be told from what was there before.

Main definitions:

- `FileSystem.placeOf`: the place that a path stands for.
- `FileSystem.fileAt?`: what the file at that place holds.
- `FileSystem.Makes`: files are new or other only at given places.
- `FileSystem.Alters`: files are new, other or gone only at given places.

Main results:

- `Node.find?_put_of_apart`, `Node.find?_erase_of_apart`: changes at a place stay there.
- `FileSystem.placeOf_eq_of_locate`: a path leads nowhere else.
- `FileSystem.placeOf_join`: the place of a file in a directory.
- `FileSystem.locate_join_eq_ok_iff`: what a path leads to that goes on with a name.
- `FileSystem.Alters.fileAt?_eq`: files at other places hold what they held.
- `FileSystem.alters_makeDirectories`, `FileSystem.alters_of_writeText`: where changes are made.
-/

namespace LayerNet

/-! ## Parts of paths -/

namespace Path

/-- Whether a text is the name of an entry: one part, and none of those that lead elsewhere. -/
def IsName (part : String) : Prop :=
  part ≠ "" ∧ part ≠ "." ∧ part ≠ ".." ∧ '/' ∉ part.toList

instance (part : String) : Decidable (IsName part) :=
  inferInstanceAs (Decidable (_ ∧ _))

theorem parts_of_isName {part : String} (h : IsName part) : parts part = [part] := by
  simp [parts, Text.splitAtChar_of_not_mem h.2.2.2, h.1]

/-- A name behind a slash is a part of its own. -/
theorem parts_append_slash {part : String} (h : IsName part) (base : String) :
    parts (base ++ "/" ++ part) = parts base ++ [part] := by
  rw [parts, Text.splitAtChar_append rfl, List.filter_append, ← parts, ← parts, parts_of_isName h]

theorem isAbsolute_eq_false_of_isName {part : String} (h : IsName part) :
    isAbsolute part = false := by
  rw [isAbsolute, beq_eq_false_iff_ne]
  intro hhead
  exact h.2.2.2 (List.mem_of_mem_head? hhead)

/-- There is a slash between a directory and a name in it, unless the directory is the empty
path. -/
theorem join_cases {part : String} (h : IsName part) (base : String) :
    base = "" ∧ join base part = part ∨
      ∃ front, (base = front ∨ base = front ++ "/") ∧ join base part = front ++ "/" ++ part := by
  rw [join, isAbsolute_eq_false_of_isName h, if_neg (by decide)]
  split
  · rename_i hends
    rcases (Bool.or_eq_true _ _).mp hends with hempty | hslash
    · obtain rfl : base = "" := by simpa using hempty
      exact Or.inl ⟨rfl, String.empty_append⟩
    · -- the slash at the end is the one between the two
      have hlast : base.toList.getLast? = some '/' := by simpa using hslash
      obtain ⟨front, rfl⟩ : ∃ front, base = front ++ "/" := by
        refine ⟨String.ofList base.toList.dropLast, String.toList_inj.mp ?_⟩
        rw [String.toList_append, String.toList_ofList]
        exact (List.dropLast_append_getLast? '/' hlast).symm
      exact Or.inr ⟨front, Or.inr rfl, rfl⟩
  · exact Or.inr ⟨base, Or.inl rfl, rfl⟩

/-- The parts of a path below another. -/
theorem parts_join {part : String} (h : IsName part) (base : String) :
    parts (join base part) = parts base ++ [part] := by
  rcases join_cases h base with ⟨rfl, hjoin⟩ | ⟨front, hbase, hjoin⟩
  · rw [hjoin, parts_of_isName h]
    rfl
  · have hparts : parts base = parts front := by
      rcases hbase with rfl | rfl
      · rfl
      · have hempty : parts "" = [] := rfl
        rw [← String.append_empty (s := front ++ "/"), parts, Text.splitAtChar_append rfl,
          List.filter_append, ← parts, ← parts, hempty, List.append_nil]
    rw [hjoin, parts_append_slash h, hparts]

/-- A path below another begins where the other does. -/
theorem isAbsolute_join {part : String} (h : IsName part) (base : String) :
    isAbsolute (join base part) = isAbsolute base := by
  by_cases hempty : base = ""
  · subst hempty
    have hjoin : join "" part = part := by
      rw [join, isAbsolute_eq_false_of_isName h]
      exact String.empty_append
    rw [hjoin, isAbsolute_eq_false_of_isName h]
    rfl
  · have hchars : base.toList ≠ [] := fun hnil => hempty (String.toList_inj.mp hnil)
    rw [join, isAbsolute_eq_false_of_isName h, if_neg (by decide)]
    split <;> simp [isAbsolute, List.head?_append_of_ne_nil _ hchars]

/-- What ends with a name is no directory by its looks. -/
theorem endsWithSlash_join {part : String} (h : IsName part) (base : String) :
    endsWithSlash (join base part) = false := by
  have hchars : part.toList ≠ [] := fun hnil => h.1 (String.toList_inj.mp hnil)
  have hlast : part.toList.getLast? ≠ some '/' := fun hlast =>
    h.2.2.2 (List.mem_of_getLast? hlast)
  rcases join_cases h base with ⟨-, hjoin⟩ | ⟨front, -, hjoin⟩
  · rw [endsWithSlash, hjoin, beq_eq_false_iff_ne]
    exact hlast
  · rw [endsWithSlash, hjoin, String.toList_append, List.getLast?_append_of_ne_nil _ hchars,
      beq_eq_false_iff_ne]
    exact hlast

end Path

/-! ## Nodes that are put in -/

/-- What is no directory and is found after something was put in is found in it, or was there
before. -/
theorem Node.find?_put_cases {new node found : Node} {place other : List String}
    (h : (put new node place).find? other = some found) (hfile : found.isDirectory = false) :
    (∃ rest, other = place ++ rest ∧ new.find? rest = some found) ∨
      node.find? other = some found := by
  induction place generalizing node other with
  | nil => exact Or.inl ⟨other, rfl, h⟩
  | cons name names ih =>
      cases other with
      | nil =>
          rw [find?_nil, Option.some.injEq] at h
          rw [← h] at hfile
          cases hfile
      | cons first firsts =>
          rcases exists_of_find?_cons h with ⟨child, hchild, hbelow⟩
          rw [put, entries_directory] at hchild
          by_cases hfirst : first = name
          · subst hfirst
            rw [Table.find?_insert_self, Option.some.injEq] at hchild
            subst hchild
            rcases ih hbelow with ⟨rest, rfl, hnew⟩ | hold
            · exact Or.inl ⟨rest, rfl, hnew⟩
            · cases hthere : Table.find? first node.entries with
              | some old =>
                  rw [hthere] at hold
                  exact Or.inr ((find?_cons_of_find? hthere firsts).trans hold)
              | none =>
                  -- there was nothing, and in the directory made for it there is nothing either
                  rw [hthere, Option.getD_none] at hold
                  cases firsts with
                  | nil =>
                      rw [find?_nil, Option.some.injEq] at hold
                      rw [← hold] at hfile
                      cases hfile
                  | cons _ _ => simp [find?_cons, empty] at hold
          · rw [Table.find?_insert_of_ne hfirst] at hchild
            exact Or.inr ((find?_cons_of_find? hchild firsts).trans hbelow)

/-! ## Places apart -/

/-- Places that lead apart: neither is on the way to the other. -/
def Apart (place other : List String) : Prop :=
  ¬place <+: other ∧ ¬other <+: place

instance (place other : List String) : Decidable (Apart place other) :=
  inferInstanceAs (Decidable (_ ∧ _))

theorem Apart.exists_cons {name : String} {names other : List String}
    (h : Apart (name :: names) other) :
    ∃ first firsts, other = first :: firsts ∧ (first = name → Apart names firsts) := by
  cases other with
  | nil => exact absurd List.nil_prefix h.2
  | cons first firsts =>
      refine ⟨first, firsts, rfl, ?_⟩
      rintro rfl
      exact ⟨fun hprefix => h.1 (List.cons_prefix_cons.mpr ⟨rfl, hprefix⟩),
        fun hprefix => h.2 (List.cons_prefix_cons.mpr ⟨rfl, hprefix⟩)⟩

/-- What is put in changes nothing apart from its place. -/
theorem Node.find?_put_of_apart (new node : Node) {place other : List String}
    (h : Apart place other) : (put new node place).find? other = node.find? other := by
  induction place generalizing node other with
  | nil => exact absurd List.nil_prefix h.1
  | cons name names ih =>
      rcases h.exists_cons with ⟨first, firsts, rfl, hrest⟩
      rw [put, find?_cons, find?_cons, entries_directory]
      by_cases hfirst : first = name
      · subst hfirst
        rw [Table.find?_insert_self, Option.bind_some, ih _ (hrest rfl)]
        cases Table.find? first node.entries with
        | some child => rfl
        | none =>
            -- an empty directory has been made, in which there is nothing either
            cases firsts with
            | nil => exact absurd List.nil_prefix (hrest rfl).2
            | cons _ _ => simp [find?_cons, empty]
      · rw [Table.find?_insert_of_ne hfirst]

/-- There is nothing at a place that was taken away. -/
theorem Node.find?_erase_self (node : Node) {place : List String} (h : place ≠ []) :
    (node.erase place).find? place = none := by
  fun_induction erase node place with
  | case1 => exact absurd rfl h
  | case2 name es => simp [find?_cons, Table.find?_erase_self]
  | case3 node name hnode =>
      cases node with
      | directory es => exact absurd rfl (hnode es)
      | file content executable => simp [find?_cons, entries]
      | device device => simp [find?_cons, entries]
  | case4 node name names hnames hnone => rw [find?_cons, hnone, Option.bind_none]
  | case5 node name names hnames child hchild ih =>
      rw [find?_cons, entries_directory, Table.find?_insert_self, Option.bind_some]
      exact ih fun hnil => hnames hnil

/-- What is taken away changes nothing apart from its place. -/
theorem Node.find?_erase_of_apart (node : Node) {place other : List String}
    (h : Apart place other) : (node.erase place).find? other = node.find? other := by
  fun_induction erase node place generalizing other with
  | case1 => rfl
  | case2 name es =>
      rcases h.exists_cons with ⟨first, firsts, rfl, hrest⟩
      have hfirst : first ≠ name := fun hsame => (hrest hsame).1 List.nil_prefix
      simp only [find?_cons, entries_directory, Table.find?_erase_of_ne hfirst]
  | case3 => rfl
  | case4 => rfl
  | case5 node name names hnames child hchild ih =>
      rcases h.exists_cons with ⟨first, firsts, rfl, hrest⟩
      rw [find?_cons, find?_cons, entries_directory]
      by_cases hfirst : first = name
      · subst hfirst
        rw [Table.find?_insert_self, hchild, Option.bind_some, Option.bind_some, ih (hrest rfl)]
      · rw [Table.find?_insert_of_ne hfirst]

namespace FileSystem

variable {fs fs' fs'' : FileSystem} {path : String} {place : List String}

/-! ## Places of paths -/

/-- The place that a part stands for below another place. -/
def walk (place : List String) (part : String) : List String :=
  if part = "." then place else if part = ".." then place.dropLast else place ++ [part]

/-- The place that a path stands for. -/
def placeOf (fs : FileSystem) (path : String) : List String :=
  (Path.parts path).foldl walk (fs.start path)

theorem eq_walk_of_step {part : String} {place' : List String}
    (h : fs.step place part = .ok place') : place' = walk place part := by
  rcases step_eq_ok_iff.mp h with
    ⟨-, -, ⟨rfl, rfl⟩ | ⟨hdot, rfl, rfl⟩ | ⟨hdot, hdots, -, -, rfl⟩⟩
  · rfl
  · rfl
  · rw [walk, if_neg hdot, if_neg hdots]

theorem eq_foldl_walk_of_foldlM_step {parts : List String} {place' : List String}
    (h : parts.foldlM fs.step place = .ok place') : place' = parts.foldl walk place := by
  induction parts generalizing place with
  | nil => exact (Except.ok.inj h).symm
  | cons part parts ih =>
      rw [List.foldlM_cons, bind_eq_ok_iff] at h
      rcases h with ⟨next, hstep, hrest⟩
      rw [List.foldl_cons, ← eq_walk_of_step hstep]
      exact ih hrest

/-- A path leads to the place that it stands for, or nowhere. -/
theorem placeOf_eq_of_locate {node : Node} (h : fs.locate path = .ok (place, node)) :
    fs.placeOf path = place :=
  (eq_foldl_walk_of_foldlM_step (locate_eq_ok_iff.mp h).2.1).symm

theorem NamesEntry.placeOf_eq {part : String} (h : fs.NamesEntry path place part) :
    fs.placeOf path = place ++ [part] := by
  rcases h.leads with ⟨front, hparts, hfold⟩
  rw [placeOf, hparts, List.foldl_append, ← eq_foldl_walk_of_foldlM_step hfold]
  simp [walk, h.ne_dot, h.ne_dots]

theorem start_join {part : String} (h : Path.IsName part) (base : String) :
    fs.start (Path.join base part) = fs.start base := by
  rw [start, start, Path.isAbsolute_join h]

/-- The place of a file in a directory. -/
theorem placeOf_join {part : String} (h : Path.IsName part) (base : String) :
    fs.placeOf (Path.join base part) = fs.placeOf base ++ [part] := by
  rw [placeOf, Path.parts_join h, List.foldl_append, start_join h]
  simp [placeOf, walk, h.2.1, h.2.2.1]

/-- A path below another is one if the other is, as long as it is not too long. -/
theorem checkPath_join_iff {part base : String} (h : Path.IsName part)
    (hnull : '\x00' ∉ part.toList) (hbase : base ≠ "") :
    checkPath (Path.join base part) = .ok () ↔
      checkPath base = .ok () ∧ (Path.join base part).utf8ByteSize ≤ maxPath := by
  rcases (Path.join_cases h base).resolve_left fun hempty => hbase hempty.1 with
    ⟨front, hfront, hjoin⟩
  have hchars : '\x00' ∈ (Path.join base part).toList ↔ '\x00' ∈ base.toList := by
    rcases hfront with rfl | rfl <;> simp [hjoin, hnull]
  have hsize : base.utf8ByteSize ≤ (Path.join base part).utf8ByteSize := by
    rw [hjoin]
    rcases hfront with rfl | rfl
    · simp only [String.utf8ByteSize_append]
      omega
    · simp
  have hne : Path.join base part ≠ "" := by
    rw [hjoin]
    simp [h.1]
  rw [checkPath_eq_ok_iff, checkPath_eq_ok_iff, hchars]
  constructor
  · rintro ⟨hnull', -, hlong⟩
    exact ⟨⟨hnull', hbase, Nat.le_trans hsize hlong⟩, hlong⟩
  · rintro ⟨⟨hnull', -, -⟩, hlong⟩
    exact ⟨hnull', hne, hlong⟩

/-- A path that goes on with a name leads to what the directory before it has by that name. -/
theorem locate_join_eq_ok_iff {part : String} (h : Path.IsName part) {base : String}
    {node : Node} :
    fs.locate (Path.join base part) = .ok (place, node) ↔
      checkPath (Path.join base part) = .ok () ∧ part.utf8ByteSize ≤ maxName ∧
        ∃ above es, (Path.parts base).foldlM fs.step (fs.start base) = .ok above ∧
          fs.node? above = some (.directory es) ∧ Table.find? part es = some node ∧
          place = above ++ [part] := by
  rw [locate_eq_ok_iff, Path.parts_join h, start_join h, Path.endsWithSlash_join h]
  simp only [Bool.false_eq_true, false_implies, and_true]
  refine and_congr_right fun _ => ?_
  rw [List.foldlM_append, bind_eq_ok_iff]
  constructor
  · rintro ⟨⟨above, hfold, hlast⟩, hnode⟩
    rw [List.foldlM_cons, bind_eq_ok_iff] at hlast
    rcases hlast with ⟨place', hstep, hplace⟩
    obtain rfl := Except.ok.inj hplace
    rcases step_eq_ok_iff.mp hstep with
      ⟨es, hes, ⟨hdot, -⟩ | ⟨-, hdots, -⟩ | ⟨-, -, hshort, -, rfl⟩⟩
    · exact absurd hdot h.2.1
    · exact absurd hdots h.2.2.1
    · refine ⟨hshort, above, es, hfold, hes, ?_, rfl⟩
      rw [node?, Node.find?_append, ← node?, hes, Option.bind_some, Node.find?_cons,
        Node.entries_directory] at hnode
      simpa using hnode
  · rintro ⟨hshort, above, es, hfold, hes, hentry, rfl⟩
    refine ⟨⟨above, hfold, ?_⟩, ?_⟩
    · rw [List.foldlM_cons, bind_eq_ok_iff]
      refine ⟨above ++ [part], step_eq_ok_iff.mpr ⟨es, hes, Or.inr (Or.inr
        ⟨h.2.1, h.2.2.1, hshort, by rw [hentry]; rfl, rfl⟩)⟩, rfl⟩
    · rw [node?, Node.find?_append, ← node?, hes, Option.bind_some, Node.find?_cons,
        Node.entries_directory, hentry]
      simp

/-- Names lead where they say, as far as there is something. -/
theorem foldlM_step_of_node? {node : Node} {front back : List String}
    (hnode : fs.node? (front ++ back) = some node)
    (hnames : ∀ name ∈ back, Path.IsName name ∧ name.utf8ByteSize ≤ maxName) :
    back.foldlM fs.step front = .ok (front ++ back) := by
  induction back generalizing front with
  | nil => rw [List.append_nil]; rfl
  | cons name names ih =>
      rw [List.forall_mem_cons] at hnames
      rcases hnames with ⟨⟨⟨-, hdot, hdots, -⟩, hshort⟩, hnames⟩
      have hstep : fs.step front name = .ok (front ++ [name]) := by
        rw [node?, Node.find?_append, Option.bind_eq_some_iff] at hnode
        rcases hnode with ⟨above, habove, hbelow⟩
        rcases Node.exists_of_find?_cons hbelow with ⟨child, hchild, -⟩
        cases above with
        | directory es =>
            exact step_eq_ok_iff.mpr ⟨es, habove, Or.inr (Or.inr ⟨hdot, hdots, hshort,
              Option.isSome_iff_exists.mpr ⟨child, hchild⟩, rfl⟩)⟩
        | file content executable => simp [Node.entries] at hchild
        | device device => simp [Node.entries] at hchild
      rw [List.foldlM_cons, hstep]
      have hrest := @ih (front ++ [name]) (by simpa using hnode) hnames
      simpa [bind, Except.bind] using hrest

theorem placeOf_eq_of_current (h : fs'.current = fs.current) (path : String) :
    fs'.placeOf path = fs.placeOf path := by
  rw [placeOf, placeOf, start, start, h]

/-! ## Files at places -/

/-- What the file holds at the place that a path stands for, if there is a file. -/
def fileAt? (fs : FileSystem) (path : String) : Option ByteArray :=
  match fs.node? (fs.placeOf path) with
  | some (.file content _) => some content
  | _ => none

theorem fileAt?_eq_some_iff {content : ByteArray} :
    fs.fileAt? path = some content ↔
      ∃ executable, fs.node? (fs.placeOf path) = some (.file content executable) := by
  unfold fileAt?
  split
  · rename_i found executable hfound
    simp [hfound]
  · rename_i hother
    simp only [reduceCtorEq, false_iff, not_exists]
    exact fun executable => hother content executable

/-- A file that a path leads to is at its place. -/
theorem exists_fileAt?_of_isFile (h : fs.isFile path = true) :
    ∃ content, fs.fileAt? path = some content := by
  unfold isFile at h
  split at h
  · rename_i place node hlocate
    cases node with
    | file content executable =>
        have hnode := (locate_eq_ok_iff.mp hlocate).2.2.1
        rw [← placeOf_eq_of_locate hlocate] at hnode
        exact ⟨content, fileAt?_eq_some_iff.mpr ⟨executable, hnode⟩⟩
    | device device => cases h
    | directory es => cases h
  · cases h

/-- If a path holds a text, there is no other file at its place. -/
theorem Holds.eq_of_fileAt? {text : String} (h : fs.Holds path text) {content : ByteArray}
    (hcontent : fs.fileAt? path = some content) : content = text.toUTF8 := by
  rcases fileAt?_eq_some_iff.mp hcontent with ⟨executable, hnode⟩
  cases h with
  | file hlocate =>
      rw [placeOf_eq_of_locate hlocate, (locate_eq_ok_iff.mp hlocate).2.2.1] at hnode
      cases hnode
      rfl
  | device hlocate =>
      rw [placeOf_eq_of_locate hlocate, (locate_eq_ok_iff.mp hlocate).2.2.1] at hnode
      cases hnode

/-! ## What changes bring -/

/-- The current directory stays, and what is no directory was there before, unless it is at one of
the places that `changes` names. -/
structure Makes (changes : List String → Prop) (fs fs' : FileSystem) : Prop where
  current : fs'.current = fs.current
  found : ∀ ⦃place : List String⦄ ⦃node : Node⦄, fs'.node? place = some node →
    node.isDirectory = false → ¬changes place → fs.node? place = some node

namespace Makes

variable {changes : List String → Prop}

theorem refl (fs : FileSystem) : Makes changes fs fs :=
  ⟨rfl, fun _ _ h _ _ => h⟩

theorem trans (h : Makes changes fs fs') (h' : Makes changes fs' fs'') : Makes changes fs fs'' where
  current := h'.current.trans h.current
  found _ _ hfound hfile hplace := h.found (h'.found hfound hfile hplace) hfile hplace

theorem mono {changes' : List String → Prop} (h : Makes changes fs fs')
    (himp : ∀ place, changes place → changes' place) : Makes changes' fs fs' :=
  ⟨h.current, fun place _ hfound hfile hplace =>
    h.found hfound hfile fun hchanges => hplace (himp place hchanges)⟩

end Makes

theorem makes_putNode_empty (fs : FileSystem) (place : List String) :
    Makes (fun _ => False) fs (fs.putNode place .empty) where
  current := rfl
  found other node hfound hfile _ := by
    refine (Node.find?_put_cases hfound hfile).resolve_left ?_
    rintro ⟨rest, -, hnew⟩
    cases rest with
    | nil =>
        rw [Node.find?_nil, Option.some.injEq] at hnew
        rw [← hnew] at hfile
        cases hfile
    | cons _ _ => simp [Node.find?_cons, Node.empty] at hnew

theorem makes_putNode {new : Node} (hnew : new.isDirectory = false) (fs : FileSystem)
    (place : List String) : Makes (· = place) fs (fs.putNode place new) where
  current := rfl
  found other node hfound hfile hplace := by
    refine (Node.find?_put_cases hfound hfile).resolve_left ?_
    rintro ⟨rest, rfl, hrest⟩
    rw [(Node.eq_of_find?_of_not_isDirectory hnew hrest).1, List.append_nil] at hplace
    exact hplace rfl

/-- No file comes with a directory. -/
theorem makes_of_makeDirectory (h : fs.makeDirectory path = .ok fs') :
    Makes (fun _ => False) fs fs' := by
  unfold makeDirectory at h
  rw [bind_eq_ok_iff] at h
  rcases h with ⟨⟨place, part?⟩, -, h⟩
  cases part? with
  | none => simp at h
  | some part =>
      simp only at h
      split at h
      · simp at h
      · obtain rfl := Except.ok.inj h
        exact makes_putNode_empty fs _

theorem makes_ensureDirectory (fs : FileSystem) (path : String) :
    Makes (fun _ => False) fs (fs.ensureDirectory path).2 := by
  unfold ensureDirectory
  split
  · rename_i hmade
    exact makes_of_makeDirectory hmade
  · exact .refl _

/-- No file comes with directories, whether all of them can be made or not. -/
theorem makes_makeDirectories (fs : FileSystem) (path : String) :
    Makes (fun _ => False) fs (fs.makeDirectories path).2 := by
  fun_induction makeDirectories fs path with
  | case1 => exact .refl _
  | case2 => exact .refl _
  | case3 path hempty hmissing parent hparent fault made hmade ih =>
      rwa [hmade] at ih
  | case4 path hempty hmissing parent hparent made hmade ih =>
      rw [hmade] at ih
      exact ih.trans (makes_ensureDirectory made path)
  | case5 path => exact makes_ensureDirectory _ path

/-- A text is written to the place of its path and to no other. -/
theorem makes_of_writeText {text : String} (h : fs.writeText path text = .ok fs') :
    Makes (· = fs.placeOf path) fs fs' := by
  rcases writeText_cases h with ⟨place, part, hnames, -, ⟨-, -, -, rfl⟩ | ⟨executable, rfl, -⟩⟩
  · exact .refl fs'
  · rw [hnames.placeOf_eq]
    exact makes_putNode rfl fs _

/-! ## What changes leave alone -/

/-- Nothing is taken away and nothing is brought but at the places that `changes` names. -/
structure Alters (changes : List String → Prop) (fs fs' : FileSystem) : Prop where
  keeps : Keeps changes fs fs'
  makes : Makes changes fs fs'

namespace Alters

variable {changes : List String → Prop}

theorem refl (fs : FileSystem) : Alters changes fs fs :=
  ⟨.refl fs, .refl fs⟩

theorem trans (h : Alters changes fs fs') (h' : Alters changes fs' fs'') : Alters changes fs fs'' :=
  ⟨h.keeps.trans h'.keeps, h.makes.trans h'.makes⟩

theorem mono {changes' : List String → Prop} (h : Alters changes fs fs')
    (himp : ∀ place, changes place → changes' place) : Alters changes' fs fs' :=
  ⟨⟨h.keeps.current, h.keeps.root.mono himp⟩, h.makes.mono himp⟩

/-- A file at another place holds what it held; if there was none, there is none. -/
theorem fileAt?_eq (h : Alters changes fs fs') (hplace : ¬changes (fs.placeOf path)) :
    fs'.fileAt? path = fs.fileAt? path := by
  refine Option.ext fun content => ?_
  rw [fileAt?_eq_some_iff, fileAt?_eq_some_iff, placeOf_eq_of_current h.keeps.current]
  refine exists_congr fun executable => ⟨fun hnode => ?_, fun hnode => ?_⟩
  · exact h.makes.found hnode rfl hplace
  · rcases h.keeps.root hnode with ⟨found', hfound', -, hsame⟩
    rw [hsame rfl hplace] at hfound'
    exact hfound'

/-- A file with another name holds what it held. -/
theorem fileAt?_join {name other : String}
    (h : Alters (fun place => place.getLast? = some name) fs fs') (hother : Path.IsName other)
    (hne : other ≠ name) (directory : String) :
    fs'.fileAt? (Path.join directory other) = fs.fileAt? (Path.join directory other) := by
  refine h.fileAt?_eq ?_
  rw [placeOf_join hother, List.getLast?_concat, Option.some.injEq]
  exact hne

theorem isDirectory (h : Alters changes fs fs') (hthere : fs.isDirectory path = true) :
    fs'.isDirectory path = true := by
  unfold FileSystem.isDirectory at hthere ⊢
  split at hthere
  · rename_i place node hlocate
    rcases h.keeps.locate hlocate with ⟨node', hlocate', hkind, -⟩
    rw [hlocate']
    exact hkind.trans hthere
  · cases hthere

end Alters

theorem alters_makeDirectories (changes : List String → Prop) (fs : FileSystem) (path : String) :
    Alters changes fs (fs.makeDirectories path).2 := by
  have hspares : Spares fs (fs.makeDirectories path).2 := (makeDirectories_spec rfl).1
  have halters : Alters (fun _ => False) fs (fs.makeDirectories path).2 :=
    ⟨hspares, makes_makeDirectories fs path⟩
  exact halters.mono fun _ hnone => hnone.elim

theorem alters_of_writeText {text : String} (h : fs.writeText path text = .ok fs') :
    Alters (· = fs.placeOf path) fs fs' := by
  refine ⟨?_, makes_of_writeText h⟩
  rcases writeText_cases h with ⟨place, part, hnames, -, ⟨-, -, -, rfl⟩ | ⟨executable, rfl, hold⟩⟩
  · exact .refl fs'
  · rcases hnames.directory with ⟨es, hes⟩
    rw [hnames.placeOf_eq]
    exact .putNode hes fun old hat => ⟨hold old hat, rfl, rfl⟩

end FileSystem

end LayerNet
