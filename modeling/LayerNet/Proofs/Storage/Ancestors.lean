import Mathlib.Data.List.Infix
import LayerNet.Proofs.Storage.Places

/-!
# Lexical ancestors

A path is told by whether it begins at the root and by the names that lead on from there.  Its
parent begins where it does and goes without the last name, so that its ancestors lead along all
first parts of the names, the longest first; the last of them has no names, and is the root or the
empty path.

Main definitions:

- `Path.names`: the names in a path.
- `Path.Route`, `Path.route`: where a path begins, with the names.

Main results:

- `Path.goesOn_of_parent?`: the parent goes without the last name.
- `Path.map_route_ancestors`: the ancestors, from the path itself to the one without names.
- `Path.route_parent_join`: a directory is the parent of its entries.
-/

namespace LayerNet.Path

variable {cs kept : List Char} {path parent : String}

/-! ## Names -/

/-- Whether a path begins with a part `.`. -/
def beginsHere (path : String) : Bool :=
  (Text.splitAtChar '/' path).head? == some "."

/-- The names in a path.  A part `.` says nothing, but for one at the very beginning. -/
def names (path : String) : List String :=
  (if beginsHere path then ["."] else []) ++ (parts path).filter (· ≠ ".")

/-- Where a path begins, with the names that lead on from there. -/
structure Route where
  fromRoot : Bool
  names : List String
deriving DecidableEq

/-- Where a path begins, with its names. -/
def route (path : String) : Route where
  fromRoot := isAbsolute path
  names := names path

/-- The routes of a directory and of those above it: they lead along the first parts of its names,
the longest first. -/
def Route.upward (r : Route) : List Route :=
  r.names.inits.reverse.map fun ns => { r with names := ns }

/-! ## What characters say -/

/-- The names in characters that go on from somewhere. -/
def namesIn (cs : List Char) : List String :=
  (parts (String.ofList cs)).filter (· ≠ ".")

@[simp]
theorem namesIn_nil : namesIn [] = [] :=
  rfl

/-- A separator between two parts does nothing but separate them, so that several count as one. -/
theorem namesIn_append_slash (front back : List Char) :
    namesIn (front ++ '/' :: back) = namesIn front ++ namesIn back := by
  have hchars : String.ofList (front ++ '/' :: back) =
      String.ofList front ++ "/" ++ String.ofList back := by
    simp [← String.toList_inj]
  rw [namesIn, hchars, parts, Text.splitAtChar_append rfl, List.filter_append, List.filter_append]
  rfl

theorem namesIn_cons_slash (cs : List Char) : namesIn ('/' :: cs) = namesIn cs :=
  namesIn_append_slash [] cs

/-- A part is a name unless it is empty or a point. -/
theorem namesIn_of_not_mem (h : '/' ∉ cs) (hne : cs ≠ []) (hdot : cs ≠ ['.']) :
    namesIn cs = [String.ofList cs] := by
  have hslash : '/' ∉ (String.ofList cs).toList := by simpa using h
  have hempty : String.ofList cs ≠ "" := by simpa using hne
  have hname : String.ofList cs ≠ "." := fun heq => hdot (String.ofList_injective heq)
  simp [namesIn, parts, Text.splitAtChar_of_not_mem hslash, hempty, hname]

/-! ## Trimming -/

/-- What is trimmed away says nothing. -/
theorem namesIn_reverse_trimParts (cs : List Char) :
    namesIn (trimParts cs).reverse = namesIn cs.reverse := by
  fun_induction trimParts cs with
  | case1 cs ih => rw [ih, List.reverse_cons, namesIn_append_slash, namesIn_nil, List.append_nil]
  | case2 => rfl
  | case3 cs ih =>
      have hsplit : ('.' :: '/' :: cs).reverse = cs.reverse ++ '/' :: ['.'] := by simp
      have hdot : namesIn ['.'] = [] := by decide
      rw [ih, hsplit, namesIn_append_slash, hdot, List.append_nil]
  | case4 => rfl

/-- What is left is nothing, or everything, or was behind a slash. -/
theorem trimParts_cases (cs : List Char) :
    trimParts cs = [] ∨ trimParts cs = cs ∨ ∃ front, cs = front ++ '/' :: trimParts cs := by
  fun_induction trimParts cs with
  | case1 cs ih =>
      rcases ih with hnil | hall | ⟨front, hfront⟩
      · exact Or.inl hnil
      · exact Or.inr (Or.inr ⟨[], by rw [hall]; rfl⟩)
      · exact Or.inr (Or.inr ⟨'/' :: front, congrArg ('/' :: ·) hfront⟩)
  | case2 => exact Or.inl rfl
  | case3 cs ih =>
      rcases ih with hnil | hall | ⟨front, hfront⟩
      · exact Or.inl hnil
      · exact Or.inr (Or.inr ⟨['.'], by rw [hall]; rfl⟩)
      · exact Or.inr (Or.inr ⟨'.' :: '/' :: front, congrArg ('.' :: '/' :: ·) hfront⟩)
  | case4 => exact Or.inr (Or.inl rfl)

/-- What is left does not end with a slash or with a part that says nothing. -/
theorem trimParts_ne (cs : List Char) :
    (∀ rest, trimParts cs ≠ '/' :: rest) ∧ trimParts cs ≠ ['.'] ∧
      ∀ rest, trimParts cs ≠ '.' :: '/' :: rest := by
  fun_induction trimParts cs with
  | case1 cs ih => exact ih
  | case2 => simp
  | case3 cs ih => exact ih
  | case4 cs hslash hdot hdotSlash => exact ⟨hslash, hdot, hdotSlash⟩

/-! ## The last name -/

/-- What is left and is not nothing ends with a name, in front of which there is a slash or
nothing. -/
theorem exists_last (h : trimParts cs ≠ []) :
    ∃ last tail, trimParts cs = last ++ tail ∧ '/' ∉ last ∧ last ≠ [] ∧ last ≠ ['.'] ∧
      (∀ c ∈ tail.head?, c = '/') ∧ withoutLast? cs = some (trimParts tail) := by
  cases hcs : trimParts cs with
  | nil => exact absurd hcs h
  | cons c rest =>
      have hne := trimParts_ne cs
      rw [hcs] at hne
      have hc : c ≠ '/' := fun heq => hne.1 rest (heq ▸ rfl)
      have htail : ∀ d ∈ (rest.dropWhile (· ≠ '/')).head?, d = '/' := by
        intro d hd
        have hnot := List.head?_dropWhile_not (· ≠ '/') rest
        rw [Option.mem_def.mp hd] at hnot
        simpa using hnot
      have hslash : '/' ∉ c :: rest.takeWhile (· ≠ '/') := by
        rw [List.mem_cons, not_or]
        refine ⟨Ne.symm hc, fun hmem => ?_⟩
        simpa using List.all_eq_true.mp List.all_takeWhile _ hmem
      refine ⟨c :: rest.takeWhile (· ≠ '/'), rest.dropWhile (· ≠ '/'), ?_, hslash,
        List.cons_ne_nil _ _, ?_, htail, ?_⟩
      · rw [List.cons_append, List.takeWhile_append_dropWhile]
      · intro hdot
        obtain ⟨rfl, hwhile⟩ := List.cons.inj hdot
        have hrest := List.takeWhile_append_dropWhile (p := (· ≠ '/')) (l := rest)
        rw [hwhile, List.nil_append] at hrest
        cases hdrop : rest.dropWhile (· ≠ '/') with
        | nil => exact hne.2.1 (by rw [← hrest, hdrop])
        | cons d tail => exact hne.2.2 tail (by rw [← hrest, hdrop, htail d (by rw [hdrop]; rfl)])
      · rw [withoutLast?, hcs]

/-- If there is no name to go without, there is none at all. -/
theorem namesIn_of_withoutLast?_eq_none (h : withoutLast? cs.reverse = none) : namesIn cs = [] := by
  by_cases hnil : trimParts cs.reverse = []
  · have hnames := namesIn_reverse_trimParts cs.reverse
    rwa [hnil, List.reverse_reverse, List.reverse_nil, namesIn_nil, eq_comm] at hnames
  · rcases exists_last hnil with ⟨_, _, _, _, _, _, _, hsome⟩
    rw [hsome] at h
    cases h

/-- What is left when the last name goes has the other names. -/
theorem exists_namesIn_eq (h : withoutLast? cs.reverse = some kept) :
    ∃ name, namesIn cs = namesIn kept.reverse ++ [name] := by
  have hne : trimParts cs.reverse ≠ [] := by
    intro hnil
    rw [withoutLast?, hnil] at h
    cases h
  rcases exists_last hne with ⟨last, tail, hcs, hslash, hlast, hdot, htail, hsome⟩
  obtain rfl : trimParts tail = kept := Option.some.inj (hsome.symm.trans h)
  have hname : namesIn last.reverse = [String.ofList last.reverse] := by
    refine namesIn_of_not_mem (by simpa using hslash) (by simpa using hlast) fun heq => hdot ?_
    rw [← List.reverse_reverse last, heq]
    rfl
  have hnames := namesIn_reverse_trimParts cs.reverse
  rw [List.reverse_reverse, hcs] at hnames
  refine ⟨String.ofList last.reverse, ?_⟩
  rw [← hnames, namesIn_reverse_trimParts]
  cases tail with
  | nil =>
      rw [List.append_nil, hname]
      rfl
  | cons c tail =>
      obtain rfl := htail c rfl
      have hsplit : (last ++ '/' :: tail).reverse = tail.reverse ++ '/' :: last.reverse := by simp
      rw [hsplit, namesIn_append_slash, hname, List.reverse_cons, namesIn_append_slash, namesIn_nil,
        List.append_nil]

/-- What is left when the last name goes was in front of a slash, or is nothing. -/
theorem exists_back (h : withoutLast? cs.reverse = some kept) :
    kept.reverse = [] ∨ ∃ back, cs = kept.reverse ++ '/' :: back := by
  have hne : trimParts cs.reverse ≠ [] := by
    intro hnil
    rw [withoutLast?, hnil] at h
    cases h
  rcases exists_last hne with ⟨last, tail, hcs, -, -, -, htail, hsome⟩
  obtain rfl : trimParts tail = kept := Option.some.inj (hsome.symm.trans h)
  have hsuffix : ∃ before, cs.reverse = before ++ (last ++ tail) := by
    rw [← hcs]
    rcases trimParts_cases cs.reverse with hnil | hall | ⟨before, hbefore⟩
    · exact absurd hnil hne
    · exact ⟨[], hall.symm⟩
    · exact ⟨before ++ ['/'], by rw [List.append_assoc]; exact hbefore⟩
  rcases trimParts_cases tail with hnil | hall | ⟨front, hfront⟩
  · exact Or.inl (congrArg List.reverse hnil)
  · -- a tail that is not nothing begins with a slash, which would have gone
    cases tail with
    | nil => exact Or.inl rfl
    | cons c tail =>
        obtain rfl := htail c rfl
        exact absurd hall ((trimParts_ne _).1 tail)
  · rcases hsuffix with ⟨before, hbefore⟩
    right
    refine ⟨(before ++ (last ++ front)).reverse, List.reverse_injective ?_⟩
    rw [hbefore, hfront]
    simp [← hfront]

/-! ## Parents -/

theorem head?_splitAtChar_go (sep : Char) (pending cs : List Char) :
    (Text.splitAtChar.go sep pending cs).head? =
      some (String.ofList (pending.reverse ++ cs.takeWhile (· ≠ sep))) := by
  induction cs generalizing pending with
  | nil => simp [Text.splitAtChar.go]
  | cons c cs ih =>
      rw [Text.splitAtChar.go]
      split <;> rename_i hc
      · simp [hc]
      · rw [ih]
        simp [hc]

theorem takeWhile_eq_nil_iff : cs.takeWhile (· ≠ '/') = [] ↔ endsFirstPart cs = true := by
  cases cs with
  | nil => simp [endsFirstPart]
  | cons c cs =>
      by_cases hc : c = '/'
      · simp [endsFirstPart, hc]
      · simp [endsFirstPart, hc]

/-- A path begins at the current directory if its first part is a point. -/
theorem beginsHere_ofList_iff :
    beginsHere (String.ofList cs) = true ↔
      ∃ rest, cs = '.' :: rest ∧ endsFirstPart rest = true := by
  have hhead : beginsHere (String.ofList cs) = true ↔ cs.takeWhile (· ≠ '/') = ['.'] := by
    rw [beginsHere, beq_iff_eq, Text.splitAtChar, head?_splitAtChar_go, String.toList_ofList,
      Option.some.injEq]
    exact ⟨fun h => String.ofList_injective h, fun h => congrArg String.ofList h⟩
  rw [hhead]
  cases cs with
  | nil => simp
  | cons c cs =>
      by_cases hc : c = '/'
      · subst hc
        simp
      · have htake : (c :: cs).takeWhile (· ≠ '/') = c :: cs.takeWhile (· ≠ '/') := by simp [hc]
        rw [htake, List.cons.injEq, takeWhile_eq_nil_iff]
        constructor
        · rintro ⟨rfl, h⟩
          exact ⟨cs, rfl, h⟩
        · rintro ⟨_, ⟨⟩, h⟩
          exact ⟨rfl, h⟩

/-- Only a point in front counts as a name. -/
theorem names_ofList_of_not (h : beginsHere (String.ofList cs) = false) :
    names (String.ofList cs) = namesIn cs := by
  rw [names, h]
  rfl

theorem names_ofList_slash (cs : List Char) : names (String.ofList ('/' :: cs)) = namesIn cs := by
  have hhere : beginsHere (String.ofList ('/' :: cs)) = false := by
    rw [← Bool.not_eq_true, beginsHere_ofList_iff]
    rintro ⟨_, ⟨⟩, _⟩
  rw [names_ofList_of_not hhere, namesIn_cons_slash]

/-- The point in front is the first name of the path. -/
theorem names_ofList_dot (h : endsFirstPart cs = true) :
    names (String.ofList ('.' :: cs)) = "." :: namesIn cs := by
  have hbegins : beginsHere (String.ofList ('.' :: cs)) = true :=
    beginsHere_ofList_iff.mpr ⟨cs, rfl, h⟩
  have hrest : namesIn ('.' :: cs) = namesIn cs := by
    cases cs with
    | nil => decide
    | cons c cs =>
        obtain rfl : c = '/' := by simpa [endsFirstPart] using h
        have hdot : namesIn ['.'] = [] := by decide
        rw [← List.singleton_append, namesIn_append_slash, hdot, namesIn_cons_slash,
          List.nil_append]
  rw [names, hbegins, if_pos rfl, ← namesIn, hrest]
  rfl

/-- A first part of a path that is cut off in front of a slash begins as the path does. -/
theorem begins_front {front : List Char} (h : front = [] ∨ ∃ back, cs = front ++ '/' :: back)
    (habsolute : isAbsolute (String.ofList cs) = false)
    (hhere : beginsHere (String.ofList cs) = false) :
    isAbsolute (String.ofList front) = false ∧ beginsHere (String.ofList front) = false := by
  rcases h with rfl | ⟨back, rfl⟩
  · decide
  · cases front with
    | nil => simp [isAbsolute] at habsolute
    | cons c front =>
        refine ⟨by simpa [isAbsolute] using habsolute, ?_⟩
        rw [← Bool.not_eq_true] at hhere ⊢
        intro hfront
        rcases beginsHere_ofList_iff.mp hfront with ⟨rest, heq, hends⟩
        refine hhere (beginsHere_ofList_iff.mpr ⟨rest ++ '/' :: back, by rw [heq]; rfl, ?_⟩)
        cases rest <;> simp_all [endsFirstPart]

/-- Whether a path goes on from another by one name. -/
def GoesOn (parent path : String) : Prop :=
  isAbsolute path = isAbsolute parent ∧ ∃ name, names path = names parent ++ [name]

/-- A parent of an absolute path is absolute.  This and the following three are the branches of
`parentChars?`. -/
theorem goesOn_of_root (h : withoutLast? cs.reverse = some kept) :
    GoesOn (String.ofList ('/' :: kept.reverse)) (String.ofList ('/' :: cs)) := by
  refine ⟨by simp [isAbsolute], ?_⟩
  rw [names_ofList_slash, names_ofList_slash]
  exact exists_namesIn_eq h

theorem goesOn_of_here (hends : endsFirstPart cs = true) (h : withoutLast? cs.reverse = some kept) :
    GoesOn (String.ofList ('.' :: kept.reverse)) (String.ofList ('.' :: cs)) := by
  have hkept : endsFirstPart kept.reverse = true := by
    rcases exists_back h with hnil | ⟨back, hback⟩
    · rw [hnil]
      rfl
    · generalize kept.reverse = front at hback
      subst hback
      cases front with
      | nil => rfl
      | cons c front => exact hends
  rcases exists_namesIn_eq h with ⟨name, hname⟩
  refine ⟨by simp [isAbsolute], name, ?_⟩
  rw [names_ofList_dot hends, names_ofList_dot hkept, hname, List.cons_append]

/-- The parent of the current directory is the empty path. -/
theorem goesOn_of_alone (hends : endsFirstPart cs = true) (h : withoutLast? cs.reverse = none) :
    GoesOn (String.ofList []) (String.ofList ('.' :: cs)) := by
  refine ⟨by simp [isAbsolute], ".", ?_⟩
  rw [names_ofList_dot hends, namesIn_of_withoutLast?_eq_none h]
  decide

theorem goesOn_of_plain (habsolute : isAbsolute (String.ofList cs) = false)
    (hhere : beginsHere (String.ofList cs) = false) (h : withoutLast? cs.reverse = some kept) :
    GoesOn (String.ofList kept.reverse) (String.ofList cs) := by
  rcases begins_front (exists_back h) habsolute hhere with ⟨habsolute', hhere'⟩
  refine ⟨habsolute.trans habsolute'.symm, ?_⟩
  rw [names_ofList_of_not hhere, names_ofList_of_not hhere']
  exact exists_namesIn_eq h

/-- A path goes on from its parent by one name. -/
theorem goesOn_of_parentChars? (h : parentChars? cs = some kept) :
    GoesOn (String.ofList kept) (String.ofList cs) := by
  unfold parentChars? at h
  split at h
  · rcases Option.map_eq_some_iff.mp h with ⟨left, hleft, rfl⟩
    exact goesOn_of_root hleft
  · rename_i cs
    split at h <;> rename_i hends
    · have hkept := Option.some.inj h
      cases hwithout : withoutLast? cs.reverse with
      | none =>
          rw [hwithout] at hkept
          exact hkept ▸ goesOn_of_alone hends hwithout
      | some left =>
          rw [hwithout] at hkept
          exact hkept ▸ goesOn_of_here hends hwithout
    · rcases Option.map_eq_some_iff.mp h with ⟨left, hleft, rfl⟩
      refine goesOn_of_plain (by simp [isAbsolute]) ?_ hleft
      rw [← Bool.not_eq_true, beginsHere_ofList_iff]
      rintro ⟨_, ⟨⟩, h⟩
      exact hends h
  · rename_i hslash hdot
    rcases Option.map_eq_some_iff.mp h with ⟨left, hleft, rfl⟩
    refine goesOn_of_plain ?_ ?_ hleft
    · rw [isAbsolute, String.toList_ofList, beq_eq_false_iff_ne]
      intro hhead
      rcases List.head?_eq_some_iff.mp hhead with ⟨rest, rfl⟩
      exact hslash rest rfl
    · rw [← Bool.not_eq_true, beginsHere_ofList_iff]
      rintro ⟨rest, rfl, -⟩
      exact hdot rest rfl

/-- A path without a parent has no names. -/
theorem names_of_parentChars?_eq_none (h : parentChars? cs = none) :
    names (String.ofList cs) = [] := by
  unfold parentChars? at h
  split at h
  · rw [names_ofList_slash]
    exact namesIn_of_withoutLast?_eq_none (Option.map_eq_none_iff.mp h)
  · rename_i cs
    split at h <;> rename_i hends
    · cases h
    · have hhere : beginsHere (String.ofList ('.' :: cs)) = false := by
        rw [← Bool.not_eq_true, beginsHere_ofList_iff]
        rintro ⟨_, ⟨⟩, h⟩
        exact hends h
      rw [names_ofList_of_not hhere]
      exact namesIn_of_withoutLast?_eq_none (Option.map_eq_none_iff.mp h)
  · rename_i hslash hdot
    have hhere : beginsHere (String.ofList cs) = false := by
      rw [← Bool.not_eq_true, beginsHere_ofList_iff]
      rintro ⟨rest, rfl, -⟩
      exact hdot rest rfl
    rw [names_ofList_of_not hhere]
    exact namesIn_of_withoutLast?_eq_none (Option.map_eq_none_iff.mp h)

/-- A path has the names of its parent and one more. -/
theorem goesOn_of_parent? (h : parent? path = some parent) : GoesOn parent path := by
  rcases Option.map_eq_some_iff.mp h with ⟨kept, hkept, rfl⟩
  rw [← String.ofList_toList (s := path)]
  exact goesOn_of_parentChars? hkept

/-- Only paths without names have no parent. -/
theorem names_of_parent?_eq_none (h : parent? path = none) : names path = [] := by
  rw [← String.ofList_toList (s := path)]
  exact names_of_parentChars?_eq_none (Option.map_eq_none_iff.mp h)

/-! ## Ancestors -/

/-- The ancestors are found by going from parent to parent. -/
theorem ancestors_of_parent? (h : parent? path = some parent) :
    ancestors path = path :: ancestors parent := by
  rw [ancestors]
  split <;> simp_all

theorem ancestors_of_none (h : parent? path = none) : ancestors path = [path] := by
  rw [ancestors]
  split <;> simp_all

theorem upward_nil (fromRoot : Bool) : Route.upward ⟨fromRoot, []⟩ = [⟨fromRoot, []⟩] :=
  rfl

/-- The ancestors of a route, the longest first, each by leaving out the last name. -/
theorem upward_concat (fromRoot : Bool) (ns : List String) (name : String) :
    Route.upward ⟨fromRoot, ns ++ [name]⟩ =
      ⟨fromRoot, ns ++ [name]⟩ :: Route.upward ⟨fromRoot, ns⟩ := by
  simp [Route.upward, List.inits_append]

/-- The ancestors of a path lead along all first parts of its names, from all of them to none. -/
theorem map_route_ancestors (path : String) : (ancestors path).map route = (route path).upward := by
  cases hparent : parent? path with
  | none =>
      have hnames := names_of_parent?_eq_none hparent
      rw [ancestors_of_none hparent, List.map_singleton, route, hnames, upward_nil]
  | some parent =>
      have ih := map_route_ancestors parent
      rcases goesOn_of_parent? hparent with ⟨habsolute, name, hnames⟩
      have hroute : route path = ⟨isAbsolute parent, names parent ++ [name]⟩ := by
        rw [route, habsolute, hnames]
      rw [ancestors_of_parent? hparent, List.map_cons, ih, hroute, upward_concat]
      rfl
termination_by path.toList.length
decreasing_by exact length_of_parent? hparent

/-! ## Entries of directories -/

theorem beginsHere_append_slash (front back : String) :
    beginsHere (front ++ "/" ++ back) = beginsHere front := by
  rw [beginsHere, beginsHere, Text.splitAtChar_append rfl, Text.splitAtChar, List.head?_append,
    head?_splitAtChar_go, Option.some_or]

theorem beginsHere_join {name : String} (h : IsName name) (directory : String) :
    beginsHere (join directory name) = beginsHere directory := by
  rcases join_cases h directory with ⟨rfl, hjoin⟩ | ⟨front, hdirectory, hjoin⟩
  · have hname : beginsHere name = false := by
      rw [beginsHere, Text.splitAtChar_of_not_mem h.2.2.2]
      simpa using h.2.1
    rw [hjoin, hname]
    rfl
  · rw [hjoin, beginsHere_append_slash]
    rcases hdirectory with rfl | rfl
    · rfl
    · rw [← String.append_empty (s := front ++ "/"), beginsHere_append_slash]

/-- A joined name is the last name of the path. -/
theorem names_join {name : String} (h : IsName name) (directory : String) :
    names (join directory name) = names directory ++ [name] := by
  rw [names, beginsHere_join h, parts_join h, List.filter_append, ← List.append_assoc, ← names]
  simp [h.2.1]

/-- A directory is the parent of what is in it. -/
theorem route_parent_join {name : String} (h : IsName name) (directory : String) :
    ∃ parent, parent? (join directory name) = some parent ∧ route parent = route directory := by
  have hnames := names_join h directory
  cases hparent : parent? (join directory name) with
  | none =>
      rw [names_of_parent?_eq_none hparent] at hnames
      exact absurd hnames.symm (List.append_ne_nil_of_right_ne_nil _ (List.cons_ne_nil _ _))
  | some parent =>
      rcases goesOn_of_parent? hparent with ⟨habsolute, last, hlast⟩
      rw [isAbsolute_join h] at habsolute
      rw [hnames] at hlast
      refine ⟨parent, rfl, ?_⟩
      rw [route, route, ← habsolute, (List.append_inj' hlast rfl).1]

end LayerNet.Path
