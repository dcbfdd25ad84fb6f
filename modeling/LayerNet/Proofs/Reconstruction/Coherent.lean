import Mathlib.Data.List.Nodup
import LayerNet.Proofs.Reconstruction.Identifier
import LayerNet.Reconstruction.Session

/-!
# Coherent sessions

A session keeps the places of names and the identifiers in use beside its variables.  They agree
with the variables as long as no name is declared twice; then no two variables have one name or one
identifier.  A variable has the identifier that is made of its name unless an earlier one has it.

Main definitions:

- `EachBehind`: a property of elements that speaks of the ones before them.
- `Session.Coherent`: places and identifiers agree with the variables.

Main results:

- `Session.Coherent.declare`: a new name may be declared.
- `Session.Coherent.nodup_names`: names are not repeated.
- `Session.Coherent.identifier_eq`: names of which different identifiers are made have these.
-/

namespace LayerNet

/-! ## Elements with those before them -/

/-- Whether every element of a list behind the ones of `start` has a property that speaks of all the
elements before it. -/
def EachBehind {α : Type*} (start : List α) (property : List α → α → Prop) (l : List α) : Prop :=
  ∀ (before : List α) (a : α) (after : List α), l = start ++ before ++ a :: after →
    property (start ++ before) a

/-- An element at the end leaves the ones before it as they are. -/
theorem EachBehind.concat {α : Type*} {start l : List α} {property : List α → α → Prop} {a : α}
    (h : EachBehind start property l) (ha : property l a) :
    EachBehind start property (l ++ [a]) := by
  intro before b after hlist
  rcases List.eq_nil_or_concat after with rfl | ⟨after, last, rfl⟩
  · rcases List.append_inj' hlist rfl with ⟨rfl, hlast⟩
    cases hlast
    exact ha
  · rw [List.concat_eq_append, ← List.cons_append, ← List.append_assoc] at hlist
    exact h before b after (List.append_inj' hlist rfl).1

/-- A list goes on with elements that have the property; so do the elements from the start on if the
ones in between have it. -/
theorem EachBehind.trans {α : Type*} {start middle l : List α} {property : List α → α → Prop}
    (hmiddle : EachBehind start property middle) (h : EachBehind middle property l)
    (hbegins : start <+: middle) (hgoes : middle <+: l) : EachBehind start property l := by
  rcases hbegins with ⟨new, rfl⟩
  rcases hgoes with ⟨rest, rfl⟩
  intro before a after hlist
  have hbehind : new ++ rest = before ++ a :: after := by
    simpa [List.append_assoc] using hlist
  rcases List.append_eq_append_iff.mp hbehind with ⟨more, rfl, hrest⟩ | ⟨more, rfl, hmore⟩
  · rw [← List.append_assoc]
    exact h more a after (by simp [hrest])
  · cases more with
    | nil =>
        have hlast := h [] a after (by simp [hmore])
        simpa using hlast
    | cons b more =>
        obtain ⟨rfl, rfl⟩ := List.cons.inj hmore
        exact hmiddle before a more (by rw [List.append_assoc])

/-- What has been put behind the start has the property. -/
theorem EachBehind.exists_before {α : Type*} {start l : List α} {property : List α → α → Prop}
    (h : EachBehind start property l) (hbegins : start <+: l) {a : α} (ha : a ∈ l) :
    a ∈ start ∨ ∃ before ⊆ l, property before a := by
  rcases hbegins with ⟨new, rfl⟩
  refine (List.mem_append.mp ha).imp_right fun hnew => ?_
  rcases List.append_of_mem hnew with ⟨before, after, rfl⟩
  have hlist : start ++ (before ++ a :: after) = start ++ before ++ a :: after :=
    (List.append_assoc _ _ _).symm
  refine ⟨start ++ before, ?_, h before a after hlist⟩
  rw [hlist]
  exact List.subset_append_left _ _

namespace Session

variable {s : Session} {name template : String} {unresolved : List String}

/-- The variables of a session, in order. -/
def toList (s : Session) : List Variable :=
  s.declared.toList

/-- The variable that a declaration adds. -/
def added (s : Session) (name template : String) (unresolved : List String) : Variable :=
  ⟨(s.freshIdentifier name).1, name,
    Text.replaceFirst identifierMark (s.freshIdentifier name).1 template, unresolved⟩

/-! ## What operations do -/

@[simp]
theorem toList_empty : empty.toList = [] :=
  rfl

@[simp]
theorem not_mem_places_empty : name ∉ empty.places := by
  simp [empty]

/-- A declaration adds its variable behind the others. -/
@[simp]
theorem toList_declare : (s.declare name template unresolved).2.toList =
    s.toList ++ [s.added name template unresolved] := by
  simp [declare, toList, added]

/-- A declaration leaves the other variables as they are. -/
theorem prefix_declare : s.toList <+: (s.declare name template unresolved).2.toList := by
  rw [toList_declare]
  exact List.prefix_append _ _

/-- It has the place of its name from then on. -/
@[simp]
theorem mem_places_declare {other : String} :
    other ∈ (s.declare name template unresolved).2.places ↔ other = name ∨ other ∈ s.places := by
  rw [declare, Std.HashMap.mem_insert, beq_iff_eq, eq_comm]

@[simp]
theorem inProgress_declare :
    (s.declare name template unresolved).2.inProgress = s.inProgress :=
  rfl

@[simp]
theorem toList_enter : (s.enter name).toList = s.toList :=
  rfl

@[simp]
theorem places_enter : (s.enter name).places = s.places :=
  rfl

@[simp]
theorem mem_inProgress_enter {other : String} :
    other ∈ (s.enter name).inProgress ↔ other = name ∨ other ∈ s.inProgress := by
  rw [enter, Std.HashSet.mem_insert, beq_iff_eq, eq_comm]

@[simp]
theorem toList_leave : (s.leave name).toList = s.toList :=
  rfl

@[simp]
theorem places_leave : (s.leave name).places = s.places :=
  rfl

@[simp]
theorem mem_inProgress_leave {other : String} :
    other ∈ (s.leave name).inProgress ↔ other ≠ name ∧ other ∈ s.inProgress := by
  rw [leave, Std.HashSet.mem_erase, beq_eq_false_iff_ne, ne_comm]

/-! ## Agreement -/

/-- Whether a variable has the identifier that is made of its name, unless one before it has
that. -/
def Natural (before : List Variable) (v : Variable) : Prop :=
  (∀ w ∈ before, w.identifier ≠ identifierOf v.node) → v.identifier = identifierOf v.node

/-- Whether the places and the identifiers of a session agree with its variables, and no identifier
is repeated or changed without need. -/
structure Coherent (s : Session) : Prop where
  places_iff : ∀ (name : String) (i : Nat),
    s.places[name]? = some i ↔ ∃ v, s.toList[i]? = some v ∧ v.node = name
  identifiers_iff : ∀ text, text ∈ s.identifiers ↔ ∃ v ∈ s.toList, v.identifier = text
  nodup_identifiers : (s.toList.map Variable.identifier).Nodup
  namedAfter : ∀ v ∈ s.toList, NamedAfter v.node v.identifier
  natural : EachBehind [] Natural s.toList

/-- Nothing is declared at first. -/
theorem coherent_empty : empty.Coherent where
  places_iff := by simp [empty, toList]
  identifiers_iff := by simp [empty, toList]
  nodup_identifiers := List.nodup_nil
  namedAfter := by simp
  natural := by simp [EachBehind]

/-- Entering and leaving a node declares nothing. -/
theorem Coherent.enter (h : s.Coherent) (name : String) : (s.enter name).Coherent :=
  ⟨h.places_iff, h.identifiers_iff, h.nodup_identifiers, h.namedAfter, h.natural⟩

theorem Coherent.leave (h : s.Coherent) (name : String) : (s.leave name).Coherent :=
  ⟨h.places_iff, h.identifiers_iff, h.nodup_identifiers, h.namedAfter, h.natural⟩

/-- The names with a place are those that are declared. -/
theorem Coherent.mem_places_iff (h : s.Coherent) :
    name ∈ s.places ↔ ∃ v ∈ s.toList, v.node = name := by
  rw [Std.HashMap.mem_iff_isSome_getElem?, Option.isSome_iff_exists]
  constructor
  · rintro ⟨i, hi⟩
    rcases (h.places_iff name i).mp hi with ⟨v, hv, hname⟩
    exact ⟨v, List.mem_of_getElem? hv, hname⟩
  · rintro ⟨v, hv, hname⟩
    rcases List.mem_iff_getElem?.mp hv with ⟨i, hi⟩
    exact ⟨i, (h.places_iff name i).mpr ⟨v, hi, hname⟩⟩

/-- What is found for a name is the variable that is declared for it, at its place. -/
theorem Coherent.find?_eq_some_iff (h : s.Coherent) {i : Nat} {v : Variable} :
    s.find? name = some (i, v) ↔ s.toList[i]? = some v ∧ v.node = name := by
  rw [Session.find?_eq_some_iff, h.places_iff, ← Array.getElem?_toList]
  constructor
  · rintro ⟨⟨w, hw, hname⟩, hv⟩
    cases Option.some.inj (hw.symm.trans hv)
    exact ⟨hv, hname⟩
  · rintro ⟨hv, hname⟩
    exact ⟨⟨v, hv, hname⟩, hv⟩

/-- No name is declared twice. -/
theorem Coherent.nodup_names (h : s.Coherent) : (s.toList.map Variable.node).Nodup := by
  rw [List.nodup_iff_getElem?_ne_getElem?]
  intro i j hij hj heq
  rw [List.length_map] at hj
  rw [List.getElem?_map, List.getElem?_map, List.getElem?_eq_getElem hj,
    List.getElem?_eq_getElem (hij.trans hj), Option.map_some, Option.map_some,
    Option.some.injEq] at heq
  have hplace (k : Nat) (hk : k < s.toList.length) :
      s.places[s.toList[k].node]? = some k :=
    (h.places_iff _ k).mpr ⟨_, List.getElem?_eq_getElem hk, rfl⟩
  have hsame := hplace i (hij.trans hj)
  rw [heq, hplace j hj, Option.some.injEq] at hsame
  omega

/-- Two variables of one name are one. -/
theorem Coherent.eq_of_node_eq (h : s.Coherent) {v w : Variable} (hv : v ∈ s.toList)
    (hw : w ∈ s.toList) (heq : v.node = w.node) : v = w :=
  List.inj_on_of_nodup_map h.nodup_names hv hw heq

/-- After a declaration the places are those of the variables: the new name has the last one. -/
theorem Coherent.places_iff_declare (h : s.Coherent) (hnew : name ∉ s.places) (other : String)
    (i : Nat) : (s.declare name template unresolved).2.places[other]? = some i ↔
      ∃ v, (s.declare name template unresolved).2.toList[i]? = some v ∧ v.node = other := by
  have hplaces : (s.declare name template unresolved).2.places =
      s.places.insert name s.toList.length := rfl
  rw [hplaces, Std.HashMap.getElem?_insert, toList_declare]
  by_cases hi : i < s.toList.length
  · rw [List.getElem?_append_left hi, ← h.places_iff]
    split <;> rename_i hother
    · rw [beq_iff_eq] at hother
      subst hother
      rw [Std.HashMap.getElem?_eq_none hnew]
      simp
      omega
    · rfl
  · have hold : s.places[other]? ≠ some i := by
      intro hplace
      rcases (h.places_iff other i).mp hplace with ⟨v, hv, -⟩
      exact hi (List.getElem?_eq_some_iff.mp hv).1
    rw [List.getElem?_append_right (Nat.le_of_not_lt hi), List.getElem?_singleton]
    split <;> rename_i hother
    · rw [beq_iff_eq] at hother
      subst hother
      split <;> rename_i hlast
      · simp [added]
        omega
      · simp
        omega
    · rw [beq_iff_eq] at hother
      split
      · simp [hold, added, hother]
      · simp [hold]

/-- After a declaration the identifiers in use are those of the variables. -/
theorem Coherent.identifiers_iff_declare (h : s.Coherent) (text : String) :
    text ∈ (s.declare name template unresolved).2.identifiers ↔
      ∃ v ∈ (s.declare name template unresolved).2.toList, v.identifier = text := by
  have hidentifiers : (s.declare name template unresolved).2.identifiers =
      s.identifiers.insert (s.freshIdentifier name).1 := rfl
  rw [hidentifiers, Std.HashSet.mem_insert, toList_declare, h.identifiers_iff, beq_iff_eq]
  simp only [List.mem_append, List.mem_singleton, or_and_right, exists_or, exists_eq_left]
  exact or_comm

/-- A name without a variable may be declared. -/
theorem Coherent.declare (h : s.Coherent) (hnew : name ∉ s.places) (template : String)
    (unresolved : List String) : (s.declare name template unresolved).2.Coherent where
  places_iff := h.places_iff_declare hnew
  identifiers_iff := h.identifiers_iff_declare
  nodup_identifiers := by
    rw [toList_declare, List.map_append, List.map_singleton]
    refine h.nodup_identifiers.append (List.nodup_singleton _) ?_
    intro text htext hlast
    rcases List.mem_map.mp htext with ⟨v, hv, rfl⟩
    refine s.freshIdentifier_not_mem name ((h.identifiers_iff _).mpr ⟨v, hv, ?_⟩)
    exact List.mem_singleton.mp hlast
  namedAfter v hv := by
    rw [toList_declare, List.mem_append, List.mem_singleton] at hv
    rcases hv with hv | rfl
    · exact h.namedAfter v hv
    · exact s.namedAfter_freshIdentifier name
  natural := by
    rw [toList_declare]
    refine h.natural.concat fun hfree => ?_
    have hnot : identifierOf name ∉ s.identifiers := by
      rw [h.identifiers_iff]
      rintro ⟨v, hv, heq⟩
      exact hfree v hv heq
    rw [added, freshIdentifier_of_not_mem hnot]

/-- If different identifiers are made of the names of the variables, each variable has the one that
is made of its name. -/
theorem Coherent.identifier_eq (h : s.Coherent)
    (hinjective : ∀ v ∈ s.toList, ∀ w ∈ s.toList,
      identifierOf v.node = identifierOf w.node → v.node = w.node) :
    ∀ v ∈ s.toList, v.identifier = identifierOf v.node := by
  -- by induction on the variables in order: the earlier ones have other identifiers
  have hall : ∀ before, before <+: s.toList → ∀ v ∈ before, v.identifier = identifierOf v.node := by
    intro before hbefore
    induction before using List.reverseRecOn with
    | nil => simp
    | append_singleton before v ih =>
        have hbegins : before <+: s.toList := (List.prefix_append _ _).trans hbefore
        have ih := ih hbegins
        rcases hbefore with ⟨after, hlist⟩
        rw [List.append_assoc, List.singleton_append] at hlist
        have hv : v ∈ s.toList := hlist ▸ List.mem_append_right _ List.mem_cons_self
        have hnames := h.nodup_names
        rw [← hlist, List.map_append, List.map_cons, List.nodup_middle, List.nodup_cons] at hnames
        intro w hw
        rcases List.mem_append.mp hw with hw | hw
        · exact ih w hw
        · rw [List.mem_singleton.mp hw]
          refine h.natural before v after hlist.symm fun u hu heq => hnames.1 ?_
          rw [ih u hu] at heq
          rw [← hinjective u (hbegins.subset hu) v hv heq]
          exact List.mem_append_left _ (List.mem_map_of_mem hu)
  exact hall s.toList (List.prefix_refl _)

end Session
end LayerNet
