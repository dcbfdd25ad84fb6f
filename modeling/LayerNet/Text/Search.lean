/-!
# Finding and replacing texts

Searches for one run of characters inside another.  Every search goes from left to right and takes
the first occurrence.

Main definitions:

- `dropFront?`: the rest after a given beginning.
- `breakOn`: the parts before and after the first occurrence.
- `replaceAll`: every occurrence, left to right and without overlap, replaced.
-/

namespace LayerNet.Text

/-! ## Beginnings and ends -/

/-- The characters after the beginning `pat`, if they begin so. -/
def dropFront? : List Char → List Char → Option (List Char)
  | [], cs => some cs
  | _ :: _, [] => none
  | p :: pat, c :: cs => if p = c then dropFront? pat cs else none

/-- The rest found after a beginning is what follows it. -/
theorem dropFront?_eq_some_iff {pat cs rest : List Char} :
    dropFront? pat cs = some rest ↔ cs = pat ++ rest := by
  induction pat generalizing cs with
  | nil => simp [dropFront?, eq_comm]
  | cons p pat ih =>
    cases cs with
    | nil => simp [dropFront?]
    | cons c cs =>
      by_cases h : p = c
      · simp [dropFront?, h, ih]
      · simp [dropFront?, h, Ne.symm h]

theorem length_of_dropFront? {pat cs rest : List Char} (h : dropFront? pat cs = some rest) :
    cs.length = pat.length + rest.length := by
  rw [dropFront?_eq_some_iff.1 h, List.length_append]

/-- Whether the text `s` begins with `front`. -/
def beginsWith (front s : String) : Bool :=
  front.toList.isPrefixOf s.toList

/-- Whether the text `s` ends with `back`. -/
def endsWith (back s : String) : Bool :=
  back.toList.isSuffixOf s.toList

/-! ## First occurrence -/

/-- The characters before and after the first occurrence of `pat`. -/
def breakOn (pat : List Char) : List Char → Option (List Char × List Char)
  | [] => if pat.isEmpty then some ([], []) else none
  | c :: cs =>
    match dropFront? pat (c :: cs) with
    | some rest => some ([], rest)
    | none => (breakOn pat cs).map fun parts => (c :: parts.1, parts.2)

/-- The two parts around an occurrence make up the whole with it. -/
theorem eq_append_of_breakOn {pat cs before after : List Char}
    (h : breakOn pat cs = some (before, after)) : cs = before ++ pat ++ after := by
  induction cs generalizing before with
  | nil =>
    unfold breakOn at h
    split at h <;> simp_all
  | cons c cs ih =>
    unfold breakOn at h
    split at h
    · rename_i rest hrest
      simp only [Option.some.injEq, Prod.mk.injEq] at h
      obtain ⟨rfl, rfl⟩ := h
      simpa using dropFront?_eq_some_iff.1 hrest
    · simp only [Option.map_eq_some_iff, Prod.mk.injEq] at h
      obtain ⟨⟨b, a⟩, hb, rfl, rfl⟩ := h
      have := ih hb
      simp_all

/-- The part after an occurrence is no longer than the whole. -/
theorem length_of_breakOn {pat cs before after : List Char}
    (h : breakOn pat cs = some (before, after)) : after.length + pat.length ≤ cs.length := by
  have := congrArg List.length (eq_append_of_breakOn h)
  simp only [List.length_append] at this
  omega

/-- Whether `pat` occurs in `s`. -/
def occursIn (pat s : String) : Bool :=
  (breakOn pat.toList s.toList).isSome

/-! ## Replacement -/

/-- Replaces the first occurrence of `pat` by `new`. -/
def replaceFirst (pat new s : String) : String :=
  match breakOn pat.toList s.toList with
  | some (before, after) => String.ofList (before ++ new.toList ++ after)
  | none => s

/-- Replaces every occurrence of `pat`; the first `skip` characters belong to an occurrence that is
already replaced. -/
def replaceFrom (pat new : List Char) : Nat → List Char → List Char
  | _, [] => []
  | skip + 1, _ :: cs => replaceFrom pat new skip cs
  | 0, c :: cs =>
    if pat.isPrefixOf (c :: cs) then new ++ replaceFrom pat new (pat.length - 1) cs
    else c :: replaceFrom pat new 0 cs

/-- Replaces every occurrence of the nonempty text `pat` by `new`, left to right; an occurrence is
looked for only after the end of the one before. -/
def replaceAll (pat new s : String) : String :=
  if pat.isEmpty then s else String.ofList (replaceFrom pat.toList new.toList 0 s.toList)

end LayerNet.Text
