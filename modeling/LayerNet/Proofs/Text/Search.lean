import Mathlib.Data.List.Infix
import LayerNet.Text.Search

/-!
# Occurrences and replacements

A text that has none of a character occurs on one side of it or not at all.  A text is therefore not
found where such a separator follows before it could end, and a replacement leaves everything alone
up to there.

A text may also be cut at an offset in bytes, but only between two of its characters; what is found
stands at such an offset.

Main definitions:

- `CutAt`: the two parts of a text at an offset.

Main results:

- `occursIn_iff`: what is found occurs.
- `breakOn_append`, `breakOn_cons`: where the first occurrence is.
- `exists_cutAt_iff`, `CutAt.of_offsetOf?`: offsets at which a text may be cut.
- `infix_append_cons_iff`: occurrences beside a separator.
- `replaceFrom_separator`, `replaceFrom_occurrence`: a replacement up to a separator and at an
  occurrence.
- `replaceFrom_single`: a replacement in a text with one occurrence.
-/

namespace LayerNet.Text

/-! ## Occurrences -/

theorem isSome_breakOn_iff {pat cs : List Char} : (breakOn pat cs).isSome ↔ pat <:+: cs := by
  induction cs with
  | nil =>
      rw [breakOn, List.infix_nil]
      split <;> rename_i h <;> simp_all
  | cons c cs ih =>
      rw [List.infix_cons_iff, breakOn]
      split
      · rename_i rest hrest
        have hbegins : pat <+: c :: cs := ⟨rest, (dropFront?_eq_some_iff.mp hrest).symm⟩
        simp [hbegins]
      · rename_i hnone
        have hbegins : ¬ pat <+: c :: cs := by
          rintro ⟨rest, hrest⟩
          rw [dropFront?_eq_some_iff.mpr hrest.symm] at hnone
          simp at hnone
        rw [Option.isSome_map, ih]
        simp [hbegins]

theorem occursIn_iff {pat s : String} : occursIn pat s = true ↔ pat.toList <:+: s.toList :=
  isSome_breakOn_iff

/-! ## First occurrences -/

theorem dropFront?_append (pat rest : List Char) : dropFront? pat (pat ++ rest) = some rest :=
  dropFront?_eq_some_iff.mpr rfl

theorem dropFront?_eq_none_iff {pat cs : List Char} : dropFront? pat cs = none ↔ ¬ pat <+: cs := by
  constructor
  · rintro hnone ⟨rest, hrest⟩
    rw [dropFront?_eq_some_iff.mpr hrest.symm] at hnone
    cases hnone
  · intro hnot
    cases hdrop : dropFront? pat cs with
    | none => rfl
    | some rest => exact absurd ⟨rest, (dropFront?_eq_some_iff.mp hdrop).symm⟩ hnot

theorem breakOn_nil {pat : List Char} (hpat : pat ≠ []) : breakOn pat [] = none := by
  rw [breakOn, if_neg]
  simpa using hpat

/-- An occurrence at the front is the first one. -/
theorem breakOn_append {pat : List Char} (hpat : pat ≠ []) (rest : List Char) :
    breakOn pat (pat ++ rest) = some ([], rest) := by
  cases pat with
  | nil => exact absurd rfl hpat
  | cons p pat =>
      have hdrop := dropFront?_append (p :: pat) rest
      rw [List.cons_append] at hdrop ⊢
      rw [breakOn, hdrop]

/-- Without an occurrence at the front, the first one is that of the rest. -/
theorem breakOn_cons {pat cs : List Char} {c : Char} (h : ¬ pat <+: c :: cs) :
    breakOn pat (c :: cs) = (breakOn pat cs).map fun parts => (c :: parts.1, parts.2) := by
  rw [breakOn, dropFront?_eq_none_iff.mpr h]

/-- Before a character stands what has none of it. -/
theorem breakOn_singleton {c : Char} {front : List Char} (h : c ∉ front) (back : List Char) :
    breakOn [c] (front ++ c :: back) = some (front, back) := by
  induction front with
  | nil => exact breakOn_append (List.cons_ne_nil c []) back
  | cons d front ih =>
      rw [List.mem_cons, not_or] at h
      have hbegins : ¬ [c] <+: d :: (front ++ c :: back) := fun hprefix =>
        h.1 (List.cons_prefix_cons.mp hprefix).1
      rw [List.cons_append, breakOn_cons hbegins, ih h.2, Option.map_some]

theorem breakOn_singleton_eq_none {c : Char} {cs : List Char} (h : c ∉ cs) :
    breakOn [c] cs = none := by
  rw [← Option.not_isSome_iff_eq_none, isSome_breakOn_iff]
  exact fun hfound => h (hfound.subset List.mem_cons_self)

/-! ## Offsets -/

/-- How many bytes the characters take up in a text. -/
def byteLength (cs : List Char) : Nat :=
  (String.ofList cs).utf8ByteSize

theorem byteLength_append (front back : List Char) :
    byteLength (front ++ back) = byteLength front + byteLength back := by
  rw [byteLength, String.ofList_append, String.utf8ByteSize_append, byteLength, byteLength]

theorem byteLength_eq_zero_iff {cs : List Char} : byteLength cs = 0 ↔ cs = [] := by
  rw [byteLength, String.utf8ByteSize_eq_zero_iff, String.ofList_eq_empty_iff]

/-- The characters are cut in two behind `offset` bytes, which has to be between two of them. -/
structure CutAt (cs : List Char) (offset : Nat) (front back : List Char) : Prop where
  eq_append : cs = front ++ back
  length_front : byteLength front = offset

/-- A text may be cut at its valid positions. -/
theorem exists_cutAt_iff {s : String} {offset : Nat} :
    (∃ front back, CutAt s.toList offset front back) ↔ String.Pos.Raw.IsValid s ⟨offset⟩ := by
  rw [String.Pos.Raw.isValid_iff_exists_append]
  constructor
  · rintro ⟨front, back, heq, hlength⟩
    refine ⟨String.ofList front, String.ofList back, ?_, ?_⟩
    · rw [← String.ofList_append, ← heq, String.ofList_toList]
    · exact congrArg String.Pos.Raw.mk hlength.symm
  · rintro ⟨front, back, rfl, hoffset⟩
    refine ⟨front.toList, back.toList, String.toList_append, ?_⟩
    rw [byteLength, String.ofList_toList]
    exact (congrArg String.Pos.Raw.byteIdx hoffset).symm

theorem cutAt_zero (cs : List Char) : CutAt cs 0 [] cs :=
  ⟨rfl, byteLength_eq_zero_iff.mpr rfl⟩

section Cuts

variable {cs front back : List Char} {offset : Nat}

/-- Behind more whole characters a text may be cut again. -/
theorem CutAt.advance {more : List Char} (h : CutAt cs offset front (more ++ back)) :
    CutAt cs (offset + byteLength more) (front ++ more) back where
  eq_append := by rw [h.eq_append, List.append_assoc]
  length_front := by rw [byteLength_append, h.length_front]

/-- There is one way to cut a text at an offset. -/
theorem CutAt.unique {front' back' : List Char} (h : CutAt cs offset front back)
    (h' : CutAt cs offset front' back') : front = front' ∧ back = back' := by
  have hlength : byteLength front = byteLength front' := h.length_front.trans h'.length_front.symm
  rcases List.append_eq_append_iff.mp (h.eq_append.symm.trans h'.eq_append) with
    ⟨more, hfront, hback⟩ | ⟨more, hfront, hback⟩
  · rw [hfront, byteLength_append] at hlength
    have hmore : more = [] := byteLength_eq_zero_iff.mp (by omega)
    subst hmore
    rw [List.append_nil] at hfront
    exact ⟨hfront.symm, hback⟩
  · rw [hfront, byteLength_append] at hlength
    have hmore : more = [] := byteLength_eq_zero_iff.mp (by omega)
    subst hmore
    rw [List.append_nil] at hfront
    exact ⟨hfront, hback.symm⟩

/-- The offset of the first occurrence of `pat`. -/
def offsetOf? (pat cs : List Char) : Option Nat :=
  (breakOn pat cs).map fun parts => byteLength parts.1

/-- Where something is found, the text may be cut. -/
theorem CutAt.of_offsetOf? {pat rest : List Char} {found : Nat} (h : CutAt cs offset front rest)
    (hfound : offsetOf? pat rest = some found) :
    ∃ before after, breakOn pat rest = some (before, after) ∧ byteLength before = found ∧
      CutAt cs (offset + found) (front ++ before) (pat ++ after) := by
  rcases Option.map_eq_some_iff.mp hfound with ⟨⟨before, after⟩, hbreak, rfl⟩
  have hparts := eq_append_of_breakOn hbreak
  rw [List.append_assoc] at hparts
  subst hparts
  exact ⟨before, after, hbreak, rfl, h.advance⟩

end Cuts

/-! ## Separators -/

section Separators

variable {pat front back : List Char} {c : Char}

/-- What begins a text and has none of a character ends before that character. -/
theorem prefix_of_prefix_append_cons (hc : c ∉ pat) (h : pat <+: front ++ c :: back) :
    pat <+: front := by
  induction front generalizing pat with
  | nil =>
      rcases List.prefix_cons_iff.mp h with rfl | ⟨rest, rfl, -⟩
      · exact List.nil_prefix
      · exact absurd List.mem_cons_self hc
  | cons d front ih =>
      rcases List.prefix_cons_iff.mp h with rfl | ⟨rest, rfl, hrest⟩
      · exact List.nil_prefix
      · have hnot : c ∉ rest := fun hmem => hc (List.mem_cons_of_mem _ hmem)
        exact List.cons_prefix_cons.mpr ⟨rfl, ih hnot hrest⟩

/-- What has none of a character occurs before it or after it. -/
theorem infix_append_cons_iff (hc : c ∉ pat) :
    pat <:+: front ++ c :: back ↔ pat <:+: front ∨ pat <:+: back := by
  induction front with
  | nil =>
      rw [List.nil_append, List.infix_cons_iff, List.infix_nil]
      refine or_congr_left ⟨fun h => ?_, fun h => h ▸ List.nil_prefix⟩
      have hnil : pat <+: [] ++ c :: back := h
      exact List.prefix_nil.mp (prefix_of_prefix_append_cons hc hnil)
  | cons d front ih =>
      rw [List.cons_append, List.infix_cons_iff, ih, List.infix_cons_iff, or_assoc]
      refine or_congr_left ⟨fun h => ?_, fun h => ?_⟩
      · rw [← List.cons_append] at h
        exact prefix_of_prefix_append_cons hc h
      · exact h.trans (List.prefix_append (d :: front) (c :: back))

/-- What has none of a character does not begin with it. -/
theorem infix_of_infix_cons (hc : c ∉ pat) (hne : pat ≠ []) (h : pat <:+: c :: back) :
    pat <:+: back := by
  have hnil : pat <:+: [] ++ c :: back := h
  rcases (infix_append_cons_iff hc).mp hnil with hoccurs | hoccurs
  · exact absurd (List.infix_nil.mp hoccurs) hne
  · exact hoccurs

/-- What ends with a character that does not stand at the back occurs before it. -/
theorem infix_of_infix_append (hc : c ∉ back) (h : pat ++ [c] <:+: front ++ back) :
    pat ++ [c] <:+: front := by
  rcases List.infix_append_iff.mp h with hfront | hback | ⟨left, right, heq, hleft, hright⟩
  · exact hfront
  · exact absurd (hback.subset (List.mem_append_right pat List.mem_cons_self)) hc
  · rcases List.eq_nil_or_concat right with rfl | ⟨init, last, rfl⟩
    · rw [heq, List.append_nil]
      exact hleft.isInfix
    · rw [List.concat_eq_append, ← List.append_assoc] at heq
      have hlast : c = last := by simpa using (List.append_inj' heq rfl).2
      have hmem : last ∈ init.concat last := by simp
      exact absurd (hlast ▸ hright.subset hmem) hc

end Separators

/-! ## Replacements -/

section Replacements

variable {pat front back : List Char} (new : List Char)

/-- Whether no occurrence begins in the front part of a text. -/
def Absent (pat front back : List Char) : Prop :=
  ∀ rest, rest <:+ front → rest ≠ [] → ¬ pat <+: rest ++ back

theorem Absent.of_cons {c : Char} (h : Absent pat (c :: front) back) : Absent pat front back :=
  fun rest hrest => h rest (hrest.trans (List.suffix_cons c front))

theorem Absent.cons {c : Char} (hc : ¬ pat <+: c :: front ++ back) (h : Absent pat front back) :
    Absent pat (c :: front) back := by
  intro rest hrest hne
  rcases List.suffix_cons_iff.mp hrest with rfl | hrest
  · exact hc
  · exact h rest hrest hne

/-- No occurrence begins in what has none of its first character. -/
theorem absent_of_not_mem {c : Char} (hc : c ∉ front) : Absent (c :: pat) front back := by
  intro rest hrest hne hbegins
  cases rest with
  | nil => exact hne rfl
  | cons d rest =>
      have hcd : c = d := (List.cons_prefix_cons.mp hbegins).1
      exact hc (hrest.subset (hcd ▸ List.mem_cons_self))

/-- A replacement leaves alone what no occurrence begins in. -/
theorem replaceFrom_append_of_absent (h : Absent pat front back) :
    replaceFrom pat new 0 (front ++ back) = front ++ replaceFrom pat new 0 back := by
  induction front with
  | nil => rfl
  | cons c front ih =>
      have hnot : pat.isPrefixOf (c :: (front ++ back)) = false := by
        rw [Bool.eq_false_iff, ne_eq, List.isPrefixOf_iff_prefix]
        exact h (c :: front) (List.suffix_refl _) (List.cons_ne_nil _ _)
      rw [List.cons_append, replaceFrom, hnot]
      simp [ih h.of_cons]

section Openings

variable {opening : List Char} {c : Char}

/-- No occurrence begins before a separator if what occurrences begin with does not occur there. -/
theorem absent_of_separator (hopening : opening <+: pat) (hc : c ∉ opening)
    (hfront : ¬ opening <:+: front) : Absent pat front (c :: back) := by
  intro rest hrest _ hpat
  have hbegins : opening <+: rest := prefix_of_prefix_append_cons hc (hopening.trans hpat)
  exact hfront (hbegins.isInfix.trans hrest.isInfix)

/-- A replacement leaves alone everything up to a separator if what occurrences begin with does not
occur before it. -/
theorem replaceFrom_separator (hopening : opening <+: pat) (hc : c ∉ opening)
    (hfront : ¬ opening <:+: front) :
    replaceFrom pat new 0 (front ++ c :: back) = front ++ c :: replaceFrom pat new 0 back := by
  have hself : Absent pat [c] back := by
    refine Absent.cons (fun hpat => ?_) (by simp [Absent])
    have hnil : opening <+: [] ++ c :: back := hopening.trans hpat
    have hbegins : opening <+: [] := prefix_of_prefix_append_cons hc hnil
    exact hfront (hbegins.isInfix.trans List.nil_infix)
  rw [replaceFrom_append_of_absent new (absent_of_separator hopening hc hfront)]
  exact congrArg (front ++ ·) (replaceFrom_append_of_absent new hself)

end Openings

theorem replaceFrom_length (skipped : List Char) :
    replaceFrom pat new skipped.length (skipped ++ back) = replaceFrom pat new 0 back := by
  induction skipped with
  | nil => rfl
  | cons c skipped ih => rw [List.length_cons, List.cons_append, replaceFrom, ih]

/-- A replacement puts the new text in the place of an occurrence. -/
theorem replaceFrom_occurrence (hpat : pat ≠ []) :
    replaceFrom pat new 0 (pat ++ back) = new ++ replaceFrom pat new 0 back := by
  cases pat with
  | nil => exact absurd rfl hpat
  | cons c pat =>
      have hbegins : (c :: pat).isPrefixOf (c :: (pat ++ back)) = true :=
        List.isPrefixOf_iff_prefix.mpr (List.prefix_append _ _)
      rw [List.cons_append, replaceFrom, if_pos hbegins, List.length_cons, Nat.add_sub_cancel,
        replaceFrom_length]

/-- A replacement changes nothing but the one occurrence that there is. -/
theorem replaceFrom_single (hpat : pat ≠ []) (hfront : Absent pat front (pat ++ back))
    (hback : Absent pat back []) :
    replaceFrom pat new 0 (front ++ (pat ++ back)) = front ++ (new ++ back) := by
  have hrest : replaceFrom pat new 0 back = back := by
    have hnil := replaceFrom_append_of_absent new hback
    simpa [replaceFrom] using hnil
  rw [replaceFrom_append_of_absent new hfront, replaceFrom_occurrence new hpat, hrest]

end Replacements

end LayerNet.Text
