import LayerNet.Proofs.Training.Blocks
import LayerNet.Proofs.Training.CustomSources

/-!
# Seams where blocks were

What is kept of a source text are the parts between its blocks, put together.  In no part does a
block begin.  Where two parts meet, one may end like the mark of a beginning and the other go on
like it, so that a block begins across the seam; nothing looks at a text again for such blocks.

Main definitions:

- `Opens`: a block begins in a text.
- `keptParts`: the parts between the blocks.
- `OpensAtSeam`: a block begins across the seam of two parts.

Main results:

- `opens_flatten_iff`: where a block begins in parts put together.
- `withoutBlocksChars_eq_self_iff`: which texts the removal of blocks leaves as they are.
- `opens_withoutBlocks_iff`: when the removal of blocks leaves one, and when a collection of source
  texts can be collected again.
-/

namespace LayerNet

open Text

namespace Blocks

/-! ## Where a block begins -/

/-- A block begins somewhere: the mark of a beginning stands there and is not an end mark. -/
def Opens (cs : List Char) : Prop :=
  ∃ front back, cs = front ++ (blockStart.toList ++ back) ∧ ¬ blockEndTail.toList <+: back

/-- An end mark has the first character of a mark only in front. -/
theorem exists_end_eq : ∃ others, blockEnd.toList = '#' :: others ∧ '#' ∉ others :=
  ⟨blockEnd.toList.tail, by decide, by decide⟩

/-- The start mark overlaps with no copy of itself, since its first character comes in it once. -/
theorem exists_start_eq : ∃ others, blockStart.toList = '#' :: others ∧ '#' ∉ others :=
  ⟨blockStart.toList.tail, by decide, by decide⟩

/-- Behind characters of which there is none in `pre`, nothing of `pre` is left. -/
theorem exists_eq_append_of_not_mem {c : Char} {pre rest front back : List Char} (hc : c ∉ pre)
    (h : pre ++ rest = front ++ c :: back) :
    ∃ between, front = pre ++ between ∧ rest = between ++ c :: back := by
  rcases List.append_eq_append_iff.mp h with ⟨between, hfront, hrest⟩ | ⟨middle, hpre, hback⟩
  · exact ⟨between, hfront, hrest⟩
  · cases middle with
    | nil =>
        rw [List.append_nil] at hpre
        exact ⟨[], by rw [hpre, List.append_nil], hback.symm⟩
    | cons d middle =>
        rw [List.cons_append, List.cons.injEq] at hback
        refine absurd ?_ hc
        rw [hpre, hback.1]
        exact List.mem_append_right front List.mem_cons_self

theorem not_opens_nil : ¬ Opens [] := by
  rintro ⟨front, back, heq, -⟩
  have hstart := (List.append_eq_nil_iff.mp (List.append_eq_nil_iff.mp heq.symm).2).1
  exact start_ne_nil hstart

theorem opens_start_append {rest : List Char} (h : ¬ blockEndTail.toList <+: rest) :
    Opens (blockStart.toList ++ rest) :=
  ⟨[], rest, rfl, h⟩

theorem Opens.append {cs : List Char} (h : Opens cs) (pre : List Char) : Opens (pre ++ cs) := by
  rcases h with ⟨front, back, rfl, htail⟩
  exact ⟨pre ++ front, back, (List.append_assoc _ _ _).symm, htail⟩

/-- An end mark does not open a block. -/
theorem opens_end_append_iff {rest : List Char} :
    Opens (blockEnd.toList ++ rest) ↔ Opens rest := by
  constructor
  · rintro ⟨front, back, heq, htail⟩
    cases front with
    | nil =>
        rw [List.nil_append, end_append, List.append_cancel_left_eq] at heq
        exact absurd ⟨rest, heq⟩ htail
    | cons c front =>
        rcases exists_end_eq with ⟨others, hend, hothers⟩
        rcases exists_start_eq with ⟨letters, hstart, -⟩
        rw [hend, List.cons_append, List.cons_append, List.cons.injEq] at heq
        have hrest : others ++ rest = front ++ '#' :: (letters ++ back) := by
          rw [heq.2, hstart, List.cons_append]
        rcases exists_eq_append_of_not_mem hothers hrest with ⟨between, -, hbetween⟩
        exact ⟨between, back, by rw [hbetween, hstart, List.cons_append], htail⟩
  · exact fun h => h.append _

theorem opens_cons_iff {c : Char} {cs : List Char} (h : ¬ blockStart.toList <+: c :: cs) :
    Opens (c :: cs) ↔ Opens cs := by
  constructor
  · rintro ⟨front, back, heq, htail⟩
    cases front with
    | nil => exact absurd ⟨back, heq.symm⟩ h
    | cons d front => exact ⟨front, back, (List.cons.inj heq).2, htail⟩
  · exact fun hopens => hopens.append [c]

/-- The search for a beginning finds one wherever a block begins. -/
theorem breakBlock_eq_none_iff {cs : List Char} : breakBlock cs = none ↔ ¬ Opens cs := by
  induction cs using marks_induction with
  | nil => exact iff_of_true breakBlock_nil not_opens_nil
  | closing rest ih => rw [breakBlock_end_append, Option.map_eq_none_iff, ih, opens_end_append_iff]
  | opening rest htail =>
      refine iff_of_false ?_ (not_not_intro (opens_start_append htail))
      rw [breakBlock_start_append htail]
      exact Option.some_ne_none _
  | other c cs hc ih => rw [breakBlock_cons hc, Option.map_eq_none_iff, ih, opens_cons_iff hc]

/-- No block begins in what precedes the first one. -/
theorem not_opens_of_breakBlock {cs before after : List Char}
    (h : breakBlock cs = some (before, after)) : ¬ Opens before := by
  have hkept : before <+: cs ∧ ¬ Opens before := by
    refine found_induction (P := fun cs before _ => before <+: cs ∧ ¬ Opens before) ?_ ?_ ?_ h
    · intro rest _
      exact ⟨List.nil_prefix, not_opens_nil⟩
    · rintro rest before after ⟨hbegins, hopens⟩
      rw [List.prefix_append_right_inj, opens_end_append_iff]
      exact ⟨hbegins, hopens⟩
    · rintro c cs before after hc ⟨hbegins, hopens⟩
      have hcons : c :: before <+: c :: cs := List.cons_prefix_cons.mpr ⟨rfl, hbegins⟩
      rw [opens_cons_iff fun hstart => hc (hstart.trans hcons)]
      exact ⟨hcons, hopens⟩
  exact hkept.2

/-! ## Parts between blocks -/

/-- The parts of a text between its blocks, from left to right. -/
def keptParts (cs : List Char) : List (List Char) :=
  match _hblock : breakBlock cs with
  | none => [cs]
  | some (before, after) =>
    match _hend : breakOn blockEnd.toList after with
    | none => [before]
    | some (_, rest) => before :: keptParts rest
termination_by cs.length
decreasing_by
  have hafter := length_of_breakBlock _hblock
  have hrest := length_of_breakOn _hend
  omega

/-- The parts that the scan keeps, one before each block and one behind the last. -/
theorem keptParts_eq (cs : List Char) :
    keptParts cs =
      (breakBlock cs).elim [cs] fun parts =>
        parts.1 :: (breakOn blockEnd.toList parts.2).elim [] fun behind => keptParts behind.2 := by
  rw [keptParts]
  split <;> rename_i hblock
  · rw [hblock, Option.elim_none]
  · rw [hblock, Option.elim_some]
    split <;> rename_i hend <;> simp only [hend, Option.elim_none, Option.elim_some]

/-- What is kept are the parts, put together. -/
theorem flatten_keptParts (cs : List Char) : (keptParts cs).flatten = withoutBlocksChars cs := by
  induction cs using blocks_induction with
  | absent cs hblock =>
      rw [keptParts_eq, hblock, withoutBlocksChars_of_absent hblock]
      exact List.flatten_singleton
  | unclosed cs before after hblock hend =>
      rw [keptParts_eq, hblock, Option.elim_some, hend, withoutBlocksChars_of_unclosed hblock hend]
      exact List.flatten_singleton
  | closed cs before after block next hblock hend ih =>
      rw [keptParts_eq, hblock, Option.elim_some, hend, withoutBlocksChars_of_closed hblock hend,
        ← ih]
      exact List.flatten_cons

/-- No part that is kept opens a block: it ends where the first block of the rest begins. -/
theorem not_opens_of_mem_keptParts {cs part : List Char} (h : part ∈ keptParts cs) :
    ¬ Opens part := by
  induction cs using blocks_induction with
  | absent cs hblock =>
      rw [keptParts_eq, hblock, Option.elim_none, List.mem_singleton] at h
      exact h ▸ breakBlock_eq_none_iff.mp hblock
  | unclosed cs before after hblock hend =>
      rw [keptParts_eq, hblock, Option.elim_some, hend, Option.elim_none, List.mem_singleton] at h
      exact h ▸ not_opens_of_breakBlock hblock
  | closed cs before after block next hblock hend ih =>
      rw [keptParts_eq, hblock, Option.elim_some, hend, Option.elim_some, List.mem_cons] at h
      rcases h with rfl | hnext
      · exact not_opens_of_breakBlock hblock
      · exact ih hnext

/-! ## Seams -/

/-- What occurs in parts put together occurs in one of them, or it begins at the end of one and goes
on behind it. -/
theorem exists_of_flatten_eq {parts : List (List Char)} {front mark back : List Char}
    (hmark : mark ≠ []) (h : parts.flatten = front ++ (mark ++ back)) :
    (∃ init before after rest, parts = init ++ (before ++ (mark ++ after)) :: rest ∧
        back = after ++ rest.flatten) ∨
      ∃ init before x y rest, parts = init ++ (before ++ x) :: rest ∧ mark = x ++ y ∧ x ≠ [] ∧
        y ≠ [] ∧ rest.flatten = y ++ back := by
  induction parts generalizing front with
  | nil =>
      have hnil := (List.append_eq_nil_iff.mp (List.append_eq_nil_iff.mp h.symm).2).1
      exact absurd hnil hmark
  | cons part parts ih =>
      -- An occurrence behind the first part is one in the others.
      have hbehind (later : List Char) (hlater : parts.flatten = later ++ (mark ++ back)) :
          (∃ init before after rest,
              part :: parts = init ++ (before ++ (mark ++ after)) :: rest ∧
              back = after ++ rest.flatten) ∨
            ∃ init before x y rest, part :: parts = init ++ (before ++ x) :: rest ∧
              mark = x ++ y ∧ x ≠ [] ∧ y ≠ [] ∧ rest.flatten = y ++ back := by
        rcases ih hlater with ⟨init, before, after, rest, rfl, hback⟩ |
          ⟨init, before, x, y, rest, rfl, hcut⟩
        · exact .inl ⟨part :: init, before, after, rest, rfl, hback⟩
        · exact .inr ⟨part :: init, before, x, y, rest, rfl, hcut⟩
      rw [List.flatten_cons] at h
      rcases List.append_eq_append_iff.mp h with ⟨later, -, hlater⟩ | ⟨rear, rfl, hrear⟩
      · exact hbehind later hlater
      · rcases List.append_eq_append_iff.mp hrear with ⟨after, rfl, hback⟩ | ⟨y, hcut, hlater⟩
        · exact .inl ⟨[], front, after, parts, rfl, hback⟩
        · -- The mark is cut in two at the end of the first part; either half may be empty.
          by_cases hx : rear = []
          · subst hx
            rw [List.nil_append] at hcut
            exact hbehind [] (hcut ▸ hlater)
          · by_cases hy : y = []
            · subst hy
              rw [List.append_nil] at hcut
              refine .inl ⟨[], front, [], parts, ?_, hlater.symm⟩
              rw [hcut, List.append_nil, List.nil_append]
            · exact .inr ⟨[], front, rear, y, parts, rfl, hcut, hx, hy, hlater⟩

/-- A block begins across a seam: some part ends like the mark of a beginning, and the parts behind
it go on with the rest of the mark, but not as an end mark. -/
def OpensAtSeam (parts : List (List Char)) : Prop :=
  ∃ init before x y rest back, parts = init ++ (before ++ x) :: rest ∧
    blockStart.toList = x ++ y ∧ x ≠ [] ∧ y ≠ [] ∧ rest.flatten = y ++ back ∧
    ¬ blockEndTail.toList <+: back

/-- A mark across a seam opens a block in the glued text. -/
theorem OpensAtSeam.opens {parts : List (List Char)} (h : OpensAtSeam parts) :
    Opens parts.flatten := by
  rcases h with ⟨init, before, x, y, rest, back, rfl, hcut, -, -, hrest, htail⟩
  refine ⟨init.flatten ++ before, back, ?_, htail⟩
  rw [List.flatten_append, List.flatten_cons, hrest, hcut]
  simp only [List.append_assoc]

/-- If no block begins in the parts, one begins in all of them together only across a seam. -/
theorem opens_flatten_iff {parts : List (List Char)} (hparts : ∀ part ∈ parts, ¬ Opens part) :
    Opens parts.flatten ↔ OpensAtSeam parts := by
  constructor
  · rintro ⟨front, back, heq, htail⟩
    rcases exists_of_flatten_eq start_ne_nil heq with ⟨init, before, after, rest, rfl, rfl⟩ |
      ⟨init, before, x, y, rest, rfl, hcut, hx, hy, hrest⟩
    · have hafter : ¬ blockEndTail.toList <+: after := fun hbegins =>
        htail (hbegins.trans (List.prefix_append after _))
      exact absurd ⟨before, after, rfl, hafter⟩
        (hparts _ (List.mem_append_right init List.mem_cons_self))
    · exact ⟨init, before, x, y, rest, back, rfl, hcut, hx, hy, hrest, htail⟩
  · exact OpensAtSeam.opens

/-! ## Blocks removed again -/

theorem length_withoutBlocksChars_le (cs : List Char) :
    (withoutBlocksChars cs).length ≤ cs.length := by
  induction cs using blocks_induction with
  | absent cs hblock => rw [withoutBlocksChars_of_absent hblock]
  | unclosed cs before after hblock hend =>
      rw [withoutBlocksChars_of_unclosed hblock hend, (eq_append_of_breakBlock hblock).1,
        List.length_append]
      exact Nat.le_add_right _ _
  | closed cs before after block next hblock hend ih =>
      have hnext := length_of_breakOn hend
      rw [withoutBlocksChars_of_closed hblock hend, (eq_append_of_breakBlock hblock).1]
      simp only [List.length_append]
      omega

theorem length_behindEnd_le (cs : List Char) : (behindEnd cs).length ≤ cs.length := by
  rw [behindEnd]
  split <;> rename_i hend
  · exact Nat.zero_le _
  · have hrest := length_of_breakOn hend
    exact (length_withoutBlocksChars_le _).trans (by omega)

/-- Only texts in which no block begins are left as they are, as a block is never put back. -/
theorem withoutBlocksChars_eq_self_iff {cs : List Char} :
    withoutBlocksChars cs = cs ↔ ¬ Opens cs := by
  constructor
  · intro hself
    refine breakBlock_eq_none_iff.mp (Option.eq_none_iff_forall_ne_some.mpr ?_)
    rintro ⟨before, after⟩ hblock
    rw [withoutBlocksChars_eq, hblock, Option.elim_some] at hself
    have hkept : behindEnd after = blockStart.toList ++ after :=
      List.append_cancel_left (hself.trans (eq_append_of_breakBlock hblock).1)
    have hlength := congrArg List.length hkept
    have hle := length_behindEnd_le after
    have hpos : 0 < blockStart.toList.length := List.length_pos_of_ne_nil start_ne_nil
    rw [List.length_append] at hlength
    omega
  · exact fun h => withoutBlocksChars_of_absent (breakBlock_eq_none_iff.mpr h)

/-- A text is left as it is exactly if it opens no block. -/
theorem withoutBlocks_eq_self_iff {definition : String} :
    withoutBlocks definition = definition ↔ ¬ Opens definition.toList := by
  rw [← withoutBlocksChars_eq_self_iff, ← String.toList_inj, withoutBlocks, String.toList_ofList]

/-- The result is glued from the parts that are kept. -/
theorem toList_withoutBlocks (definition : String) :
    (withoutBlocks definition).toList = (keptParts definition.toList).flatten := by
  rw [withoutBlocks, String.toList_ofList, flatten_keptParts]

/-- Where a block begins, the text is not blank. -/
theorem exists_not_blank_of_opens {cs : List Char} (h : Opens cs) :
    ∃ c ∈ cs, isBlank c = false := by
  rcases h with ⟨front, back, rfl, -⟩
  rcases exists_start_eq with ⟨letters, hstart, -⟩
  refine ⟨'#', ?_, by decide⟩
  rw [hstart]
  exact List.mem_append_right front (List.mem_append_left back List.mem_cons_self)

/-- A collection is one of itself if no block begins in its texts: these are not blank, and each is
there once.  Otherwise a text is left out or becomes shorter. -/
theorem collectDefinitions_eq_self_iff {definitions collected : List String}
    (h : Collected definitions collected) :
    collectDefinitions collected = collected ↔ ∀ text ∈ collected, ¬ Opens text.toList := by
  constructor
  · intro hself text htext
    have hsub : (collectDefinitions collected).Sublist (collected.map withoutBlocks) :=
      (eraseDups_sublist _).trans List.filter_sublist
    rw [hself] at hsub
    have hmap : collected.map withoutBlocks = collected.map id := by
      rw [List.map_id, ← hsub.eq_of_length (List.length_map _).symm]
    exact withoutBlocks_eq_self_iff.mp (List.map_inj_left.mp hmap text htext)
  · intro hclosed
    have hmap : collected.map withoutBlocks = collected := by
      rw [List.map_congr_left fun text htext => withoutBlocks_eq_self_iff.mpr (hclosed text htext),
        List.map_id']
    have hfilter : (collected.filter fun text => !isBlankText text) = collected := by
      refine List.filter_eq_self.mpr fun text htext => ?_
      rw [Bool.not_eq_true', isBlankText_eq_false_iff]
      exact ((h.mem_iff text).mp htext).2
    rw [collectDefinitions, hmap, hfilter, eraseDups_eq_self_of_nodup h.nodup]

/-- No block begins in any of the parts that are kept of a source text, and one begins in all of
them together only across a seam.  Just then a second removal changes the text, and a second
collection the texts of a collection. -/
theorem opens_withoutBlocks_iff (definition : String) (definitions : List String) :
    (withoutBlocks definition).toList = (keptParts definition.toList).flatten ∧
      (∀ part ∈ keptParts definition.toList, ¬ Opens part) ∧
      (Opens (withoutBlocks definition).toList ↔ OpensAtSeam (keptParts definition.toList)) ∧
      (withoutBlocks (withoutBlocks definition) = withoutBlocks definition ↔
        ¬ OpensAtSeam (keptParts definition.toList)) ∧
      (collectDefinitions (collectDefinitions definitions) = collectDefinitions definitions ↔
        ∀ other ∈ definitions, ¬ OpensAtSeam (keptParts other.toList)) := by
  have hopens (text : String) :
      Opens (withoutBlocks text).toList ↔ OpensAtSeam (keptParts text.toList) := by
    rw [toList_withoutBlocks]
    exact opens_flatten_iff fun _ hpart => not_opens_of_mem_keptParts hpart
  refine ⟨toList_withoutBlocks definition, fun _ hpart => not_opens_of_mem_keptParts hpart,
    hopens definition, ?_, ?_⟩
  · rw [withoutBlocks_eq_self_iff, hopens]
  · have hcollected := collected_collectDefinitions definitions
    rw [collectDefinitions_eq_self_iff hcollected]
    constructor
    · intro hclosed other hother hseam
      have hopen := (hopens other).mpr hseam
      exact hclosed _ ((hcollected.mem_iff _).mpr
        ⟨⟨other, hother, rfl⟩, exists_not_blank_of_opens hopen⟩) hopen
    · intro hclosed text htext
      rcases ((hcollected.mem_iff text).mp htext).1 with ⟨other, hother, rfl⟩
      exact fun hopen => hclosed other hother ((hopens other).mp hopen)

/-- Here the parts `# kgraph` and `-ignore` on the two sides of a block make up the mark of a
beginning. -/
theorem opens_across_block :
    let definition := "# kgraph# kgraph-ignore\n# kgraph-ignore-end-ignore"
    Opens (withoutBlocks definition).toList ∧
      withoutBlocks (withoutBlocks definition) ≠ withoutBlocks definition ∧
      collectDefinitions (collectDefinitions [definition]) ≠ collectDefinitions [definition] := by
  intro definition
  have hopens : Opens (withoutBlocks definition).toList := by
    have hblock : breakBlock definition.toList =
        some ("# kgraph".toList, "\n# kgraph-ignore-end-ignore".toList) :=
      breakBlock_of_start (by decide +kernel) (by decide +kernel)
    have hend : breakOn blockEnd.toList "\n# kgraph-ignore-end-ignore".toList =
        some (['\n'], "-ignore".toList) := by decide +kernel
    have hrest : breakBlock "-ignore".toList = none := breakBlock_of_absent (by decide +kernel)
    rw [withoutBlocks, String.toList_ofList, withoutBlocksChars_of_closed hblock hend,
      withoutBlocksChars_of_absent hrest]
    exact ⟨[], [], by decide +kernel, by decide⟩
  have hcollected := collected_collectDefinitions [definition]
  refine ⟨hopens, fun hself => withoutBlocks_eq_self_iff.mp hself hopens, fun hself => ?_⟩
  refine (collectDefinitions_eq_self_iff hcollected).mp hself _ ?_ hopens
  exact (hcollected.mem_iff _).mpr
    ⟨⟨definition, List.mem_singleton_self _, rfl⟩, exists_not_blank_of_opens hopens⟩

end Blocks

end LayerNet
