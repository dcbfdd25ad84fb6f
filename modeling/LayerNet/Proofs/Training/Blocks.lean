import LayerNet.Proofs.Text.Search
import LayerNet.Training.Definitions

/-!
# Blocks in source texts

Blocks are removed by two searches, one for the beginning of a block, which passes over end marks,
and one for the end mark behind it.  Together they are one scan from left to right, in which each
mark and each character is looked at once.  The searches may as well be done by offsets in bytes:
all parts that are looked at begin and end between two characters.

Main definitions:

- `Scan`: one scan, and what it keeps.
- `FindsStart`, `Removes`: the searches by offsets.

Main results:

- `breakBlock_start_append`, `breakBlock_end_append`, `breakBlock_cons`: the search for a beginning,
  mark by mark and character by character.
- `marks_induction`, `found_induction`, `blocks_induction`: induction along the marks, along a
  search and along the blocks.
- `scan_iff`: what a scan keeps.
- `removes_iff`: what the searches by offsets keep.
- `scan_withoutBlocks`: both of whole texts.
-/

namespace LayerNet

open Text

namespace Blocks

/-! ## Marks -/

theorem start_ne_nil : blockStart.toList ≠ [] := by
  decide

theorem end_ne_nil : blockEnd.toList ≠ [] := by
  decide

/-- The mark that ends a block begins with the one that starts one: this is what the searches below
have to tell apart. -/
theorem end_eq : blockEnd.toList = blockStart.toList ++ blockEndTail.toList :=
  String.toList_append

theorem end_append (rest : List Char) :
    blockEnd.toList ++ rest = blockStart.toList ++ (blockEndTail.toList ++ rest) := by
  rw [end_eq, List.append_assoc]

/-- Behind a start mark, an end mark is told by its tail. -/
theorem end_prefix_iff {rest : List Char} :
    blockEnd.toList <+: blockStart.toList ++ rest ↔ blockEndTail.toList <+: rest := by
  rw [end_eq, List.prefix_append_right_inj]

/-! ## The search for a beginning -/

/-- One turn of the search: a start mark that belongs to an end mark is passed over with it. -/
theorem breakBlock_eq (cs : List Char) :
    breakBlock cs =
      (breakOn blockStart.toList cs).bind fun parts =>
        match dropFront? blockEndTail.toList parts.2 with
        | none => some parts
        | some after =>
          (breakBlock after).map fun more => (parts.1 ++ blockEnd.toList ++ more.1, more.2) := by
  rw [breakBlock]
  split <;> rename_i hstart
  · rw [hstart, Option.bind_none]
  · rw [hstart, Option.bind_some]
    split <;> rename_i hend <;> simp only [hend]

section FirstMark

variable {cs before after : List Char}

theorem breakBlock_of_absent (h : breakOn blockStart.toList cs = none) : breakBlock cs = none := by
  rw [breakBlock_eq, h, Option.bind_none]

/-- A mark that is no end mark begins a block. -/
theorem breakBlock_of_start (h : breakOn blockStart.toList cs = some (before, after))
    (hafter : ¬ blockEndTail.toList <+: after) : breakBlock cs = some (before, after) := by
  rw [breakBlock_eq, h, Option.bind_some, dropFront?_eq_none_iff.mpr hafter]

/-- Behind an end mark the search goes on. -/
theorem breakBlock_of_end
    (h : breakOn blockStart.toList cs = some (before, blockEndTail.toList ++ after)) :
    breakBlock cs =
      (breakBlock after).map fun parts => (before ++ blockEnd.toList ++ parts.1, parts.2) := by
  rw [breakBlock_eq, h, Option.bind_some, dropFront?_append]

end FirstMark

theorem breakBlock_nil : breakBlock [] = none :=
  breakBlock_of_absent (breakOn_nil start_ne_nil)

/-- A start mark in front is found at once. -/
theorem breakBlock_start_append {rest : List Char} (h : ¬ blockEndTail.toList <+: rest) :
    breakBlock (blockStart.toList ++ rest) = some ([], rest) :=
  breakBlock_of_start (breakOn_append start_ne_nil rest) h

/-- An end mark in front is no block, and the search goes on behind it. -/
theorem breakBlock_end_append (rest : List Char) :
    breakBlock (blockEnd.toList ++ rest) =
      (breakBlock rest).map fun parts => (blockEnd.toList ++ parts.1, parts.2) := by
  rw [end_append, breakBlock_of_end (breakOn_append start_ne_nil _)]
  rfl

/-- Any other character in front is passed over. -/
theorem breakBlock_cons {c : Char} {cs : List Char} (h : ¬ blockStart.toList <+: c :: cs) :
    breakBlock (c :: cs) = (breakBlock cs).map fun parts => (c :: parts.1, parts.2) := by
  rw [breakBlock_eq, breakOn_cons h, breakBlock_eq cs]
  cases breakOn blockStart.toList cs with
  | none => rfl
  | some parts =>
      simp only [Option.map_some, Option.bind_some]
      cases dropFront? blockEndTail.toList parts.2 with
      | none => rfl
      | some after =>
          simp only [Option.map_map]
          rfl

/-- Induction along the marks: an end mark, the mark of a beginning, or a character that begins
neither. -/
theorem marks_induction {P : List Char → Prop} (nil : P [])
    (closing : ∀ rest, P rest → P (blockEnd.toList ++ rest))
    (opening : ∀ rest, ¬ blockEndTail.toList <+: rest → P (blockStart.toList ++ rest))
    (other : ∀ c cs, ¬ blockStart.toList <+: c :: cs → P cs → P (c :: cs)) (cs : List Char) :
    P cs := by
  induction hlength : cs.length using Nat.strongRecOn generalizing cs with
  | ind length ih =>
      subst hlength
      by_cases hstart : blockStart.toList <+: cs
      · rcases hstart with ⟨rest, rfl⟩
        by_cases htail : blockEndTail.toList <+: rest
        · rcases htail with ⟨after, rfl⟩
          have hpos : 0 < blockStart.toList.length := List.length_pos_of_ne_nil start_ne_nil
          have hafter : P after := by
            refine ih after.length ?_ after rfl
            rw [List.length_append, List.length_append]
            omega
          rw [← end_append]
          exact closing after hafter
        · exact opening rest htail
      · cases cs with
        | nil => exact nil
        | cons c cs => exact other c cs hstart (ih cs.length (Nat.lt_succ_self _) cs rfl)

/-- Induction along a search that finds the beginning of a block: it is the first mark, or it is
behind an end mark or a character, which then precede it. -/
theorem found_induction {P : List Char → List Char → List Char → Prop}
    (opening : ∀ rest, ¬ blockEndTail.toList <+: rest → P (blockStart.toList ++ rest) [] rest)
    (closing : ∀ rest before after, P rest before after →
      P (blockEnd.toList ++ rest) (blockEnd.toList ++ before) after)
    (other : ∀ c cs before after, ¬ blockStart.toList <+: c :: cs → P cs before after →
      P (c :: cs) (c :: before) after)
    {cs before after : List Char} (h : breakBlock cs = some (before, after)) :
    P cs before after := by
  induction cs using marks_induction generalizing before with
  | nil =>
      rw [breakBlock_nil] at h
      cases h
  | closing rest ih =>
      rw [breakBlock_end_append, Option.map_eq_some_iff] at h
      rcases h with ⟨⟨kept, after⟩, hrest, hparts⟩
      cases hparts
      exact closing _ _ _ (ih hrest)
  | opening rest htail =>
      rw [breakBlock_start_append htail] at h
      cases h
      exact opening _ htail
  | other c cs hc ih =>
      rw [breakBlock_cons hc, Option.map_eq_some_iff] at h
      rcases h with ⟨⟨kept, after⟩, hrest, hparts⟩
      cases hparts
      exact other _ _ _ _ hc (ih hrest)

/-- A block that is found stands behind what precedes it. -/
theorem eq_append_of_breakBlock {cs before after : List Char}
    (h : breakBlock cs = some (before, after)) :
    cs = before ++ (blockStart.toList ++ after) ∧ ¬ blockEndTail.toList <+: after := by
  refine found_induction (P := fun cs before after =>
    cs = before ++ (blockStart.toList ++ after) ∧ ¬ blockEndTail.toList <+: after) ?_ ?_ ?_ h
  · intro rest htail
    exact ⟨rfl, htail⟩
  · rintro rest before after ⟨rfl, htail⟩
    exact ⟨(List.append_assoc _ _ _).symm, htail⟩
  · rintro c cs before after - ⟨rfl, htail⟩
    exact ⟨rfl, htail⟩

/-! ## What is kept -/

/-- What is kept of the characters from inside of a block: those behind its end mark, without
blocks. -/
def behindEnd (cs : List Char) : List Char :=
  match breakOn blockEnd.toList cs with
  | none => []
  | some (_, rest) => withoutBlocksChars rest

theorem behindEnd_nil : behindEnd [] = [] := by
  rw [behindEnd, breakOn_nil end_ne_nil]

theorem behindEnd_end_append (rest : List Char) :
    behindEnd (blockEnd.toList ++ rest) = withoutBlocksChars rest := by
  rw [behindEnd, breakOn_append end_ne_nil]

theorem behindEnd_cons {c : Char} {cs : List Char} (h : ¬ blockEnd.toList <+: c :: cs) :
    behindEnd (c :: cs) = behindEnd cs := by
  rw [behindEnd, behindEnd, breakOn_cons h]
  cases breakOn blockEnd.toList cs <;> rfl

/-- The scan keeps what stands before a block and goes on behind its end. -/
theorem withoutBlocksChars_eq (cs : List Char) :
    withoutBlocksChars cs =
      (breakBlock cs).elim cs fun parts => parts.1 ++ behindEnd parts.2 := by
  rw [withoutBlocksChars]
  split <;> rename_i hblock
  · rw [hblock, Option.elim_none]
  · rw [hblock, Option.elim_some, behindEnd]
    split <;> rename_i hend <;> simp only [hend, List.append_nil]

section FirstBlock

variable {cs before after : List Char}

theorem withoutBlocksChars_of_absent (h : breakBlock cs = none) : withoutBlocksChars cs = cs := by
  rw [withoutBlocksChars_eq, h, Option.elim_none]

/-- A block that is not ended reaches to the end of the text. -/
theorem withoutBlocksChars_of_unclosed (h : breakBlock cs = some (before, after))
    (hend : breakOn blockEnd.toList after = none) : withoutBlocksChars cs = before := by
  rw [withoutBlocksChars_eq, h, Option.elim_some, behindEnd, hend, List.append_nil]

/-- A block that is ended is left out, and the scan goes on behind it. -/
theorem withoutBlocksChars_of_closed {block next : List Char}
    (h : breakBlock cs = some (before, after))
    (hend : breakOn blockEnd.toList after = some (block, next)) :
    withoutBlocksChars cs = before ++ withoutBlocksChars next := by
  rw [withoutBlocksChars_eq, h, Option.elim_some, behindEnd, hend]

end FirstBlock

/-- Induction along the blocks: there is none, there is one without an end, or the text goes on
behind the first one. -/
theorem blocks_induction {P : List Char → Prop} (absent : ∀ cs, breakBlock cs = none → P cs)
    (unclosed : ∀ cs before after, breakBlock cs = some (before, after) →
      breakOn blockEnd.toList after = none → P cs)
    (closed : ∀ cs before after block next, breakBlock cs = some (before, after) →
      breakOn blockEnd.toList after = some (block, next) → P next → P cs) (cs : List Char) :
    P cs := by
  induction hlength : cs.length using Nat.strongRecOn generalizing cs with
  | ind length ih =>
      subst hlength
      cases hblock : breakBlock cs with
      | none => exact absent cs hblock
      | some parts =>
          rcases parts with ⟨before, after⟩
          cases hend : breakOn blockEnd.toList after with
          | none => exact unclosed cs before after hblock hend
          | some behind =>
              have hafter := length_of_breakBlock hblock
              have hnext := length_of_breakOn hend
              have hlt : behind.2.length < cs.length := by omega
              exact closed cs before after behind.1 behind.2 hblock hend (ih _ hlt behind.2 rfl)

theorem withoutBlocksChars_nil : withoutBlocksChars [] = [] :=
  withoutBlocksChars_of_absent breakBlock_nil

/-- An end mark without a block is kept. -/
theorem withoutBlocksChars_end_append (rest : List Char) :
    withoutBlocksChars (blockEnd.toList ++ rest) = blockEnd.toList ++ withoutBlocksChars rest := by
  rw [withoutBlocksChars_eq, breakBlock_end_append, withoutBlocksChars_eq rest]
  cases breakBlock rest with
  | none => rfl
  | some parts => exact List.append_assoc _ _ _

/-- A start mark begins a block. -/
theorem withoutBlocksChars_start_append {rest : List Char} (h : ¬ blockEndTail.toList <+: rest) :
    withoutBlocksChars (blockStart.toList ++ rest) = behindEnd rest := by
  rw [withoutBlocksChars_eq, breakBlock_start_append h]
  rfl

theorem withoutBlocksChars_cons {c : Char} {cs : List Char} (h : ¬ blockStart.toList <+: c :: cs) :
    withoutBlocksChars (c :: cs) = c :: withoutBlocksChars cs := by
  rw [withoutBlocksChars_eq, breakBlock_cons h, withoutBlocksChars_eq cs]
  cases breakBlock cs <;> rfl

/-! ## One scan -/

/-- Whether a scan is outside of all blocks or inside of one. -/
inductive Place where
  | outside
  | inside

/-- One scan from left to right, and what it keeps.  Outside of blocks an end mark is kept as a
whole, any other mark of a beginning leads into a block, and every other character is kept.  Inside
of a block everything is dropped; its end mark leads out again. -/
inductive Scan : Place → List Char → List Char → Prop where
  | done {place : Place} : Scan place [] []
  | stray {rest kept : List Char} (h : Scan .outside rest kept) :
      Scan .outside (blockEnd.toList ++ rest) (blockEnd.toList ++ kept)
  | opened {rest kept : List Char} (hrest : ¬ blockEndTail.toList <+: rest)
      (h : Scan .inside rest kept) : Scan .outside (blockStart.toList ++ rest) kept
  | kept {c : Char} {cs kept : List Char} (hc : ¬ blockStart.toList <+: c :: cs)
      (h : Scan .outside cs kept) : Scan .outside (c :: cs) (c :: kept)
  | closed {rest kept : List Char} (h : Scan .outside rest kept) :
      Scan .inside (blockEnd.toList ++ rest) kept
  | dropped {c : Char} {cs kept : List Char} (hc : ¬ blockEnd.toList <+: c :: cs)
      (h : Scan .inside cs kept) : Scan .inside (c :: cs) kept

/-- What the searches keep of the characters from a place on. -/
def keptFrom : Place → List Char → List Char
  | .outside => withoutBlocksChars
  | .inside => behindEnd

/-- The relation allows no other result.  The induction is on the scan, so that each of its rules
meets one equation above. -/
theorem Scan.eq_keptFrom {place : Place} {cs kept : List Char} (h : Scan place cs kept) :
    kept = keptFrom place cs := by
  induction h with
  | @done place =>
      cases place with
      | outside => exact withoutBlocksChars_nil.symm
      | inside => exact behindEnd_nil.symm
  | stray _ ih => exact ih ▸ (withoutBlocksChars_end_append _).symm
  | opened hrest _ ih => exact ih.trans (withoutBlocksChars_start_append hrest).symm
  | kept hc _ ih => exact ih ▸ (withoutBlocksChars_cons hc).symm
  | closed _ ih => exact ih.trans (behindEnd_end_append _).symm
  | dropped hc _ ih => exact ih.trans (behindEnd_cons hc).symm

/-- A scan can go on wherever it is, and every step leaves fewer characters. -/
theorem exists_scan (place : Place) (cs : List Char) : ∃ kept, Scan place cs kept := by
  induction hlength : cs.length using Nat.strongRecOn generalizing place cs with
  | ind length ih =>
      subst hlength
      have hshorter {mark rest : List Char} (hmark : mark ≠ []) (hcs : mark ++ rest = cs) :
          rest.length < cs.length := by
        have hpos : 0 < mark.length := List.length_pos_of_ne_nil hmark
        rw [← hcs, List.length_append]
        omega
      cases cs with
      | nil => exact ⟨[], .done⟩
      | cons c cs =>
          cases place with
          | inside =>
              by_cases hend : blockEnd.toList <+: c :: cs
              · rcases hend with ⟨rest, hrest⟩
                rcases ih _ (hshorter end_ne_nil hrest) .outside rest rfl with ⟨kept, hkept⟩
                exact ⟨kept, hrest ▸ .closed hkept⟩
              · rcases ih cs.length (Nat.lt_succ_self _) .inside cs rfl with ⟨kept, hkept⟩
                exact ⟨kept, .dropped hend hkept⟩
          | outside =>
              by_cases hstart : blockStart.toList <+: c :: cs
              · rcases hstart with ⟨rest, hrest⟩
                by_cases htail : blockEndTail.toList <+: rest
                · rcases htail with ⟨after, rfl⟩
                  rw [← end_append] at hrest
                  rcases ih _ (hshorter end_ne_nil hrest) .outside after rfl with ⟨kept, hkept⟩
                  rw [← hrest]
                  exact ⟨_, .stray hkept⟩
                · rcases ih _ (hshorter start_ne_nil hrest) .inside rest rfl with ⟨kept, hkept⟩
                  exact ⟨kept, hrest ▸ .opened htail hkept⟩
              · rcases ih cs.length (Nat.lt_succ_self _) .outside cs rfl with ⟨kept, hkept⟩
                exact ⟨_, .kept hstart hkept⟩

/-- A scan ends, and keeps what the searches keep. -/
theorem scan_iff {place : Place} {cs kept : List Char} :
    Scan place cs kept ↔ kept = keptFrom place cs := by
  constructor
  · exact Scan.eq_keptFrom
  · rintro rfl
    rcases exists_scan place cs with ⟨kept, hkept⟩
    exact hkept.eq_keptFrom ▸ hkept

/-! ## The search for a beginning by offsets -/

/-- The search for the beginning of a block, from an offset on: the next mark of a beginning is
looked for, and if it is an end mark, the search goes on behind it.  It relates the offset to what
is found, so that something is found only if the search ends and all its cuts are between
characters. -/
inductive FindsStart (cs : List Char) : Nat → Option Nat → Prop where
  | absent {offset : Nat} {front rest : List Char} (hrest : CutAt cs offset front rest)
      (hnone : offsetOf? blockStart.toList rest = none) : FindsStart cs offset none
  | found {offset start : Nat} {front rest before marked : List Char}
      (hrest : CutAt cs offset front rest) (hstart : offsetOf? blockStart.toList rest = some start)
      (hmarked : CutAt cs (offset + start) before marked) (hend : ¬ blockEnd.toList <+: marked) :
      FindsStart cs offset (some (offset + start))
  | passed {offset start : Nat} {front rest before marked : List Char} {result : Option Nat}
      (hrest : CutAt cs offset front rest) (hstart : offsetOf? blockStart.toList rest = some start)
      (hmarked : CutAt cs (offset + start) before marked) (hend : blockEnd.toList <+: marked)
      (h : FindsStart cs (offset + start + byteLength blockEnd.toList) result) :
      FindsStart cs offset result

/-- The offset of the beginning of the first block in `rest`, which stands at `offset`. -/
def startFrom (offset : Nat) (rest : List Char) : Option Nat :=
  (breakBlock rest).map fun parts => offset + byteLength parts.1

section FirstMark

variable {rest before after : List Char}

theorem startFrom_of_absent (offset : Nat) (h : offsetOf? blockStart.toList rest = none) :
    startFrom offset rest = none := by
  rw [startFrom, breakBlock_of_absent (Option.map_eq_none_iff.mp h), Option.map_none]

theorem startFrom_of_start (offset : Nat)
    (h : breakOn blockStart.toList rest = some (before, after))
    (hafter : ¬ blockEndTail.toList <+: after) :
    startFrom offset rest = some (offset + byteLength before) := by
  rw [startFrom, breakBlock_of_start h hafter, Option.map_some]

/-- The loop on offsets goes on behind an end mark, by as many bytes as the marks and the text
before them have. -/
theorem startFrom_of_end (offset : Nat)
    (h : breakOn blockStart.toList rest = some (before, blockEndTail.toList ++ after)) :
    startFrom offset rest =
      startFrom (offset + byteLength before + byteLength blockEnd.toList) after := by
  rw [startFrom, startFrom, breakBlock_of_end h, Option.map_map]
  congr 1
  funext parts
  simp only [Function.comp_apply, byteLength_append]
  omega

end FirstMark

/-- Whatever the loop finds, it finds by the recursion on the text behind its offset, which is cut
where a character begins. -/
theorem FindsStart.eq_startFrom {cs : List Char} {offset : Nat} {result : Option Nat}
    (h : FindsStart cs offset result) :
    ∃ front rest, CutAt cs offset front rest ∧ result = startFrom offset rest := by
  induction h with
  | absent hrest hnone => exact ⟨_, _, hrest, (startFrom_of_absent _ hnone).symm⟩
  | found hrest hstart hmarked hend =>
      rcases hrest.of_offsetOf? hstart with ⟨kept, after, hbreak, rfl, hcut⟩
      rw [(hmarked.unique hcut).2, end_prefix_iff] at hend
      exact ⟨_, _, hrest, (startFrom_of_start _ hbreak hend).symm⟩
  | passed hrest hstart hmarked hend _ ih =>
      rcases hrest.of_offsetOf? hstart with ⟨kept, after, hbreak, rfl, hcut⟩
      rw [(hmarked.unique hcut).2, end_prefix_iff] at hend
      rcases hend with ⟨next, rfl⟩
      rw [← end_append] at hcut
      rcases ih with ⟨front', rest', hrest', rfl⟩
      rw [(hrest'.unique hcut.advance).2]
      exact ⟨_, _, hrest, (startFrom_of_end _ hbreak).symm⟩

/-- The search ends, as every end mark leaves fewer characters, and finds the first block. -/
theorem findsStart_startFrom {cs front rest : List Char} {offset : Nat}
    (hrest : CutAt cs offset front rest) : FindsStart cs offset (startFrom offset rest) := by
  induction hlength : rest.length using Nat.strongRecOn generalizing offset front rest with
  | ind length ih =>
      subst hlength
      cases hstart : offsetOf? blockStart.toList rest with
      | none =>
          rw [startFrom_of_absent offset hstart]
          exact .absent hrest hstart
      | some start =>
          rcases hrest.of_offsetOf? hstart with ⟨kept, after, hbreak, hkept, hmarked⟩
          by_cases htail : blockEndTail.toList <+: after
          · rcases htail with ⟨next, rfl⟩
            rw [startFrom_of_end offset hbreak, hkept]
            rw [← end_append] at hmarked
            have hlt : next.length < rest.length := by
              have hle := length_of_breakOn hbreak
              have hpos : 0 < blockStart.toList.length := List.length_pos_of_ne_nil start_ne_nil
              rw [List.length_append] at hle
              omega
            exact .passed hrest hstart hmarked (List.prefix_append _ _)
              (ih _ hlt hmarked.advance rfl)
          · rw [startFrom_of_start offset hbreak htail, hkept]
            exact .found hrest hstart hmarked fun hend => htail (end_prefix_iff.mp hend)

theorem findsStart_zero_iff {cs : List Char} {result : Option Nat} :
    FindsStart cs 0 result ↔ result = startFrom 0 cs := by
  constructor
  · intro h
    rcases h.eq_startFrom with ⟨front, rest, hrest, rfl⟩
    rw [(hrest.unique (cutAt_zero cs)).2]
  · rintro rfl
    exact findsStart_startFrom (cutAt_zero cs)

/-! ## The removal by offsets -/

/-- The removal of blocks from `rest`, with what was kept before: what stands before a block is
kept, and after its end mark the same is done again. -/
inductive Removes : List Char → List Char → List Char → Prop where
  | done {kept rest : List Char} (hnone : FindsStart rest 0 none) : Removes kept rest (kept ++ rest)
  | unclosed {kept rest before marked front after : List Char} {start : Nat}
      (hstart : FindsStart rest 0 (some start)) (hbefore : CutAt rest start before marked)
      (hafter : CutAt rest (start + byteLength blockStart.toList) front after)
      (hend : offsetOf? blockEnd.toList after = none) : Removes kept rest (kept ++ before)
  | closed {kept rest before marked front after block next result : List Char} {start stop : Nat}
      (hstart : FindsStart rest 0 (some start)) (hbefore : CutAt rest start before marked)
      (hafter : CutAt rest (start + byteLength blockStart.toList) front after)
      (hend : offsetOf? blockEnd.toList after = some stop)
      (hnext : CutAt after (stop + byteLength blockEnd.toList) block next)
      (h : Removes (kept ++ before) next result) : Removes kept rest result

/-- The loop finds nothing exactly if the search on characters finds nothing. -/
theorem findsStart_none_iff {cs : List Char} : FindsStart cs 0 none ↔ breakBlock cs = none := by
  rw [findsStart_zero_iff, eq_comm, startFrom, Option.map_eq_none_iff]

theorem exists_block_of_findsStart {cs : List Char} {start : Nat}
    (h : FindsStart cs 0 (some start)) :
    ∃ before after, breakBlock cs = some (before, after) ∧ byteLength before = start := by
  have hfound := (findsStart_zero_iff.mp h).symm
  rw [startFrom, Option.map_eq_some_iff] at hfound
  rcases hfound with ⟨⟨before, after⟩, hblock, hstart⟩
  exact ⟨before, after, hblock, (Nat.zero_add _).symm.trans hstart⟩

/-- The first block is found at its offset, and the text may be cut before and behind its mark. -/
theorem cuts_of_breakBlock {cs before after : List Char}
    (h : breakBlock cs = some (before, after)) :
    FindsStart cs 0 (some (byteLength before)) ∧
      CutAt cs (byteLength before) before (blockStart.toList ++ after) ∧
      CutAt cs (byteLength before + byteLength blockStart.toList) (before ++ blockStart.toList)
        after := by
  have hstart : startFrom 0 cs = some (byteLength before) := by
    rw [startFrom, h, Option.map_some, Nat.zero_add]
  have hcut : CutAt cs (byteLength before) before (blockStart.toList ++ after) :=
    ⟨(eq_append_of_breakBlock h).1, rfl⟩
  exact ⟨findsStart_zero_iff.mpr hstart.symm, hcut, hcut.advance⟩

/-- The outer loop keeps what it has kept and adds what the scan keeps of the rest. -/
theorem Removes.eq_append {kept rest result : List Char} (h : Removes kept rest result) :
    result = kept ++ withoutBlocksChars rest := by
  induction h with
  | done hnone => rw [withoutBlocksChars_of_absent (findsStart_none_iff.mp hnone)]
  | unclosed hstart hbefore hafter hend =>
      rcases exists_block_of_findsStart hstart with ⟨before, after, hblock, rfl⟩
      rcases cuts_of_breakBlock hblock with ⟨-, hcut, hcut'⟩
      rw [(hafter.unique hcut').2] at hend
      rw [(hbefore.unique hcut).1,
        withoutBlocksChars_of_unclosed hblock (Option.map_eq_none_iff.mp hend)]
  | closed hstart hbefore hafter hend hnext _ ih =>
      rcases exists_block_of_findsStart hstart with ⟨before, after, hblock, rfl⟩
      rcases cuts_of_breakBlock hblock with ⟨-, hcut, hcut'⟩
      rw [(hafter.unique hcut').2] at hend hnext
      rcases (cutAt_zero after).of_offsetOf? hend with ⟨block, next, hbreak, rfl, hcutEnd⟩
      rw [Nat.zero_add] at hcutEnd
      rw [ih, (hnext.unique hcutEnd.advance).2, (hbefore.unique hcut).1, List.append_assoc,
        withoutBlocksChars_of_closed hblock hbreak]

/-- The removal ends, as every block leaves fewer characters, and all its cuts are between
characters. -/
theorem removes_withoutBlocksChars (kept rest : List Char) :
    Removes kept rest (kept ++ withoutBlocksChars rest) := by
  induction rest using blocks_induction generalizing kept with
  | absent rest hblock =>
      rw [withoutBlocksChars_of_absent hblock]
      exact .done (findsStart_none_iff.mpr hblock)
  | unclosed rest before after hblock hend =>
      rcases cuts_of_breakBlock hblock with ⟨hstart, hbefore, hafter⟩
      rw [withoutBlocksChars_of_unclosed hblock hend]
      exact .unclosed hstart hbefore hafter (Option.map_eq_none_iff.mpr hend)
  | closed rest before after block next hblock hend ih =>
      rcases cuts_of_breakBlock hblock with ⟨hstart, hbefore, hafter⟩
      have hstop : offsetOf? blockEnd.toList after = some (byteLength block) :=
        Option.map_eq_some_iff.mpr ⟨_, hend, rfl⟩
      have hcut : CutAt after (byteLength block) block (blockEnd.toList ++ next) :=
        ⟨(eq_append_of_breakOn hend).trans (List.append_assoc _ _ _), rfl⟩
      have hnext := ih (kept ++ before)
      rw [List.append_assoc, ← withoutBlocksChars_of_closed hblock hend] at hnext
      exact .closed hstart hbefore hafter hstop hcut.advance hnext

theorem removes_iff {kept rest result : List Char} :
    Removes kept rest result ↔ result = kept ++ withoutBlocksChars rest := by
  constructor
  · exact Removes.eq_append
  · rintro rfl
    exact removes_withoutBlocksChars kept rest

/-! ## Whole texts -/

/-- Without blocks a text is what one scan from left to right keeps of it.  It is also what the
searches by offsets keep, which come to an end although they can cut texts at valid positions
only. -/
theorem scan_withoutBlocks (definition : String) :
    (∀ kept, Scan .outside definition.toList kept ↔ kept = (withoutBlocks definition).toList) ∧
      (∀ result, Removes [] definition.toList result ↔
        result = (withoutBlocks definition).toList) ∧
      ∀ (s : String) (offset : Nat), (∃ front back, CutAt s.toList offset front back) ↔
        String.Pos.Raw.IsValid s ⟨offset⟩ := by
  have htext : (withoutBlocks definition).toList = withoutBlocksChars definition.toList := by
    rw [withoutBlocks, String.toList_ofList]
  rw [htext]
  exact ⟨fun _ => scan_iff, fun _ => removes_iff, fun _ _ => exists_cutAt_iff⟩

end Blocks

end LayerNet
