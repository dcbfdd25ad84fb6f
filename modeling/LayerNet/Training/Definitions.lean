import LayerNet.Text.CodePoints
import LayerNet.Text.Search

/-!
# Source texts of layer classes

The source text of a layer class may hold blocks that are not meant for the training script.  A
block begins with a mark and runs to its end mark, or to the end of the text if there is none.
The end mark begins like the mark of a beginning; where it stands outside a block it is an
ordinary part of the text.

Main definitions:

- `withoutBlocks`: a source text without such blocks.
- `collectDefinitions`: the source texts that go into a training script, each once.
- `length_of_breakBlock`: what is left after the beginning of a block is shorter.
-/

namespace LayerNet

/-! ## Blocks -/

/-- The mark at the beginning of a block. -/
def blockStart : String :=
  "# kgraph-ignore"

/-- What an end mark has behind the mark of a beginning. -/
def blockEndTail : String :=
  "-end"

/-- The mark at the end of a block. -/
def blockEnd : String :=
  blockStart ++ blockEndTail

/-- The characters before and after the first mark of a beginning; end marks are passed over. -/
def breakBlock (cs : List Char) : Option (List Char × List Char) :=
  match _hstart : Text.breakOn blockStart.toList cs with
  | none => none
  | some (before, after) =>
    match _hend : Text.dropFront? blockEndTail.toList after with
    | none => some (before, after)
    | some after =>
      (breakBlock after).map fun parts => (before ++ blockEnd.toList ++ parts.1, parts.2)
termination_by cs.length
decreasing_by
  have h₁ := Text.length_of_breakOn _hstart
  have h₂ := Text.length_of_dropFront? _hend
  have h₃ : 0 < blockStart.toList.length := by decide
  omega

/-- What follows the beginning of a block is shorter than the whole. -/
theorem length_of_breakBlock {cs before after : List Char}
    (h : breakBlock cs = some (before, after)) : after.length < cs.length := by
  have pos : 0 < blockStart.toList.length := by decide
  fun_induction breakBlock cs generalizing before with
  | case1 => simp at h
  | case2 cs b a hstart =>
    simp only [Option.some.injEq, Prod.mk.injEq] at h
    obtain ⟨rfl, rfl⟩ := h
    have := Text.length_of_breakOn hstart
    omega
  | case3 cs b a hstart rest hend ih =>
    simp only [Option.map_eq_some_iff, Prod.mk.injEq] at h
    obtain ⟨⟨b', a'⟩, hb, rfl, rfl⟩ := h
    have h₁ := Text.length_of_breakOn hstart
    have h₂ := Text.length_of_dropFront? hend
    have h₃ := ih hb
    omega

/-- The characters without blocks. -/
def withoutBlocksChars (cs : List Char) : List Char :=
  match _hblock : breakBlock cs with
  | none => cs
  | some (before, after) =>
    match _hend : Text.breakOn blockEnd.toList after with
    | none => before
    | some (_, rest) => before ++ withoutBlocksChars rest
termination_by cs.length
decreasing_by
  have h₁ := length_of_breakBlock _hblock
  have h₂ := Text.length_of_breakOn _hend
  omega

/-- A source text without blocks. -/
def withoutBlocks (definition : String) : String :=
  String.ofList (withoutBlocksChars definition.toList)

/-! ## Collections -/

/-- The source texts without blocks, those that are blank left out, and each kept where it stands
first. -/
def collectDefinitions (definitions : List String) : List String :=
  ((definitions.map withoutBlocks).filter fun text => !Text.isBlankText text).eraseDups

end LayerNet
