/-!
# Sets of code points

Character classes are kept as lists of closed ranges of code points.  This module holds membership
in such a list and the class of blank characters, with trimming by it.

Main definitions:

- `inRanges`: membership of a character in a list of ranges.
- `isBlank`: the property White_Space.
- `trim`: a text without the blanks at its two ends.
-/

namespace LayerNet.Text

/-! ## Membership -/

/-- Whether the code point of `c` lies in one of the closed ranges. -/
def inRanges (c : Char) (ranges : List (Nat × Nat)) : Bool :=
  ranges.any fun range => range.1 ≤ c.toNat && c.toNat ≤ range.2

/-! ## Blanks -/

/-- Ranges of the property White_Space. -/
def blankRanges : List (Nat × Nat) :=
  [(0x9, 0xD), (0x20, 0x20), (0x85, 0x85), (0xA0, 0xA0), (0x1680, 0x1680), (0x2000, 0x200A),
   (0x2028, 0x2029), (0x202F, 0x202F), (0x205F, 0x205F), (0x3000, 0x3000)]

/-- Whether a character has the property White_Space. -/
def isBlank (c : Char) : Bool :=
  inRanges c blankRanges

/-! ## Trimming -/

/-- Characters without the run of `drop` characters at the end. -/
def trimEndChars (drop : Char → Bool) : List Char → List Char
  | [] => []
  | c :: cs =>
    match trimEndChars drop cs with
    | [] => if drop c then [] else [c]
    | kept => c :: kept

/-- Characters without the runs of `drop` characters at both ends. -/
def trimChars (drop : Char → Bool) (cs : List Char) : List Char :=
  trimEndChars drop (cs.dropWhile drop)

/-- A text without the `drop` characters at its end. -/
def trimEnd (drop : Char → Bool) (s : String) : String :=
  String.ofList (trimEndChars drop s.toList)

/-- A text without the `drop` characters at its two ends. -/
def trimBoth (drop : Char → Bool) (s : String) : String :=
  String.ofList (trimChars drop s.toList)

/-- A text without the blanks at its two ends. -/
def trim (s : String) : String :=
  trimBoth isBlank s

/-- Whether a text holds blanks only. -/
def isBlankText (s : String) : Bool :=
  s.toList.all isBlank

@[simp]
theorem trimEndChars_nil (drop : Char → Bool) : trimEndChars drop [] = [] :=
  rfl

/-- What is left after trimming the end is a first part of the characters. -/
theorem trimEndChars_prefix_of (drop : Char → Bool) (cs : List Char) :
    trimEndChars drop cs <+: cs := by
  induction cs with
  | nil => exact List.prefix_refl []
  | cons c cs ih =>
    unfold trimEndChars
    split
    · split
      · exact List.nil_prefix
      · exact List.cons_prefix_cons.2 ⟨rfl, List.nil_prefix⟩
    · exact List.cons_prefix_cons.2 ⟨rfl, ih⟩

end LayerNet.Text
