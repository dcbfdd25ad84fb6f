import LayerNet.Text.Lines

/-!
# Pieces of a text

A text with a separator in it is cut there, so that texts without the separator are got back after
they were joined by it.

Main results:

- `splitAtChar_append`: the pieces on both sides of a separator.
- `splitAtChar_intercalate`: the pieces of joined texts.
- `not_mem_toList_intercalate`: the characters of joined texts.
-/

namespace LayerNet.Text

theorem splitAtChar_go_append (sep : Char) (pending front back : List Char) :
    splitAtChar.go sep pending (front ++ sep :: back) =
      splitAtChar.go sep pending front ++ splitAtChar.go sep [] back := by
  induction front generalizing pending with
  | nil => simp [splitAtChar.go]
  | cons c front ih =>
      rw [List.cons_append, splitAtChar.go, splitAtChar.go]
      split
      · rw [ih, List.cons_append]
      · rw [ih]

theorem splitAtChar_go_of_not_mem {sep : Char} {cs : List Char} (h : sep ∉ cs)
    (pending : List Char) :
    splitAtChar.go sep pending cs = [String.ofList (pending.reverse ++ cs)] := by
  induction cs generalizing pending with
  | nil => simp [splitAtChar.go]
  | cons c cs ih =>
      rw [List.mem_cons, not_or] at h
      rcases h with ⟨hne, hrest⟩
      rw [splitAtChar.go, if_neg (Ne.symm hne), ih hrest, List.reverse_cons, List.append_assoc]
      rfl

section Separators

variable {sep : Char} {mark : String}

/-- A text is cut at every separator. -/
theorem splitAtChar_append (hmark : mark.toList = [sep]) (front back : String) :
    splitAtChar sep (front ++ mark ++ back) = splitAtChar sep front ++ splitAtChar sep back := by
  have hchars : (front ++ mark ++ back).toList = front.toList ++ sep :: back.toList := by
    simp [hmark]
  rw [splitAtChar, hchars, splitAtChar_go_append, splitAtChar, splitAtChar]

/-- A text without the separator is one piece. -/
theorem splitAtChar_of_not_mem {piece : String} (h : sep ∉ piece.toList) :
    splitAtChar sep piece = [piece] := by
  rw [splitAtChar, splitAtChar_go_of_not_mem h, List.reverse_nil, List.nil_append,
    String.ofList_toList]

/-- Texts without the separator are the pieces of what they are joined to. -/
theorem splitAtChar_intercalate (hmark : mark.toList = [sep]) {pieces : List String}
    (hne : pieces ≠ []) (h : ∀ piece ∈ pieces, sep ∉ piece.toList) :
    splitAtChar sep (mark.intercalate pieces) = pieces := by
  induction pieces with
  | nil => exact absurd rfl hne
  | cons piece pieces ih =>
      have hfirst := splitAtChar_of_not_mem (h piece List.mem_cons_self)
      cases pieces with
      | nil => rw [String.intercalate_singleton, hfirst]
      | cons next pieces =>
          rw [String.intercalate_cons_cons, splitAtChar_append hmark, hfirst,
            ih (List.cons_ne_nil _ _) fun later hlater => h later (List.mem_cons_of_mem _ hlater),
            List.singleton_append]

/-- Joined texts have the characters of the texts and of the mark between them, and no others. -/
theorem not_mem_toList_intercalate {c : Char} (hmark : c ∉ mark.toList) {pieces : List String}
    (h : ∀ piece ∈ pieces, c ∉ piece.toList) : c ∉ (mark.intercalate pieces).toList := by
  induction pieces with
  | nil => simp
  | cons piece pieces ih =>
      rcases List.forall_mem_cons.mp h with ⟨hpiece, hpieces⟩
      cases pieces with
      | nil => simpa using hpiece
      | cons next pieces =>
          rw [String.intercalate_cons_cons, String.toList_append, String.toList_append,
            List.mem_append, List.mem_append]
          rintro ((hmem | hmem) | hmem)
          · exact hpiece hmem
          · exact hmark hmem
          · exact ih hpieces hmem

end Separators
end LayerNet.Text
