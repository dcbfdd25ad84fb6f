/-!
# Counting what is left

Measures of what is left to do count the elements of a list that still have some property.
-/

namespace LayerNet

/-- Fewer elements satisfy a stronger condition if one that the weaker one holds of is lost. -/
theorem countP_lt_of_lost {α : Type} {p q : α → Bool} {xs : List α} {x : α} (hx : x ∈ xs)
    (hpq : ∀ y, p y = true → q y = true) (hp : p x = false) (hq : q x = true) :
    xs.countP p < xs.countP q := by
  induction xs with
  | nil => simp at hx
  | cons y ys ih =>
    have le : ys.countP p ≤ ys.countP q := List.countP_mono_left fun z _ => hpq z
    by_cases h : x = y
    · subst h
      rw [List.countP_cons_of_neg (by simp [hp]), List.countP_cons_of_pos hq]
      omega
    · have lt := ih ((List.mem_cons.1 hx).resolve_left h)
      by_cases hy : p y = true
      · rw [List.countP_cons_of_pos hy, List.countP_cons_of_pos (hpq y hy)]
        omega
      · rw [List.countP_cons_of_neg hy, List.countP_cons]
        exact Nat.lt_of_lt_of_le lt (Nat.le_add_right _ _)

end LayerNet
