import Mathlib.Data.List.Nodup

/-!
# Lists without repetitions

What is needed of places in lists without repetitions, and of lists whose repetitions were erased.

Main results:

- `erasing_induction`: the recursion of erasing repetitions.
- `idxOf?_eq_some_of_getElem?`: an element is found where it stands.
- `nodup_eraseDups`, `eraseDups_eq_self_of_nodup`: no repetition is left, and nothing else is lost.
- `eraseDups_prefix_append`: more elements leave what was kept in front.
- `pairwise_idxOf_eraseDups`: what is kept keeps the order in which it stood first.
- `eraseDups_map`: a function that keeps elements apart may be applied before or after.
-/

namespace LayerNet

variable {α β : Type} [BEq α]

/-- Induction along the erasing of repetitions, which goes on with what differs from the head. -/
theorem erasing_induction {P : List α → Prop} (nil : P [])
    (cons : ∀ x xs, P (xs.filter fun y => !y == x) → P (x :: xs)) (xs : List α) : P xs := by
  induction hlength : xs.length using Nat.strongRecOn generalizing xs with
  | ind length ih =>
      cases xs with
      | nil => exact nil
      | cons x xs =>
          have hlt : (xs.filter fun y => !y == x).length < length := by
            rw [← hlength, List.length_cons]
            exact Nat.lt_succ_of_le (List.length_filter_le _ xs)
          exact cons x xs (ih _ hlt _ rfl)

theorem eraseDups_sublist (xs : List α) : xs.eraseDups.Sublist xs := by
  induction xs using erasing_induction with
  | nil => exact List.Sublist.refl _
  | cons x xs ih =>
      rw [List.eraseDups_cons]
      exact (ih.trans List.filter_sublist).cons_cons x

variable [LawfulBEq α] [BEq β] [LawfulBEq β]

theorem idxOf?_eq_some_of_getElem? {xs : List α} (hnodup : xs.Nodup) {i : Nat} {x : α}
    (hi : xs[i]? = some x) : xs.idxOf? x = some i := by
  rcases List.getElem?_eq_some_iff.mp hi with ⟨hlt, hx⟩
  refine List.idxOf?_eq_some_iff.mpr ⟨hlt, hx, fun j hj heq => ?_⟩
  have hij : j = i := (hnodup.getElem_inj_iff).mp (heq.trans hx.symm)
  omega

theorem nodup_eraseDups (xs : List α) : xs.eraseDups.Nodup := by
  induction xs using erasing_induction with
  | nil => exact List.nodup_nil
  | cons x xs ih =>
      have hnot : x ∉ (xs.filter fun y => !y == x).eraseDups := by
        rw [List.mem_eraseDups, List.mem_filter]
        simp
      rw [List.eraseDups_cons]
      exact List.nodup_cons.mpr ⟨hnot, ih⟩

theorem eraseDups_eq_self_of_nodup {xs : List α} (h : xs.Nodup) : xs.eraseDups = xs := by
  induction xs with
  | nil => rfl
  | cons x xs ih =>
      rw [List.nodup_cons] at h
      have hfilter : (xs.filter fun y => !y == x) = xs := by
        refine List.filter_eq_self.mpr fun y hy => ?_
        have hne : y ≠ x := fun heq => h.1 (heq ▸ hy)
        simpa using hne
      rw [List.eraseDups_cons, hfilter, ih h.2]

/-- More elements only put more behind those that are kept. -/
theorem eraseDups_prefix_append (xs ys : List α) : xs.eraseDups <+: (xs ++ ys).eraseDups := by
  rw [List.eraseDups_append]
  exact List.prefix_append _ _

/-- Elements of a selection stand first in the order in which they stand first in the selection. -/
theorem idxOf_lt_of_idxOf_filter_lt {p : α → Bool} {xs : List α} {x y : α} (hx : p x = true)
    (hy : p y = true) (h : (xs.filter p).idxOf x < (xs.filter p).idxOf y) :
    xs.idxOf x < xs.idxOf y := by
  induction xs with
  | nil => exact h
  | cons z xs ih =>
      rw [List.filter_cons] at h
      rw [List.idxOf_cons, List.idxOf_cons]
      split at h <;> rename_i hz
      · rw [List.idxOf_cons, List.idxOf_cons] at h
        cases hzx : z == x <;> cases hzy : z == y <;> simp_all
      · have hzx : (z == x) = false := beq_false_of_ne fun heq => hz (heq ▸ hx)
        have hzy : (z == y) = false := beq_false_of_ne fun heq => hz (heq ▸ hy)
        simpa [hzx, hzy] using ih h

/-- First occurrences stay in their order. -/
theorem pairwise_idxOf_eraseDups (xs : List α) :
    xs.eraseDups.Pairwise fun x y => xs.idxOf x < xs.idxOf y := by
  induction xs using erasing_induction with
  | nil => exact List.Pairwise.nil
  | cons x xs ih =>
      let others := xs.filter fun y => !y == x
      have hother : ∀ y ∈ others.eraseDups, (!y == x) = true := fun y hy =>
        (List.mem_filter.mp (List.mem_eraseDups.mp hy)).2
      have hidx : ∀ y ∈ others.eraseDups, (x :: xs).idxOf y = xs.idxOf y + 1 := by
        intro y hy
        have hne : y ≠ x := by simpa using hother y hy
        rw [List.idxOf_cons, beq_false_of_ne hne.symm]
        rfl
      rw [List.eraseDups_cons, List.pairwise_cons]
      constructor
      · intro y hy
        rw [List.idxOf_cons_self, hidx y hy]
        exact Nat.succ_pos _
      · refine ih.imp_of_mem fun {y z} hy hz hlt => ?_
        rw [hidx y hy, hidx z hz]
        exact Nat.succ_lt_succ
          (@idxOf_lt_of_idxOf_filter_lt _ _ _ _ xs y z (hother y hy) (hother z hz) hlt)

/-- An injective map commutes with leaving out repetitions. -/
theorem eraseDups_map {f : α → β} (xs : List α)
    (hf : ∀ x ∈ xs, ∀ y ∈ xs, f x = f y → x = y) : (xs.map f).eraseDups = xs.eraseDups.map f := by
  induction xs using erasing_induction with
  | nil => rfl
  | cons x xs ih =>
      have hfilter : (xs.map f).filter (fun b => !b == f x) =
          (xs.filter fun y => !y == x).map f := by
        rw [List.filter_map]
        congr 1
        apply List.filter_congr
        intro y hy
        have hiff : f y = f x ↔ y = x :=
          ⟨hf y (List.mem_cons_of_mem x hy) x List.mem_cons_self, congrArg f⟩
        rw [Function.comp_apply, Bool.eq_iff_iff]
        simp [hiff]
      have hrest : ∀ y ∈ xs.filter (fun y => !y == x), y ∈ x :: xs := by
        intro y hy
        exact List.mem_cons_of_mem x (List.mem_of_mem_filter hy)
      rw [List.map_cons, List.eraseDups_cons, List.eraseDups_cons, List.map_cons, hfilter]
      rw [ih fun y hy z hz => hf y (hrest y hy) z (hrest z hz)]

end LayerNet
