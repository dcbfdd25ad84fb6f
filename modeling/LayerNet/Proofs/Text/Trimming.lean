import Mathlib.Data.List.DropRight
import LayerNet.Text.CodePoints

/-!
# Trimmed texts

What trimming leaves is the part of a text between two runs of dropped characters that neither
begins nor ends with one.  There is one such part only, so that trimming is told by it.

Main definition:

- `Trims`: what is left between two runs.

Main results:

- `trimChars_eq_iff`: trimming leaves that part.
- `trimChars_append_cons`: the two sides of a character that stays are trimmed one by one.
-/

namespace LayerNet.Text

variable {drop : Char → Bool} {c : Char} {cs front back kept : List Char}

/-! ## The end -/

/-- A character that is kept keeps those before it. -/
theorem trimEndChars_cons_of_not (h : drop c = false) (cs : List Char) :
    trimEndChars drop (c :: cs) = c :: trimEndChars drop cs := by
  rw [trimEndChars]
  split <;> rename_i hrest
  · rw [h, hrest]
    rfl
  · rfl

/-- A character that stays keeps everything before it. -/
theorem trimEndChars_append_cons (h : drop c = false) (front back : List Char) :
    trimEndChars drop (front ++ c :: back) = front ++ c :: trimEndChars drop back := by
  induction front with
  | nil => exact trimEndChars_cons_of_not h back
  | cons d front ih =>
      rw [List.cons_append, trimEndChars, ih]
      cases front <;> rfl

theorem trimEndChars_eq_nil (h : ∀ c ∈ back, drop c = true) : trimEndChars drop back = [] := by
  induction back with
  | nil => rfl
  | cons c back ih =>
      rw [trimEndChars, ih fun d hd => h d (List.mem_cons_of_mem c hd), h c List.mem_cons_self]
      rfl

/-- A run of dropped characters is all that goes if a character that stays is before it. -/
theorem trimEndChars_append (hlast : ∀ c ∈ kept.getLast?, drop c = false)
    (hback : ∀ c ∈ back, drop c = true) : trimEndChars drop (kept ++ back) = kept := by
  rcases List.eq_nil_or_concat kept with rfl | ⟨front, c, rfl⟩
  · exact trimEndChars_eq_nil hback
  · have hc : drop c = false := hlast c (by simp)
    rw [List.concat_eq_append, List.append_assoc, List.singleton_append,
      trimEndChars_append_cons hc, trimEndChars_eq_nil hback]

/-- What goes is a run of dropped characters, and the last character before it stays. -/
theorem exists_trimEndChars (drop : Char → Bool) (cs : List Char) :
    ∃ back, cs = trimEndChars drop cs ++ back ∧ (∀ c ∈ back, drop c = true) ∧
      ∀ c ∈ (trimEndChars drop cs).getLast?, drop c = false := by
  have hnone : ∀ c ∈ ([] : List Char).getLast?, drop c = false := by
    intro c hc
    cases hc
  induction cs with
  | nil => exact ⟨[], rfl, List.forall_mem_nil _, hnone⟩
  | cons c cs ih =>
      rcases ih with ⟨back, heq, hback, hlast⟩
      rw [trimEndChars]
      split <;> rename_i hrest
      · rw [hrest, List.nil_append] at heq
        subst heq
        cases hc : drop c with
        | true => exact ⟨c :: cs, rfl, List.forall_mem_cons.mpr ⟨hc, hback⟩, hnone⟩
        | false => exact ⟨cs, rfl, hback, by simp [hc]⟩
      · refine ⟨back, ?_, hback, ?_⟩
        · rw [List.cons_append, ← heq]
        · cases hkept : trimEndChars drop cs with
          | nil => exact absurd hkept hrest
          | cons d kept =>
              rw [List.getLast?_cons_cons, ← hkept]
              exact hlast

/-! ## Both ends -/

/-- What is left of a text between two runs of dropped characters, if it neither begins nor ends
with one. -/
inductive Trims (drop : Char → Bool) : List Char → List Char → Prop where
  | between {front kept back : List Char} (hfront : ∀ c ∈ front, drop c = true)
      (hback : ∀ c ∈ back, drop c = true) (hhead : ∀ c ∈ kept.head?, drop c = false)
      (hlast : ∀ c ∈ kept.getLast?, drop c = false) : Trims drop (front ++ (kept ++ back)) kept

/-- There is one way to trim. -/
theorem Trims.trimChars_eq (h : Trims drop cs kept) : trimChars drop cs = kept := by
  cases h with
  | @between front kept back hfront hback hhead hlast =>
      rw [trimChars, List.dropWhile_append_of_pos hfront]
      cases kept with
      | nil =>
          rw [List.nil_append, List.dropWhile_eq_nil_iff.mpr hback]
          rfl
      | cons c kept =>
          have hstays : ¬ drop c = true := by simp [hhead c rfl]
          rw [List.cons_append, List.dropWhile_cons_of_neg hstays]
          exact trimEndChars_append hlast hback

/-- And `trimChars` is that way. -/
theorem trims_trimChars (drop : Char → Bool) (cs : List Char) :
    Trims drop cs (trimChars drop cs) := by
  rcases exists_trimEndChars drop (cs.dropWhile drop) with ⟨back, heq, hback, hlast⟩
  have hsplit : cs = cs.takeWhile drop ++ (trimChars drop cs ++ back) := by
    rw [trimChars, ← heq, List.takeWhile_append_dropWhile]
  have hhead : ∀ c ∈ (trimChars drop cs).head?, drop c = false := by
    intro c hc
    have hfirst : (cs.dropWhile drop).head? = some c := by
      rw [heq]
      exact List.mem_head?_append_of_mem_head? hc
    have hnot := List.head?_dropWhile_not drop cs
    rw [hfirst] at hnot
    exact hnot
  have hfront : ∀ c ∈ cs.takeWhile drop, drop c = true := fun c hc => List.mem_takeWhile_imp hc
  have htrims := Trims.between hfront hback hhead hlast
  rwa [← hsplit] at htrims

theorem trimChars_infix (drop : Char → Bool) (cs : List Char) : trimChars drop cs <:+: cs := by
  have htrims := trims_trimChars drop cs
  generalize trimChars drop cs = kept at htrims
  cases htrims with
  | @between front _ back => exact List.infix_append' front kept back

/-- Trimming leaves what is between two runs of dropped characters. -/
theorem trimChars_eq_iff : trimChars drop cs = kept ↔ Trims drop cs kept :=
  ⟨fun h => h ▸ trims_trimChars drop cs, Trims.trimChars_eq⟩

/-- A run of dropped characters at the front makes no difference, and neither does one at the
end. -/
theorem Trims.append (h : Trims drop cs kept) (hfront : ∀ c ∈ front, drop c = true)
    (hback : ∀ c ∈ back, drop c = true) : Trims drop (front ++ cs ++ back) kept := by
  cases h with
  | @between front' kept back' hfront' hback' hhead hlast =>
      have heq : front ++ (front' ++ (kept ++ back')) ++ back =
          (front ++ front') ++ (kept ++ (back' ++ back)) := by
        simp only [List.append_assoc]
      rw [heq]
      exact .between (List.forall_mem_append.mpr ⟨hfront, hfront'⟩)
        (List.forall_mem_append.mpr ⟨hback', hback⟩) hhead hlast

/-- Characters to be dropped at the ends do not matter. -/
theorem trimChars_append (hfront : ∀ c ∈ front, drop c = true) (hback : ∀ c ∈ back, drop c = true)
    (cs : List Char) : trimChars drop (front ++ cs ++ back) = trimChars drop cs :=
  ((trims_trimChars drop cs).append hfront hback).trimChars_eq

theorem trimChars_dropWhile (drop : Char → Bool) (cs : List Char) :
    trimChars drop (cs.dropWhile drop) = trimChars drop cs := by
  rw [trimChars, List.dropWhile_idempotent, trimChars]

theorem trimChars_trimEndChars (drop : Char → Bool) (cs : List Char) :
    trimChars drop (trimEndChars drop cs) = trimChars drop cs := by
  rcases exists_trimEndChars drop cs with ⟨back, heq, hback, -⟩
  have happend := trimChars_append (List.forall_mem_nil _) hback (trimEndChars drop cs)
  rw [List.nil_append, ← heq] at happend
  exact happend.symm

/-- A character that stays is not touched, and neither is what is inside of it. -/
theorem trimChars_append_cons (h : drop c = false) (front back : List Char) :
    trimChars drop (front ++ c :: back) = front.dropWhile drop ++ c :: trimEndChars drop back := by
  have hstays : ¬ drop c = true := by simp [h]
  have hdrop : (front ++ c :: back).dropWhile drop = front.dropWhile drop ++ c :: back := by
    rw [List.dropWhile_append]
    split <;> rename_i hempty
    · rw [List.isEmpty_iff.mp hempty, List.dropWhile_cons_of_neg hstays]
      rfl
    · rfl
  rw [trimChars, hdrop, trimEndChars_append_cons h]

end LayerNet.Text
