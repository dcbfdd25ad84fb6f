import LayerNet.Proofs.Json.Grammar

/-!
# Floats of documents

Every float that stands in a document is written as a number of the grammar: no zero stands in front
of others, and there are digits on both sides of a point.  Zero would be an exception if it were
written with an exponent of its own; but only zero itself has the coefficient zero, and it has the
exponent zero, too.

Main results:

- `Decimal.exponent_shortest_eq_zero`: what is written for a float is in order if its coefficient is
  zero.
- `isNumber_floatChars`: floats are written as numbers.
-/

namespace LayerNet

namespace Decimal

/-! ## Digits -/

/-- The digits of a number begin with a zero only if there is no other. -/
theorem head?_digits_ne {n : Nat} (h : n ≠ 0) : (digits n).head? ≠ some '0' := by
  rw [digits]
  induction n using Nat.strong_induction_on with
  | _ n ih =>
      by_cases hsmall : n < 10
      · have hdigits : ∀ d < 10, d ≠ 0 → [d.digitChar].head? ≠ some '0' := by decide
        rw [Nat.toDigits_of_lt_base hsmall]
        exact hdigits n hsmall h
      · rw [Nat.toDigits_of_base_le (by decide) (by omega),
          List.head?_append_of_ne_nil _ Nat.toDigits_ne_nil]
        exact ih (n / 10) (by omega) (by omega)

/-! ## Coefficients -/

/-- Taking off zeros at the end leaves a digit that is not zero. -/
theorem coefficient_normalized_ne (c : Nat) (e : Int) (h : c ≠ 0) :
    (normalized c e).coefficient ≠ 0 := by
  fun_induction normalized c e with
  | case1 c e hc ih => exact ih (by omega)
  | case2 c e hc => exact h

/-- Zero does not read back as a float that is larger. -/
theorem readsBack_zero {b : Binary} (hb : b.significand ≠ 0) (scale step : Int) :
    readsBack b (grid scale step) 0 = false := by
  have hunit : 0 < (grid scale step).unit :=
    Nat.mul_pos (Nat.pow_pos (by decide)) (Nat.pow_pos (by decide))
  have hbelow : b.below ≤ 2 := by
    rw [Binary.below]
    split <;> omega
  have hlow : 0 < (4 * b.significand - b.below) * (grid scale step).unit :=
    Nat.mul_pos (by omega) hunit
  rw [readsBack, Nat.zero_mul]
  split
  · rw [decide_eq_false (by omega), Bool.false_and]
  · rw [decide_eq_false (by omega), Bool.false_and]

/-- A number that is not zero is not written as zero, which does not read back as the number. -/
theorem ne_zero_of_onGrid? {tie : Tie} {b : Binary} (hb : b.significand ≠ 0) {scale step : Int}
    {c : Nat} (h : onGrid? tie b (grid scale step) = some c) : c ≠ 0 := by
  rintro rfl
  have hzero := readsBack_zero hb scale step
  rw [onGrid?] at h
  -- The point that is found is the lower of the two neighbours, as the other is not zero; it is
  -- found only if it reads back.
  split at h <;> rename_i hlow hhigh
  · dsimp only at h
    split at h
    · rw [Option.some.inj h, hzero] at hlow
      cases hlow
    · cases h
  · rw [Option.some.inj h, hzero] at hlow
    cases hlow
  · cases h
  · cases h

theorem coefficient_firstHit {tie : Tie} {b : Binary} (hb : b.significand ≠ 0) {count : Nat}
    {step : Int} {d : Decimal} (h : firstHit tie b count step = some d) : d.coefficient ≠ 0 := by
  induction count generalizing step with
  | zero => cases h
  | succ count ih =>
      rw [firstHit] at h
      split at h <;> rename_i hgrid
      · rw [← Option.some.inj h]
        exact coefficient_normalized_ne _ _ (ne_zero_of_onGrid? hb hgrid)
      · exact ih h

/-- Only zero is written with the coefficient zero, and its exponent is zero. -/
theorem exponent_shortest_eq_zero {tie : Tie} {x : Float} (h : (shortest tie x).coefficient = 0) :
    (shortest tie x).exponent = 0 := by
  rw [shortest] at h ⊢
  split at h <;> rename_i hzero
  · rw [if_pos hzero]
  · rw [if_neg hzero]
    cases hhit : firstHit tie (Binary.ofFloat x) 17 (leadingExponent (Binary.ofFloat x)) with
    | none => rfl
    | some d =>
        rw [hhit] at h
        exact absurd h (coefficient_firstHit hzero hhit)

end Decimal

namespace Json

open Decimal (Layout digits head?_digits_ne)

variable {ds : List Char} {layout : Layout} {n : Nat} {e : Int}

/-! ## Layouts -/

/-- Digits with zeros behind them, unless these are the digits of zero, do not begin with a zero. -/
theorem isWhole_digits_append {zeros : Nat} (h : n = 0 → zeros = 0) :
    IsWhole (digits n ++ List.replicate zeros '0') := by
  have hdigits := isDigits_digits n
  refine ⟨⟨List.append_ne_nil_of_left_ne_nil hdigits.1 _, ?_⟩, fun hhead => ?_⟩
  · refine List.forall_mem_append.mpr ⟨hdigits.2, fun d hd => ?_⟩
    rw [List.eq_of_mem_replicate hd]
    decide
  · by_cases hn : n = 0
    · rw [h hn, hn]
      rfl
    · rw [List.head?_append_of_ne_nil _ hdigits.1] at hhead
      exact absurd hhead (head?_digits_ne hn)

theorem isExponent_exponentChars (e : Int) : IsExponent (Layout.exponentChars e) := by
  refine Or.inr ⟨'e', if e < 0 then ['-'] else ['+'], digits e.natAbs, by decide, ?_,
    isDigits_digits _, ?_⟩
  · split <;> decide
  · rw [Layout.exponentChars]
    split <;> rfl

theorem isWhole_singleton {d : Char} (h : d.isDigit = true) : IsWhole [d] := by
  refine ⟨⟨List.cons_ne_nil _ _, fun c hc => List.mem_singleton.mp hc ▸ h⟩, fun hhead => ?_⟩
  rw [Option.some.inj hhead]

/-- Both layouts write numbers of the grammar. -/
theorem isUnsigned_scientific (hds : IsDigits ds) (e : Int) :
    IsUnsigned (Layout.scientific ds e) := by
  cases ds with
  | nil => exact absurd rfl hds.1
  | cons d rest =>
      have hwhole := isWhole_singleton (hds.2 d List.mem_cons_self)
      cases rest with
      | nil => exact ⟨[d], [], _, hwhole, Or.inl rfl, isExponent_exponentChars e, rfl⟩
      | cons d' rest =>
          have hfraction : IsDigits (d' :: rest) :=
            ⟨List.cons_ne_nil _ _, fun c hc => hds.2 c (List.mem_cons_of_mem _ hc)⟩
          exact ⟨[d], _, _, hwhole, Or.inr ⟨_, hfraction, rfl⟩, isExponent_exponentChars e, rfl⟩

/-- Digits that are cut in two parts with digits in both. -/
theorem isWhole_take {place : Nat} (hpos : 0 < place) (hplace : place < (digits n).length) :
    IsWhole ((digits n).take place) ∧ IsDigits ((digits n).drop place) := by
  have hn : n ≠ 0 := by
    rintro rfl
    exact absurd hplace (Nat.not_lt.mpr hpos)
  have hdigit := (isDigits_digits n).2
  rw [← List.take_append_drop place (digits n), List.forall_mem_append] at hdigit
  have htake : (digits n).take place ≠ [] := by
    rw [← List.length_pos_iff, List.length_take]
    omega
  have hdrop : (digits n).drop place ≠ [] := by
    rw [← List.length_pos_iff, List.length_drop]
    omega
  refine ⟨⟨⟨htake, hdigit.1⟩, fun hhead => ?_⟩, hdrop, hdigit.2⟩
  rw [← List.head?_append_of_ne_nil _ htake, List.take_append_drop] at hhead
  exact absurd hhead (head?_digits_ne hn)

/-- Zero is written with exponent zero only, since otherwise more zeros would stand before the
point. -/
theorem isUnsigned_fixed (h : n = 0 → e = 0) : IsUnsigned (layout.fixed (digits n) e) := by
  have hdigits := isDigits_digits n
  rw [Layout.fixed]
  split
  · have hfraction : IsDigits (List.replicate (-e - 1).toNat '0' ++ digits n) := by
      refine ⟨List.append_ne_nil_of_right_ne_nil _ hdigits.1,
        List.forall_mem_append.mpr ⟨fun d hd => ?_, hdigits.2⟩⟩
      rw [List.eq_of_mem_replicate hd]
      decide
    refine ⟨['0'], _, [], ⟨by decide, fun _ => rfl⟩, Or.inr ⟨_, hfraction, rfl⟩, Or.inl rfl, ?_⟩
    rw [List.append_nil]
    rfl
  · dsimp only
    split <;> rename_i hlength
    · have hwhole : IsWhole (digits n ++ List.replicate (e.toNat + 1 - (digits n).length) '0') := by
        refine isWhole_digits_append fun hn => ?_
        rw [hn, h hn]
        rfl
      have hfraction : IsFraction (if layout.keepsPoint then ['.', '0'] else []) := by
        split
        · exact Or.inr ⟨['0'], by decide, rfl⟩
        · exact Or.inl rfl
      refine ⟨_, _, [], hwhole, hfraction, Or.inl rfl, ?_⟩
      rw [List.append_nil]
    · rcases isWhole_take (Nat.succ_pos e.toNat) (Nat.not_le.mp hlength) with ⟨hwhole, hfraction⟩
      refine ⟨_, _, [], hwhole, Or.inr ⟨_, hfraction, rfl⟩, Or.inl rfl, ?_⟩
      rw [List.append_nil]

/-- Every float of a document is written as a number. -/
theorem isNumber_floatChars (x : Float) : IsNumber (floatChars x) := by
  have hzero : (Decimal.shortest Layout.document.tie x).coefficient = 0 →
      (Decimal.shortest Layout.document.tie x).exponent = 0 := Decimal.exponent_shortest_eq_zero
  rw [floatChars, Decimal.documentText, Layout.render]
  generalize Decimal.shortest Layout.document.tie x = d at hzero
  rw [Layout.ofDecimal, String.toList_ofList]
  have hunsigned : IsUnsigned (if Layout.document.positional
        (d.exponent + (digits d.coefficient).length - 1)
      then Layout.document.fixed (digits d.coefficient)
        (d.exponent + (digits d.coefficient).length - 1)
      else Layout.scientific (digits d.coefficient)
        (d.exponent + (digits d.coefficient).length - 1)) := by
    split
    · refine isUnsigned_fixed fun hcoefficient => ?_
      rw [hcoefficient, hzero hcoefficient]
      rfl
    · exact isUnsigned_scientific (isDigits_digits _) _
  split
  · exact Or.inr ⟨_, hunsigned, rfl⟩
  · exact Or.inl hunsigned

end Json

end LayerNet
