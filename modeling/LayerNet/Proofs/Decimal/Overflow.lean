import Mathlib.Order.Compare
import LayerNet.Proofs.Decimal.Numerals
import LayerNet.Proofs.Decimal.Rounding

/-!
# Numerals of finite floats

A numeral is read as a finite float exactly if what it writes is small enough.  The words for
infinities and for what is no number are read, too, but never as finite floats.

Main definitions:

- `overflow`, `Fits`: the decimals that are small enough for floats.
- `IsNumber`: the texts of finite floats.

Main results:

- `isFinite_ofScientific_iff`: which products with powers of ten are small enough.
- `isFinite_nearest`: which decimals have a nearest float that is finite.
- `isFinite_float?_iff`: which texts are read as finite floats.
-/

namespace LayerNet.Decimal

open Float.Model
open Float.Model.UnpackedFloat hiding pack unpack
open Json (IsDigits IsExponent)

/-! ## Decimals -/

/-- The first number that is too large for a float: halfway between the largest float and what would
be the next one. -/
def overflow : Nat :=
  (2 ^ 54 - 1) * 2 ^ 970

/-- Whether `coefficient * 10 ^ exponent` is small enough for a float. -/
def Fits (coefficient : Nat) (exponent : Int) : Prop :=
  coefficient * 10 ^ exponent.toNat < overflow * 10 ^ (-exponent).toNat

instance (coefficient : Nat) (exponent : Int) : Decidable (Fits coefficient exponent) :=
  inferInstanceAs (Decidable (_ < _))

theorem overflow_pos : 0 < overflow := by
  decide +kernel

theorem overflow_le_pow {n : Nat} (h : 309 ≤ n) : overflow ≤ 10 ^ n := by
  have hleast : overflow ≤ 10 ^ 200 * 10 ^ 109 := by decide +kernel
  calc overflow ≤ 10 ^ 200 * 10 ^ 109 := hleast
    _ ≤ 10 ^ 200 * 10 ^ (n - 200) :=
      Nat.mul_le_mul_left _ (Nat.pow_le_pow_right (by decide) (by omega))
    _ = 10 ^ n := by rw [← pow_add, Nat.add_sub_cancel' (by omega)]

/-- The bit behind a quotient and its rest tell twice the quotient. -/
theorem halves_quotient (x : Nat) {c : Nat} (hc : 0 < c) :
    halves (.ofMantissaAndAccuracy (x / c) (accuracyOfFraction (x % c) c)) = 2 * x / c := by
  have hrest := Nat.mod_lt x hc
  have htwice : 2 * x / c = 2 * (x % c) / c + 2 * (x / c) := by
    rw [← Nat.add_mul_div_left _ _ hc]
    congr 1
    have hsplit := Nat.mod_add_div x c
    have hcomm : c * (2 * (x / c)) = 2 * (c * (x / c)) := by ring
    omega
  rw [htwice, accuracyOfFraction]
  split <;> rename_i hzero
  · rw [hzero, Nat.mul_zero, Nat.zero_div, Nat.zero_add]
    rfl
  · cases hcompare : compare (2 * (x % c)) c with
    | lt =>
        rw [Nat.div_eq_of_lt (Nat.compare_eq_lt.mp hcompare), Nat.zero_add]
        rfl
    | eq =>
        rw [Nat.compare_eq_eq.mp hcompare, Nat.div_self hc, Nat.add_comm]
        rfl
    | gt =>
        have hlarge : c < 2 * (x % c) := Nat.compare_eq_gt.mp hcompare
        have hone : 2 * (x % c) / c = 1 := Nat.div_eq_of_lt_le (by omega) (by omega)
        rw [hone, Nat.add_comm]
        rfl

theorem mul_finite {s s' : Sign} {m m' : Nat} {e e' : Int} {hm : 0 < m} {hm' : 0 < m'} :
    UnpackedFloat.mul .binary64 (.finite s m e hm) (.finite s' m' e' hm') =
      roundWithAccuracy .binary64 (s * s') (m * m') (e + e') .exact :=
  rfl

theorem div_finite {s s' : Sign} {m m' : Nat} {e e' : Int} {hm : 0 < m} {hm' : 0 < m'} :
    UnpackedFloat.div .binary64 (.finite s m e hm) (.finite s' m' e' hm') =
      roundWithAccuracy .binary64 (s / s') (divCore .binary64 m e m' e').1
        (divCore .binary64 m e m' e').2.1 (divCore .binary64 m e m' e').2.2 :=
  rfl

/-- A product is small enough for a float exactly if it is after rounding. -/
theorem within_mul_iff (s : Sign) (m c : Nat) :
    Within 971 (roundWithAccuracy .binary64 s ((m <<< 53) * c) (-53) .exact) ↔
      m * c < overflow := by
  have hhalves : halves (.ofMantissaAndAccuracy ((m <<< 53) * c) .exact) = m * c * 2 ^ 54 := by
    rw [halves, Nat.shiftLeft_eq]
    change 2 * (m * 2 ^ 53 * c) + 0 = _
    ring
  have hplaces : (971 - (-53) : Int).toNat = 970 + 54 := by decide
  rw [within_roundWithAccuracy_iff s _ _ (by decide) (by decide), hplaces, hhalves, pow_add,
    ← mul_assoc]
  exact Nat.mul_lt_mul_right (Nat.two_pow_pos 54)

/-- A quotient is small enough for a float exactly if it is after rounding. -/
theorem within_div_iff (s : Sign) (m : Nat) {c : Nat} (hc : 0 < c) :
    Within 971 (roundWithAccuracy .binary64 s
      (divCore .binary64 m 0 c 0).1 (divCore .binary64 m 0 c 0).2.1
      (divCore .binary64 m 0 c 0).2.2) ↔ m < overflow * c := by
  obtain ⟨shift, hshift⟩ : ∃ shift : Nat, divCore .binary64 m 0 c 0 =
      ((m <<< shift) / c, -(shift : Int), accuracyOfFraction ((m <<< shift) % c) c) := by
    obtain ⟨t, ht⟩ : ∃ t, t = min ((0 : Int) - 0)
      (Format.targetExponent .binary64 (totalExponent m 0 - totalExponent c 0)) := ⟨_, rfl⟩
    refine ⟨(-t).toNat, ?_⟩
    have hneg : -((-t).toNat : Int) = t := by omega
    have hsub : (0 - 0 - t : Int) = -t := by omega
    rw [divCore, ← ht, hsub, hneg]
  rw [hshift]
  dsimp only
  have hplaces : (971 - -(shift : Int)).toNat = 970 + 1 + shift := by omega
  rw [within_roundWithAccuracy_iff s _ _ (by omega) (by decide), halves_quotient _ hc,
    Nat.div_lt_iff_lt_mul hc, Nat.shiftLeft_eq, hplaces]
  have hleft : 2 * (m * 2 ^ shift) = m * 2 ^ (1 + shift) := by ring
  have hright : (2 ^ 54 - 1) * 2 ^ (970 + 1 + shift) * c = overflow * c * 2 ^ (1 + shift) := by
    rw [overflow, add_assoc, pow_add, ← mul_assoc, Nat.mul_right_comm]
  rw [hleft, hright]
  exact Nat.mul_lt_mul_right (Nat.two_pow_pos _)

/-- Whether a decimal fits, in whole numbers: one line for each sign of its exponent. -/
theorem fits_of_nonneg {m : Nat} {e : Int} (he : 0 ≤ e) :
    Fits m e ↔ m * 10 ^ e.toNat < overflow := by
  have hzero : (-e).toNat = 0 := by omega
  rw [Fits, hzero, pow_zero, mul_one]

theorem fits_of_nonpos {m : Nat} {e : Int} (he : e ≤ 0) :
    Fits m e ↔ m < overflow * 10 ^ (-e).toNat := by
  have hzero : e.toNat = 0 := by omega
  rw [Fits, hzero, pow_zero, mul_one]

/-- A number with so large an exponent is too large, whatever its coefficient. -/
theorem not_fits_of_le {m : Nat} {e : Int} (hm : 0 < m) (he : 309 ≤ e) : ¬ Fits m e := by
  rw [fits_of_nonneg (by omega), not_lt]
  exact le_trans (overflow_le_pow (by omega)) (Nat.le_mul_of_pos_left _ hm)

/-- A number with so small an exponent is small enough. -/
theorem fits_of_lt {m : Nat} {e : Int} (he : e + m.log2 < 0) : Fits m e := by
  rw [fits_of_nonpos (by omega)]
  calc m < 2 ^ (m.log2 + 1) := Nat.lt_log2_self
    _ ≤ 10 ^ (m.log2 + 1) := Nat.pow_le_pow_left (by decide) _
    _ ≤ 10 ^ (-e).toNat := Nat.pow_le_pow_right (by decide) (by omega)
    _ ≤ overflow * 10 ^ (-e).toNat := Nat.le_mul_of_pos_left _ overflow_pos

/-- The exact conversion is finite exactly below the overflow, since it rounds once. -/
theorem isFinite_ofScientific_iff (m : Nat) (e : Int) :
    (Float.Model.ofScientific m e).isFinite = true ↔ Fits m e := by
  have hbits : (2 : Int) ^ (Format.exponentBits .binary64) = 2048 := by decide
  have hmantissa : Format.mantissaBits .binary64 = 53 := by decide
  have hexponent : -((53 : Nat) : Int) + 0 = -53 := by decide
  refine (isFinite_pack_iff _).trans ?_
  rw [UnpackedFloat.ofScientific]
  by_cases hm : m = 0
  · rw [dif_pos hm]
    refine iff_of_true trivial ?_
    rw [Fits, hm, Nat.zero_mul]
    exact Nat.mul_pos overflow_pos (Nat.pow_pos (by decide))
  · have hpos : 0 < m := Nat.pos_of_ne_zero hm
    rw [dif_neg hm, hbits]
    -- Far above and far below the bound nothing is rounded; between, a product or a quotient is.
    by_cases hlarge : e > 2048
    · rw [if_pos hlarge]
      exact iff_of_false id (not_fits_of_le hpos (by omega))
    · rw [if_neg hlarge]
      by_cases hsmall : e < -(2048 + (m.log2 : Int))
      · rw [if_pos hsmall]
        exact iff_of_true trivial (fits_of_lt (by omega))
      · rw [if_neg hsmall]
        by_cases hsign : 0 ≤ e
        · rw [if_pos hsign, fits_of_nonneg hsign, mul_finite, hmantissa, hexponent]
          exact within_mul_iff _ m (10 ^ e.toNat)
        · rw [if_neg hsign, fits_of_nonpos (by omega), div_finite]
          exact within_div_iff _ m (Nat.pow_pos (by decide))

/-! ## Short decimals -/

/-- A number of at most 53 bits is read as a float without places. -/
theorem within_ofNat {n : Nat} (h : n < 2 ^ 53) : Within 0 (UnpackedFloat.ofNat .binary64 n) := by
  rw [UnpackedFloat.ofNat, UnpackedFloat.ofInt, UnpackedFloat.normalize]
  cases hcompare : compare (n : Int) 0 with
  | lt =>
      have hneg : (n : Int) < 0 := compare_lt_iff_lt.mp hcompare
      omega
  | eq => trivial
  | gt =>
      dsimp only
      rw [Int.toNat_natCast, UnpackedFloat.round, targetExponent_eq, decreaseExponent]
      dsimp only
      obtain ⟨k, hk⟩ : ∃ k, k = (0 - target n 0).toNat := ⟨_, rfl⟩
      have hplaces : (0 - (0 - (k : Int))).toNat = k := by omega
      have hhalves : halves (.ofMantissaAndAccuracy (n <<< k) .exact) = 2 * n * 2 ^ k := by
        rw [halves, Nat.shiftLeft_eq, mul_assoc]
        rfl
      rw [← hk, within_roundWithAccuracy_iff _ _ _ (by omega) (by decide), hplaces, hhalves]
      exact Nat.mul_lt_mul_of_pos_right (by omega) (Nat.two_pow_pos k)

/-- Whether an unpacked float is zero, or has no more than 53 bits and an exponent that is not
positive. -/
def IsShort : UnpackedFloat → Prop
  | .zero _ => True
  | .finite _ m e _ => m < 2 ^ 53 ∧ e ≤ 0
  | _ => False

/-- Whether an unpacked float is finite and neither very large nor very small. -/
def IsModerate : UnpackedFloat → Prop
  | .finite _ m e _ => m < 2 ^ 53 ∧ -52 ≤ e ∧ e ≤ 21
  | _ => False

instance (u : UnpackedFloat) : Decidable (IsModerate u) := by
  unfold IsModerate
  split <;> infer_instance

/-- A number of at most 53 bits stays short when it becomes a float. -/
theorem isShort_toFloat {n : Nat} (h : n < 2 ^ 53) : IsShort n.toUInt64.toFloat.toModel.unpack := by
  have hword : n.toUInt64.toNat = n := Nat.mod_eq_of_lt (lt_trans h (by decide))
  have hwithin :
      Within 0 (Float.Model.pack (UnpackedFloat.ofNat .binary64 n.toUInt64.toNat)).unpack := by
    rw [hword]
    exact within_unpack_pack (within_ofNat h) (by decide) (by decide)
  change IsShort (Float.Model.pack (UnpackedFloat.ofNat .binary64 n.toUInt64.toNat)).unpack
  cases hunpack : (Float.Model.pack (UnpackedFloat.ofNat .binary64 n.toUInt64.toNat)).unpack with
  | zero s => trivial
  | finite s m e hm =>
      rw [hunpack] at hwithin
      exact ⟨(bounds_of_unpack hunpack).1, hwithin⟩
  | _ =>
      rw [hunpack] at hwithin
      exact hwithin

/-- So are the powers of ten of the table, by evaluation. -/
theorem isModerate_powers : ∀ e, ∀ h : e < Float.exactlyRepresentablePowersOfTen.size,
    IsModerate Float.exactlyRepresentablePowersOfTen[e].toModel.unpack := by
  decide +kernel

/-- The short way cannot overflow when it multiplies: both factors are far below the bound. -/
theorem within_mul_of_isShort {u v : UnpackedFloat} (hu : IsShort u) (hv : IsModerate v) :
    Within 971 (UnpackedFloat.mul .binary64 u v) := by
  cases v with
  | finite s' m' e' hm' =>
      cases u with
      | zero s => trivial
      | finite s m e hm =>
          rcases hu with ⟨hmlt, he⟩
          rcases hv with ⟨hmlt', -, he'⟩
          rw [mul_finite, within_roundWithAccuracy_iff _ _ _ (by omega) (by decide)]
          have hhalves : halves (.ofMantissaAndAccuracy (m * m') .exact) = 2 * (m * m') := rfl
          have hproduct : m * m' < 2 ^ 53 * 2 ^ 53 := Nat.mul_lt_mul'' hmlt hmlt'
          have hroom : 2 ^ 54 ≤ 2 ^ (971 - (e + e')).toNat :=
            Nat.pow_le_pow_right (by decide) (by omega)
          rw [hhalves]
          omega
      | _ => exact hu.elim
  | _ => exact hv.elim

theorem within_div_of_isShort {u v : UnpackedFloat} (hu : IsShort u) (hv : IsModerate v) :
    Within 971 (UnpackedFloat.div .binary64 u v) := by
  cases v with
  | finite s' m' e' hm' =>
      cases u with
      | zero s => trivial
      | finite s m e hm =>
          rcases hu with ⟨hmlt, he⟩
          rcases hv with ⟨-, he', -⟩
          rw [div_finite, divCore]
          dsimp only
          obtain ⟨t, ht⟩ : ∃ t, t = min (e - e')
            (Format.targetExponent .binary64 (totalExponent m e - totalExponent m' e')) := ⟨_, rfl⟩
          obtain ⟨shift, hshift⟩ : ∃ shift, shift = (e - e' - t).toNat := ⟨_, rfl⟩
          rw [← ht, ← hshift, within_roundWithAccuracy_iff _ _ _ (by omega) (by decide),
            halves_quotient _ hm', Nat.div_lt_iff_lt_mul hm', Nat.shiftLeft_eq]
          have hroom : 2 ^ (shift + 1) ≤ 2 ^ (971 - t).toNat :=
            Nat.pow_le_pow_right (by decide) (by omega)
          have hleft : m * 2 ^ shift < 2 ^ 53 * 2 ^ shift :=
            Nat.mul_lt_mul_of_pos_right hmlt (Nat.two_pow_pos shift)
          have hright : (2 ^ 54 - 1) * 2 ^ (971 - t).toNat ≤
              (2 ^ 54 - 1) * 2 ^ (971 - t).toNat * m' :=
            Nat.le_mul_of_pos_right _ hm'
          rw [pow_succ] at hroom
          omega
      | _ => exact hu.elim
  | _ => exact hv.elim

/-- A decimal with few digits and a small exponent is small enough. -/
theorem fits_of_short {m e : Nat} (hm : m < 2 ^ 53) (he : e ≤ 22) (negative : Bool) :
    Fits m (if negative then -(e : Int) else e) := by
  have hroom : 2 ^ 53 * 10 ^ 22 ≤ overflow := by decide +kernel
  have hpower : 10 ^ e ≤ 10 ^ 22 := Nat.pow_le_pow_right (by decide) he
  cases negative with
  | true =>
      rw [if_pos rfl, fits_of_nonpos (by omega)]
      have hpos : overflow ≤ overflow * 10 ^ (- -(e : Int)).toNat :=
        Nat.le_mul_of_pos_right _ (Nat.pow_pos (by decide))
      omega
  | false =>
      rw [if_neg Bool.false_ne_true, fits_of_nonneg (by omega), Int.toNat_natCast]
      calc m * 10 ^ e < 2 ^ 53 * 10 ^ e := Nat.mul_lt_mul_of_pos_right hm (Nat.pow_pos (by decide))
        _ ≤ 2 ^ 53 * 10 ^ 22 := Nat.mul_le_mul_left _ hpower
        _ ≤ overflow := hroom

/-- So the short way is finite, as the exact conversion is there. -/
theorem isFinite_ofScientific_of_short {m e : Nat} (hm : m < 2 ^ 53) (he : e ≤ 22)
    (negative : Bool) :
    (Float.ofScientific m negative e).isFinite = true := by
  have hpower := isModerate_powers e (Nat.lt_succ_of_le he)
  have hshort := isShort_toFloat hm
  rw [Float.ofScientific, dif_pos ⟨hm, he⟩]
  cases negative with
  | true => exact (isFinite_pack_iff _).mpr (within_div_of_isShort hshort hpower)
  | false => exact (isFinite_pack_iff _).mpr (within_mul_of_isShort hshort hpower)

/-- Reading a decimal gives a finite float exactly if it is small enough. -/
theorem isFinite_float_ofScientific (m e : Nat) (negative : Bool) :
    (Float.ofScientific m negative e).isFinite = true ↔
      Fits m (if negative then -(e : Int) else e) := by
  by_cases hshort : m < 2 ^ 53 ∧ e ≤ 22
  · exact iff_of_true (isFinite_ofScientific_of_short hshort.1 hshort.2 negative)
      (fits_of_short hshort.1 hshort.2 negative)
  · rw [Float.ofScientific, dif_neg hshort]
    cases negative with
    | true =>
        have hneg : Int.negOfNat e = -(e : Int) := Int.negOfNat_eq
        rw [if_pos rfl, if_pos rfl, hneg]
        exact isFinite_ofScientific_iff m (-e)
    | false => exact isFinite_ofScientific_iff m e

/-! ## Signs -/

theorem within_neg_iff {bound : Int} (u : UnpackedFloat) : Within bound u.neg ↔ Within bound u := by
  cases u <;> rfl

/-- What is unpacked is finite only if its exponent is not too large. -/
theorem within_of_isFinite {x : Float.Model} (h : x.isFinite = true) : Within 971 x.unpack := by
  have hfield : exponentField x.toBits.toBitVec ≠ 2047 := (isFinite_unpack_iff _).mp h
  have hlt : exponentField x.toBits.toBitVec < 2048 :=
    (@unpackExponent .binary64 x.toBits.toBitVec).isLt
  cases hunpack : x.unpack with
  | zero s => trivial
  | finite s m e hm =>
      have hexponent := (bounds_of_unpack hunpack).2
      change e ≤ 971
      omega
  | _ =>
      rw [Float.Model.isFinite, hunpack] at h
      cases h

theorem isFinite_neg (x : Float) : (-x).isFinite = x.isFinite := by
  have hneg : (-x).isFinite = true ↔ Within 971 x.toModel.unpack :=
    (isFinite_pack_iff _).trans (within_neg_iff _)
  rw [Bool.eq_iff_iff, hneg]
  refine ⟨fun h => ?_, within_of_isFinite⟩
  change x.toModel.unpack.isFinite = true
  cases hunpack : x.toModel.unpack with
  | zero s => rfl
  | finite s m e hm => rfl
  | _ =>
      rw [hunpack] at h
      exact h.elim

/-! ## What is read -/

/-- Small numbers are told by their length. -/
theorem fits_of_length {coefficient : Nat} {exponent : Int}
    (h : (Nat.toDigits 10 coefficient).length + exponent ≤ 0) : Fits coefficient exponent := by
  have hlength : 0 < (Nat.toDigits 10 coefficient).length := Nat.length_toDigits_pos
  rw [fits_of_nonpos (by omega)]
  calc coefficient < 10 ^ (Nat.toDigits 10 coefficient).length :=
        (Nat.length_toDigits_le_iff (by decide) hlength).mp le_rfl
    _ ≤ 10 ^ (-exponent).toNat := Nat.pow_le_pow_right (by decide) (by omega)
    _ ≤ overflow * 10 ^ (-exponent).toNat := Nat.le_mul_of_pos_left _ overflow_pos

/-- Large numbers are told by their length. -/
theorem not_fits_of_length {coefficient : Nat} {exponent : Int} (hpos : coefficient ≠ 0)
    (h : 310 ≤ (Nat.toDigits 10 coefficient).length + exponent) : ¬ Fits coefficient exponent := by
  obtain ⟨n, hn⟩ : ∃ n, (Nat.toDigits 10 coefficient).length = n + 1 :=
    Nat.exists_eq_add_one.mpr Nat.length_toDigits_pos
  have hlower : 10 ^ n ≤ coefficient := by
    by_contra hsmall
    rcases Nat.eq_zero_or_pos n with rfl | hlong
    · omega
    · have hshort := (Nat.length_toDigits_le_iff (by decide) hlong).mpr (not_le.mp hsmall)
      omega
  rw [hn] at h
  rcases le_total 0 exponent with hsign | hsign
  · rw [fits_of_nonneg hsign, not_lt]
    calc overflow ≤ 10 ^ (n + exponent.toNat) := overflow_le_pow (by omega)
      _ = 10 ^ n * 10 ^ exponent.toNat := pow_add _ _ _
      _ ≤ coefficient * 10 ^ exponent.toNat := Nat.mul_le_mul_right _ hlower
  · rw [fits_of_nonpos hsign, not_lt]
    calc overflow * 10 ^ (-exponent).toNat
        ≤ 10 ^ (n - (-exponent).toNat) * 10 ^ (-exponent).toNat :=
          Nat.mul_le_mul_right _ (overflow_le_pow (by omega))
      _ = 10 ^ n := by rw [← pow_add, Nat.sub_add_cancel (by omega)]
      _ ≤ coefficient := hlower

/-- The float nearest to a decimal is finite exactly if the decimal is small enough. -/
theorem isFinite_nearest (negative : Bool) (coefficient : Nat) (exponent : Int) :
    (nearest negative coefficient exponent).isFinite = true ↔ Fits coefficient exponent := by
  rw [nearest]
  have hsigned (x : Float) : (if negative = true then -x else x).isFinite = x.isFinite := by
    split
    · exact isFinite_neg x
    · rfl
  rw [hsigned]
  by_cases hzero : coefficient = 0
  · subst hzero
    rw [if_pos (Or.inl rfl)]
    refine iff_of_true (by decide) ?_
    rw [Fits, Nat.zero_mul]
    exact Nat.mul_pos overflow_pos (Nat.pow_pos (by decide))
  · split <;> rename_i hsmall
    · exact iff_of_true (by decide) (fits_of_length (by omega))
    · split <;> rename_i hlarge
      · exact iff_of_false (by decide) (not_fits_of_length hzero (by omega))
      · rw [isFinite_float_ofScientific]
        have hexponent :
            (if decide (exponent < 0) then -(exponent.natAbs : Int) else exponent.natAbs) =
            exponent := by
          simp only [decide_eq_true_eq]
          split <;> omega
        rw [hexponent]

/-! ## Texts -/

/-- The texts of finite floats: decimals that are small enough, with their signs. -/
def IsNumber (s : String) : Prop :=
  ∃ sign cs coefficient exponent, sign ∈ [[], ['+'], ['-']] ∧ s.toList = sign ++ cs ∧
    Writes cs coefficient exponent ∧ Fits coefficient exponent

variable {cs : List Char} {coefficient : Nat} {exponent : Int}

theorem Writes.isUnsignedFloat (h : Writes cs coefficient exponent) : IsUnsignedFloat cs :=
  isUnsignedFloat_iff_writes.mpr (Or.inr ⟨coefficient, exponent, h⟩)

/-- There is a digit in what writes a decimal. -/
theorem Writes.exists_isDigit (h : Writes cs coefficient exponent) :
    ∃ d ∈ cs, d.isDigit = true := by
  cases h with
  | whole hds hpart =>
      obtain ⟨d, hd⟩ := List.exists_mem_of_ne_nil _ hds.1
      exact ⟨d, List.mem_append_left _ hd, hds.2 d hd⟩
  | pointed hds hpart =>
      obtain ⟨d, hd⟩ := List.exists_mem_of_ne_nil _ hds.1
      refine ⟨d, ?_, hds.2 d hd⟩
      rcases List.mem_append.mp hd with hwhole | hfraction
      · exact List.mem_append_left _ hwhole
      · exact List.mem_append_right _ (List.mem_cons_of_mem _ (List.mem_append_left _ hfraction))

theorem toLower_of_isDigit {c : Char} (h : c.isDigit = true) : c.toLower = c := by
  have hrange : 48 ≤ c.toNat ∧ c.toNat ≤ 57 := by
    simpa [Char.isDigit, UInt32.le_iff_toNat_le] using h
  unfold Char.toLower
  refine dif_neg fun hupper => ?_
  have hlow : 65 ≤ c.toNat := by simpa [UInt32.le_iff_toNat_le] using hupper.1
  omega

/-- What writes a decimal is none of the words. -/
theorem Writes.not_word (h : Writes cs coefficient exponent) :
    String.ofList (cs.map Char.toLower) ∉ ["inf", "infinity", "nan"] := by
  obtain ⟨d, hd, hdigit⟩ := h.exists_isDigit
  have hmem : d ∈ cs.map Char.toLower := List.mem_map.mpr ⟨d, hd, toLower_of_isDigit hdigit⟩
  have hletters : ∀ word ∈ ["inf", "infinity", "nan"],
      word.toList.all (fun c => !c.isDigit) = true := by
    decide
  intro hword
  have hletter := List.all_eq_true.mp (hletters _ hword) d (String.toList_ofList ▸ hmem)
  rw [hdigit] at hletter
  cases hletter

/-- The words mean no finite float, with either sign. -/
theorem not_isFinite_word (negative : Bool) {bits : UInt64}
    (h : bits ∈ [0x7FF0000000000000, 0x7FF8000000000000]) :
    (if negative = true then -Float.ofBits bits else Float.ofBits bits).isFinite = false := by
  have hbits : (Float.ofBits bits).isFinite = false := by
    simp only [List.mem_cons, List.not_mem_nil, or_false] at h
    rcases h with rfl | rfl <;> decide
  split
  · rw [isFinite_neg]
    exact hbits
  · exact hbits

/-- What is read behind a sign is finite exactly if it writes a decimal that is small enough. -/
theorem isFinite_floatBehind?_iff {negative : Bool} {x : Float}
    (h : floatBehind? negative cs = some x) :
    x.isFinite = true ↔
      ∃ coefficient exponent, Writes cs coefficient exponent ∧ Fits coefficient exponent := by
  by_cases hword : String.ofList (cs.map Char.toLower) ∈ ["inf", "infinity", "nan"]
  · obtain ⟨bits, hbits, hx⟩ := floatBehind?_word hword negative
    have hnot : x.isFinite = false := by
      rw [← Option.some.inj (hx.symm.trans h)]
      exact not_isFinite_word negative hbits
    rw [hnot]
    exact iff_of_false Bool.false_ne_true fun ⟨_, _, hwrites, _⟩ => hwrites.not_word hword
  · rw [floatBehind?_of_not_word hword] at h
    constructor
    · intro hfinite
      obtain ⟨coefficient, exponent, hwrites, rfl⟩ := exists_writes_of_unsignedFloat? h
      exact ⟨coefficient, exponent, hwrites,
        (isFinite_nearest negative coefficient exponent).mp hfinite⟩
    · rintro ⟨coefficient, exponent, hwrites, hfits⟩
      rw [← Option.some.inj ((hwrites.unsignedFloat?_eq negative).symm.trans h)]
      exact (isFinite_nearest negative coefficient exponent).mpr hfits

/-- A text is read as a finite float exactly if it writes a decimal that is small enough. -/
theorem isFinite_float?_iff {s : String} {x : Float} (h : float? s = some x) :
    x.isFinite = true ↔ IsNumber s := by
  rw [float?_eq] at h
  rw [isFinite_floatBehind?_iff h]
  constructor
  · rintro ⟨coefficient, exponent, hwrites, hfits⟩
    rcases exists_cutSign s.toList with ⟨sign, hsign, hs⟩
    exact ⟨sign, _, coefficient, exponent, hsign, hs, hwrites, hfits⟩
  · rintro ⟨sign, cs, coefficient, exponent, hsign, hs, hwrites, hfits⟩
    rw [hs, cutSign_append hsign hwrites.isUnsignedFloat.head_ne]
    exact ⟨coefficient, exponent, hwrites, hfits⟩

end LayerNet.Decimal
