import Mathlib.Order.Lattice
import Mathlib.Tactic.Ring
import LayerNet.Decimal.Reader

/-!
# Rounding to floats

Floats are packed into 64 bits.  What is too large for that becomes infinite, and that depends on
the exponent that a number has after it was rounded to 53 bits.  A number stays finite exactly if it
is less than halfway from the largest float to what would be the next one: rounding makes it longer
if all its bits are set and there is half a last place behind them.

Main definitions:

- `Within`: floats whose exponents are not above a bound.
- `halves`: the bits of a mantissa with the first of those that are dropped.

Main results:

- `isFinite_pack_iff`: which floats stay finite when they are packed.
- `within_roundWithAccuracy_iff`: which numbers stay within a bound when they are rounded.
-/

namespace LayerNet.Decimal

open Float.Model
open Float.Model.UnpackedFloat hiding pack unpack

/-! ## Packed floats -/

/-- Whether an unpacked float is zero or finite with an exponent that is not above a bound. -/
def Within (bound : Int) : UnpackedFloat → Prop
  | .zero _ => True
  | .finite _ _ exponent _ => exponent ≤ bound
  | _ => False

/-- The number that the exponent bits of a packed float write. -/
def exponentField (b : BitVec 64) : Nat :=
  (@unpackExponent .binary64 b).toNat

/-- A float is finite unless its exponent field has all bits. -/
theorem isFinite_unpack_iff (b : BitVec 64) :
    (UnpackedFloat.unpack .binary64 b).isFinite = true ↔ exponentField b ≠ 2047 := by
  have hones : (@unpackExponent .binary64 b) = -1#11 ↔ exponentField b = 2047 :=
    BitVec.toNat_inj.symm
  unfold UnpackedFloat.unpack
  dsimp only
  by_cases hall : (@unpackExponent .binary64 b) = -1#11
  · rw [if_pos hall]
    refine iff_of_false ?_ (not_not.mpr (hones.mp hall))
    by_cases hmantissa : (@unpackMantissa .binary64 b) = 0#52
    · rw [if_pos hmantissa]
      exact Bool.false_ne_true
    · rw [if_neg hmantissa]
      exact Bool.false_ne_true
  · rw [if_neg hall]
    refine iff_of_true ?_ (hones.not.mp hall)
    by_cases hzero : (@unpackExponent .binary64 b) = 0#11
    · rw [if_pos hzero]
      by_cases hmantissa : (@unpackMantissa .binary64 b) = 0#52
      · rw [dif_pos hmantissa]
        rfl
      · rw [dif_neg hmantissa]
        rfl
    · rw [if_neg hzero]
      rfl

theorem exponentField_packComponents (s : Sign) (exponent : BitVec 11) (mantissa : BitVec 52) :
    exponentField (packComponents .binary64 s exponent mantissa) = exponent.toNat :=
  congrArg BitVec.toNat unpackExponent_packComponents

/-- What packing writes as the exponent: all bits above the range, none below it. -/
theorem exponentField_pack_finite (s : Sign) {m : Nat} (e : Int) (hm : 0 < m) :
    exponentField (UnpackedFloat.pack .binary64 (.finite s m e hm)) =
      if 971 < e then 2047 else if m.log2 = 52 then (e + 1075).toNat else 0 := by
  have hbias : (e + (2 ^ (11 - 1) - 1 : Nat) + (52 : Nat)).toNat = (e + 1075).toNat := by omega
  have hpack : UnpackedFloat.pack .binary64 (.finite s m e hm) =
      if 2 ^ 11 ≤ (e + 1075).toNat + 1 then packComponents .binary64 s (-1#11) 0
      else if m.log2 + 1 = 53 then
        packComponents .binary64 s (BitVec.ofNat 11 (e + 1075).toNat) (BitVec.ofNat 52 m)
      else packComponents .binary64 s 0#11 (BitVec.ofNat 52 m) := by
    rw [← hbias]
    rfl
  rw [hpack]
  by_cases hlarge : 971 < e
  · rw [if_pos (by omega), if_pos hlarge]
    exact exponentField_packComponents s _ _
  · rw [if_neg (by omega), if_neg hlarge]
    by_cases hnormal : m.log2 = 52
    · rw [if_pos (by omega), if_pos hnormal]
      have hsize : (e + 1075).toNat < 2 ^ 11 := by omega
      exact (exponentField_packComponents s _ _).trans (Nat.mod_eq_of_lt hsize)
    · rw [if_neg (by omega), if_neg hnormal]
      exact exponentField_packComponents s _ _

/-- The exponent bits of what was packed are not all set exactly if its exponent is not too
large. -/
theorem exponentField_pack_ne_iff (u : UnpackedFloat) :
    exponentField (UnpackedFloat.pack .binary64 u) ≠ 2047 ↔ Within 971 u := by
  cases u with
  | notANumber => exact iff_of_false (not_not.mpr (exponentField_packComponents _ _ _)) id
  | infinity s => exact iff_of_false (not_not.mpr (exponentField_packComponents s _ _)) id
  | zero s =>
      refine iff_of_true ?_ trivial
      have hzero : exponentField (UnpackedFloat.pack .binary64 (.zero s)) = 0 :=
        exponentField_packComponents s _ _
      omega
  | finite s m e hm =>
      have hwithin : Within 971 (.finite s m e hm) ↔ e ≤ 971 := Iff.rfl
      rw [exponentField_pack_finite, hwithin]
      split <;> rename_i hlarge
      · omega
      · split <;> omega

/-- A float that was packed is finite exactly if its exponent is not too large. -/
theorem isFinite_pack_iff (u : UnpackedFloat) :
    (Float.Model.pack u).isFinite = true ↔ Within 971 u :=
  (isFinite_unpack_iff _).trans (exponentField_pack_ne_iff u)

/-- What is unpacked has a mantissa of at most 53 bits, and the exponent that the bits write. -/
theorem bounds_of_unpack {b : BitVec 64} {s : Sign} {m : Nat} {e : Int} {hm : 0 < m}
    (h : UnpackedFloat.unpack .binary64 b = .finite s m e hm) :
    m < 2 ^ 53 ∧ e ≤ max (exponentField b - 1075 : Int) (-1074) := by
  have hbias : ((Format.exponentBias .binary64 : Nat) : Int) + (52 : Nat) = 1075 := by decide
  unfold UnpackedFloat.unpack at h
  dsimp only at h
  by_cases hall : (@unpackExponent .binary64 b) = -1#11
  · rw [if_pos hall] at h
    by_cases hmantissa : (@unpackMantissa .binary64 b) = 0#52
    · rw [if_pos hmantissa] at h
      cases h
    · rw [if_neg hmantissa] at h
      cases h
  · rw [if_neg hall] at h
    by_cases hzero : (@unpackExponent .binary64 b) = 0#11
    · rw [if_pos hzero] at h
      by_cases hmantissa : (@unpackMantissa .binary64 b) = 0#52
      · rw [dif_pos hmantissa] at h
        cases h
      · rw [dif_neg hmantissa] at h
        rcases UnpackedFloat.finite.inj h with ⟨-, rfl, rfl⟩
        have hlt := (@unpackMantissa .binary64 b).isLt
        have hfield : (@unpackExponent .binary64 b).toNat = 0 := congrArg BitVec.toNat hzero
        exact ⟨by omega, by omega⟩
    · rw [if_neg hzero] at h
      rcases UnpackedFloat.finite.inj h with ⟨-, rfl, rfl⟩
      have hlt := (1#1 ++ @unpackMantissa .binary64 b).isLt
      have hfield : exponentField b = (@unpackExponent .binary64 b).toNat := rfl
      exact ⟨by omega, by omega⟩

/-- Packing and unpacking does not make exponents larger. -/
theorem within_unpack_pack {bound : Int} {u : UnpackedFloat} (h : Within bound u)
    (hlow : -1074 ≤ bound) (hhigh : bound ≤ 971) : Within bound (Float.Model.pack u).unpack := by
  have hfield : (exponentField (UnpackedFloat.pack .binary64 u) : Int) ≤ max (bound + 1075) 0 := by
    cases u with
    | notANumber => cases h
    | infinity s => cases h
    | zero s =>
        have hzero : exponentField (UnpackedFloat.pack .binary64 (.zero s)) = 0 :=
          exponentField_packComponents s _ _
        omega
    | finite s m e hm =>
        have he : e ≤ bound := h
        rw [exponentField_pack_finite, if_neg (by omega)]
        split <;> omega
  have hfinite : (Float.Model.pack u).unpack.isFinite = true := by
    refine (isFinite_pack_iff u).mpr ?_
    cases u with
    | finite s m e hm => exact le_trans h hhigh
    | _ => exact h
  cases hunpack : (Float.Model.pack u).unpack with
  | notANumber =>
      rw [hunpack] at hfinite
      exact absurd hfinite Bool.false_ne_true
  | infinity s =>
      rw [hunpack] at hfinite
      exact absurd hfinite Bool.false_ne_true
  | zero s => trivial
  | finite s m e hm =>
      have hexponent :
          e ≤ max (exponentField (UnpackedFloat.pack .binary64 u) - 1075 : Int) (-1074) :=
        (bounds_of_unpack hunpack).2
      change e ≤ bound
      omega

/-! ## Rounding -/

/-- The mantissa and the bit behind it as one number: how many halves of a last place there are. -/
def halves (em : ExtendedMantissa) : Nat :=
  2 * em.mantissa + em.roundBit.toNat

/-- The mantissa is what is left of the halves when the last bit goes. -/
theorem mantissa_eq (em : ExtendedMantissa) : em.mantissa = halves em / 2 := by
  have hbit := em.roundBit.toNat_lt
  rw [halves]
  omega

theorem halves_shiftRightOne (em : ExtendedMantissa) : halves em.shiftRightOne = em.mantissa := by
  rw [halves, ExtendedMantissa.shiftRightOne]
  rcases Nat.mod_two_eq_zero_or_one em.mantissa with hparity | hparity <;> simp [hparity] <;> omega

/-- A shift drops bits, and the last of them is the one behind the mantissa then. -/
theorem halves_shiftRight (em : ExtendedMantissa) (n : Nat) :
    halves (em >>> n) = halves em / 2 ^ n := by
  induction n with
  | zero => exact (Nat.div_one _).symm
  | succ n ih =>
      have hstep : em >>> (n + 1) = (em >>> n).shiftRightOne := rfl
      rw [hstep, halves_shiftRightOne, mantissa_eq, ih, Nat.div_div_eq_div_mul, pow_succ]

theorem mantissa_shiftRight (em : ExtendedMantissa) (n : Nat) :
    (em >>> n).mantissa = em.mantissa / 2 ^ n := by
  rw [mantissa_eq, halves_shiftRight, mantissa_eq em, Nat.div_div_eq_div_mul,
    Nat.div_div_eq_div_mul, Nat.mul_comm]

/-- Rounding adds one or nothing. -/
theorem roundedMantissa_bounds (em : ExtendedMantissa) :
    em.mantissa ≤ em.roundedMantissa ∧ em.roundedMantissa ≤ em.mantissa + 1 := by
  rcases em with ⟨m, _ | _, _ | _⟩ <;>
    simp only [ExtendedMantissa.roundedMantissa, ExtendedMantissa.accuracy,
      Accuracy.roundToNearestEven] <;> omega

/-- Rounding gives one bit more exactly if there is a half behind the largest mantissa. -/
theorem roundedMantissa_lt_iff {em : ExtendedMantissa} (h : em.mantissa < 2 ^ 53) :
    em.roundedMantissa < 2 ^ 53 ↔ halves em < 2 ^ 54 - 1 := by
  rcases em with ⟨m, _ | _, _ | _⟩ <;>
    simp only [ExtendedMantissa.roundedMantissa, ExtendedMantissa.accuracy,
      Accuracy.roundToNearestEven, halves, Bool.toNat_false, Bool.toNat_true] at h ⊢ <;> omega

/-- The exponent that a mantissa should have. -/
def target (m : Nat) (e : Int) : Int :=
  max (m.log2 + e - 52) (-1074)

/-- The exponent that leaves 53 bits, or the least one there is. -/
theorem target_eq (m : Nat) (e : Int) : target m e = max (m.log2 + e - 52) (-1074) :=
  rfl

theorem targetExponent_eq (m : Nat) (e : Int) :
    Format.targetExponent .binary64 (totalExponent m e) = target m e := by
  have hbits : ((Format.mantissaBits .binary64 : Nat) : Int) = 53 := by decide
  have hmin : Format.minExponent .binary64 = -1074 := by decide
  rw [Format.targetExponent, totalExponent, target, hbits, hmin]
  congr 1
  omega

/-- How many bits are dropped of a mantissa. -/
def dropped (m : Nat) (e : Int) : Nat :=
  (target m e - e).toNat

/-- A mantissa without the bits that are dropped. -/
def first (m : Nat) (e : Int) (a : Accuracy) : ExtendedMantissa :=
  ExtendedMantissa.ofMantissaAndAccuracy m a >>> dropped m e

/-- The first of the two steps of rounding: the mantissa is cut to its target. -/
theorem shiftToTargetExponent_eq (m : Nat) (e : Int) (a : Accuracy) :
    shiftToTargetExponent .binary64 m e a = (first m e a, max e (target m e)) := by
  have hexponent : e + dropped m e = max e (target m e) := by
    rw [dropped]
    omega
  rw [shiftToTargetExponent, targetExponent_eq, shiftToExponent, ← dropped, hexponent, first]

theorem mantissa_ofMantissaAndAccuracy (m : Nat) (a : Accuracy) :
    (ExtendedMantissa.ofMantissaAndAccuracy m a).mantissa = m := by
  cases a with
  | exact => rfl
  | inexact o => cases o <;> rfl

/-- Accuracy adds at most one half. -/
theorem halves_bounds (m : Nat) (a : Accuracy) :
    2 * m ≤ halves (.ofMantissaAndAccuracy m a) ∧
      halves (.ofMantissaAndAccuracy m a) ≤ 2 * m + 1 := by
  have hmantissa := mantissa_eq (.ofMantissaAndAccuracy m a)
  rw [mantissa_ofMantissaAndAccuracy] at hmantissa
  omega

/-- Cutting divides the halves by a power of two, rounding down. -/
theorem halves_first (m : Nat) (e : Int) (a : Accuracy) :
    halves (first m e a) = halves (.ofMantissaAndAccuracy m a) / 2 ^ dropped m e :=
  halves_shiftRight _ _

theorem mantissa_first (m : Nat) (e : Int) (a : Accuracy) :
    (first m e a).mantissa = m / 2 ^ dropped m e := by
  rw [first, mantissa_shiftRight, mantissa_ofMantissaAndAccuracy]

/-- At most 53 bits are left. -/
theorem mantissa_first_lt {m : Nat} {e : Int} (a : Accuracy) (h : e ≤ target m e) :
    (first m e a).mantissa < 2 ^ 53 := by
  have htarget : (m.log2 : Int) + e - 52 ≤ target m e := le_max_left _ _
  rw [mantissa_first, Nat.div_lt_iff_lt_mul (Nat.two_pow_pos _), ← pow_add]
  exact lt_of_lt_of_le Nat.lt_log2_self (Nat.pow_le_pow_right (by decide) (by rw [dropped]; omega))

/-- A float is zero if its mantissa is, whatever its exponent. -/
theorem within_dite_iff {bound : Int} (s : Sign) (m : Nat) (e : Int) :
    Within bound (if h : m = 0 then .zero s else .finite s m e (Nat.pos_of_ne_zero h)) ↔
      m = 0 ∨ e ≤ bound := by
  by_cases h : m = 0
  · rw [dif_pos h]
    exact iff_of_true trivial (Or.inl h)
  · rw [dif_neg h]
    exact (or_iff_right h).symm

/-- The exponent after rounding is that of the rounded mantissa, which may have become longer. -/
theorem within_roundWithAccuracy_iff_target {bound : Int} {s : Sign} {m : Nat} {e : Int}
    {a : Accuracy} :
    Within bound (roundWithAccuracy .binary64 s m e a) ↔ (first m e a).roundedMantissa = 0 ∨
      max (max e (target m e))
        (target (first m e a).roundedMantissa (max e (target m e))) ≤ bound := by
  rw [roundWithAccuracy, shiftToTargetExponent_eq]
  dsimp only
  rw [shiftToTargetExponent_eq]
  dsimp only
  have hlow : -1074 ≤ max e (target m e) := le_max_of_le_right (le_max_right _ _)
  generalize max e (target m e) = exponent at hlow
  generalize (first m e a).roundedMantissa = rounded
  have hlength : dropped rounded exponent ≤ rounded.log2 := by
    rw [dropped, target]
    omega
  refine (within_dite_iff s _ _).trans (or_congr_left ?_)
  rw [mantissa_first]
  constructor
  · intro hfinal
    by_contra hpos
    have hpower := le_trans (Nat.pow_le_pow_right (by decide) hlength) (Nat.log2_self_le hpos)
    exact absurd hfinal (Nat.div_pos hpower (Nat.two_pow_pos _)).ne'
  · rintro rfl
    exact Nat.zero_div _

theorem log2_lt_of_lt {r k : Nat} (h : r < 2 ^ (k + 1)) : r.log2 < k + 1 := by
  by_cases hzero : r = 0
  · subst hzero
    exact Nat.succ_pos k
  · exact (Nat.log2_lt hzero).mpr h

/-! ## Where rounding overflows -/

section Overflow

variable {s : Sign} {m : Nat} {e bound : Int} {a : Accuracy}

/-- A number that has all its bits stays within the bound that it is in. -/
theorem within_iff_of_target_lt_exponent (hshift : target m e < e) (he : e ≤ bound)
    (hlow : -1074 ≤ bound) :
    Within bound (roundWithAccuracy .binary64 s m e a) ↔
      halves (.ofMantissaAndAccuracy m a) < (2 ^ 54 - 1) * 2 ^ (bound - e).toNat := by
  have htarget : (m.log2 : Int) + e - 52 ≤ target m e := le_max_left _ _
  have hshort : m < 2 ^ 52 :=
    lt_of_lt_of_le Nat.lt_log2_self (Nat.pow_le_pow_right (by decide) (by omega))
  have hrounded := (roundedMantissa_bounds (first m e a)).2
  rw [mantissa_first, show dropped m e = 0 by rw [dropped]; omega, pow_zero,
    Nat.div_one] at hrounded
  have hlog : (first m e a).roundedMantissa.log2 < 53 := log2_lt_of_lt (by omega)
  rw [within_roundWithAccuracy_iff_target]
  refine iff_of_true (Or.inr ?_) ?_
  · rw [max_eq_left hshift.le, target_eq (first m e a).roundedMantissa]
    omega
  · have hhalves := (halves_bounds m a).2
    have hpower := Nat.two_pow_pos (bound - e).toNat
    omega

/-- A number that is shifted to a smaller exponent than the bound is rounded to one within the
bound. -/
theorem within_iff_of_target_lt (hshift : e ≤ target m e) (hbound : target m e < bound) :
    Within bound (roundWithAccuracy .binary64 s m e a) ↔
      halves (.ofMantissaAndAccuracy m a) < (2 ^ 54 - 1) * 2 ^ (bound - e).toNat := by
  have hshort := mantissa_first_lt a hshift
  have hlow : -1074 ≤ target m e := le_max_right _ _
  have hrounded := (roundedMantissa_bounds (first m e a)).2
  have hlog : (first m e a).roundedMantissa.log2 < 54 := log2_lt_of_lt (by omega)
  rw [within_roundWithAccuracy_iff_target]
  refine iff_of_true (Or.inr ?_) ?_
  · rw [max_eq_right hshift, target_eq (first m e a).roundedMantissa]
    omega
  · have hfew : halves (.ofMantissaAndAccuracy m a) < 2 ^ 54 * 2 ^ dropped m e := by
      rw [← Nat.div_lt_iff_lt_mul (Nat.two_pow_pos _), ← halves_first, halves]
      have hbit := (first m e a).roundBit.toNat_lt
      omega
    have hroom : 2 ^ (dropped m e + 1) ≤ 2 ^ (bound - e).toNat :=
      Nat.pow_le_pow_right (by decide) (by rw [dropped]; omega)
    rw [pow_succ] at hroom
    omega

/-- A number that is shifted to the bound stays within it unless rounding makes it longer. -/
theorem within_iff_of_target_eq (hshift : e ≤ target m e) (hbound : target m e = bound) :
    Within bound (roundWithAccuracy .binary64 s m e a) ↔
      halves (.ofMantissaAndAccuracy m a) < (2 ^ 54 - 1) * 2 ^ (bound - e).toNat := by
  have hshort := mantissa_first_lt a hshift
  have hlow : -1074 ≤ target m e := le_max_right _ _
  have hrounded := (roundedMantissa_bounds (first m e a)).2
  have hplaces : (bound - e).toNat = dropped m e := by rw [dropped, hbound]
  rw [within_roundWithAccuracy_iff_target, max_eq_right hshift, hplaces,
    ← Nat.div_lt_iff_lt_mul (Nat.two_pow_pos _), ← halves_first, ← roundedMantissa_lt_iff hshort]
  constructor
  · rintro (hzero | hmax)
    · omega
    · by_contra hlarge
      have hlong : (first m e a).roundedMantissa = 2 ^ 53 := by omega
      rw [hlong, target_eq (2 ^ 53), Nat.log2_two_pow] at hmax
      omega
  · intro hsmall
    have hlog : (first m e a).roundedMantissa.log2 < 53 := log2_lt_of_lt hsmall
    refine Or.inr ?_
    rw [target_eq (first m e a).roundedMantissa]
    omega

/-- A number that is shifted beyond the bound is not within it. -/
theorem within_iff_of_lt_target (hlow : -1074 ≤ bound) (he : e ≤ bound)
    (hbound : bound < target m e) :
    Within bound (roundWithAccuracy .binary64 s m e a) ↔
      halves (.ofMantissaAndAccuracy m a) < (2 ^ 54 - 1) * 2 ^ (bound - e).toNat := by
  have hlong : m.log2 = dropped m e + 52 := by
    rw [dropped, target] at *
    omega
  have hpos : m ≠ 0 := by
    rintro rfl
    rw [Nat.log2_zero] at hlong
    omega
  have hlower : 2 ^ (dropped m e + 52) ≤ m := hlong ▸ Nat.log2_self_le hpos
  rw [within_roundWithAccuracy_iff_target]
  refine iff_of_false ?_ ?_
  · rintro (hzero | hmax)
    · have hmany : 2 ^ 52 ≤ (first m e a).mantissa := by
        rw [mantissa_first, Nat.le_div_iff_mul_le (Nat.two_pow_pos _), ← pow_add, Nat.add_comm]
        exact hlower
      have hrounded := (roundedMantissa_bounds (first m e a)).1
      omega
    · omega
  · have hhalves := (halves_bounds m a).1
    have hroom : 2 ^ ((bound - e).toNat + 1) ≤ 2 ^ dropped m e :=
      Nat.pow_le_pow_right (by decide) (by rw [dropped]; omega)
    rw [pow_succ] at hroom
    rw [pow_add] at hlower
    omega

/-- What is rounded stays within a bound exactly if it is less than half a last place below what is
beyond it. -/
theorem within_roundWithAccuracy_iff (s : Sign) (m : Nat) (a : Accuracy) (he : e ≤ bound)
    (hlow : -1074 ≤ bound) : Within bound (roundWithAccuracy .binary64 s m e a) ↔
      halves (.ofMantissaAndAccuracy m a) < (2 ^ 54 - 1) * 2 ^ (bound - e).toNat := by
  rcases lt_or_ge (target m e) e with hshift | hshift
  · exact within_iff_of_target_lt_exponent hshift he hlow
  · rcases lt_trichotomy (target m e) bound with hbelow | hequal | habove
    · exact within_iff_of_target_lt hshift hbelow
    · exact within_iff_of_target_eq hshift hequal
    · exact within_iff_of_lt_target hlow he habove

end Overflow

end LayerNet.Decimal
