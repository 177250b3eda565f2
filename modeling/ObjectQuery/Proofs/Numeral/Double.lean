import Mathlib.Algebra.Group.Int.Defs
import Mathlib.Algebra.Group.Nat.Defs
import Mathlib.Data.Nat.Log
import Mathlib.Order.Compare
import ObjectQuery.Json.Basic

/-!
# Integers as doubles

The greatest double is far above the integers of sixty-four bits, so that each of them is rounded to a
finite double. The bounds on mantissas and exponents here are coarse: they follow a conversion step by
step and only have to stay below where packing overflows.
-/

namespace ObjectQuery

open Float.Model Float.Model.UnpackedFloat

namespace Numeral

/-- A number that is zero, or finite with a mantissa of so many bits and no greater exponent. -/
inductive Within (bits : Nat) (bound : Int) : UnpackedFloat → Prop
  | zero (sign : Sign) : Within bits bound (.zero sign)
  | finite {sign : Sign} {mantissa : Nat} {exponent : Int} {hpos : 0 < mantissa}
      (hmantissa : mantissa < 2 ^ bits) (hexponent : exponent ≤ bound) :
      Within bits bound (.finite sign mantissa exponent hpos)

variable {bits bits' : Nat} {bound bound' : Int} {u v : UnpackedFloat}

/-- Within any bound there is no infinity and no `NaN`. -/
theorem isFinite_of_within (h : Within bits bound u) : u.isFinite = true := by
  cases h <;> rfl

/-- A bound may be raised. -/
theorem within_mono (h : Within bits bound u) (hle : bound ≤ bound') : Within bits bound' u := by
  cases h with
  | zero sign => exact .zero sign
  | finite hmantissa hexponent => exact .finite hmantissa (le_trans hexponent hle)

/-- The sign does not matter to a bound. -/
theorem within_neg (h : Within bits bound u) : Within bits bound u.neg := by
  cases h with
  | zero sign => exact .zero (-sign)
  | finite hmantissa hexponent => exact .finite hmantissa hexponent

/-- A mantissa and an exponent within a bound make a number within it. -/
theorem within_parts {sign : Sign} {mantissa : Nat} {exponent : Int} (hmantissa : mantissa < 2 ^ bits)
    (hexponent : exponent ≤ bound) :
    Within bits bound (if h : mantissa = 0 then .zero sign
      else .finite sign mantissa exponent (Nat.pos_of_ne_zero h)) := by
  by_cases h : mantissa = 0
  · rw [dif_pos h]
    exact .zero sign
  · rw [dif_neg h]
    exact .finite hmantissa hexponent

/-! ## Packing -/

theorem exponentBias_eq : Format.binary64.exponentBias = 1023 := rfl

theorem exponentBits_eq : Format.binary64.exponentBits = 11 := rfl

theorem mantissaBits_eq : Format.binary64.mantissaBits = 53 := rfl

theorem minExponent_eq : Format.binary64.minExponent = -1074 := rfl

/-- A double is finite unless its exponent is the greatest. -/
theorem within_unpack {double : BitVec Format.binary64.numBits}
    (hexponent : (unpackExponent double).toNat ≤ bound + 1075) (hleast : -1074 ≤ bound)
    (hmost : bound ≤ 900) : Within 53 bound (UnpackedFloat.unpack Format.binary64 double) := by
  have hm : (unpackMantissa double).toNat < 2 ^ 52 := (unpackMantissa double).isLt
  delta UnpackedFloat.unpack
  dsimp only
  by_cases htop : unpackExponent double = -1#11
  · have htop : (unpackExponent double).toNat = 2047 := congrArg BitVec.toNat htop
    omega
  rw [if_neg htop]
  by_cases hsubnormal : unpackExponent double = 0#11
  · have hzero : (unpackExponent double).toNat = 0 := congrArg BitVec.toNat hsubnormal
    rw [if_pos hsubnormal]
    by_cases hmantissa : unpackMantissa double = 0#52
    · rw [dif_pos hmantissa]
      exact .zero _
    · rw [dif_neg hmantissa]
      refine .finite (by omega) ?_
      rw [exponentBias_eq, hzero]
      omega
  · rw [if_neg hsubnormal]
    refine .finite (1#1 ++ unpackMantissa double).isLt ?_
    rw [exponentBias_eq]
    omega

/-- What is packed into a double comes back without more bits and with no greater exponent. -/
theorem within_unpack_pack (h : Within bits bound u) (hleast : -1074 ≤ bound) (hmost : bound ≤ 900) :
    Within 53 bound (Float.Model.pack u).unpack := by
  cases h with
  | zero sign => cases sign <;> exact .zero _
  | finite hmantissa hexponent =>
    unfold Float.Model.unpack Float.Model.pack UnpackedFloat.pack
    dsimp only
    rw [exponentBias_eq]
    split
    · omega
    · split
      · apply within_unpack _ hleast hmost
        rw [unpackExponent_packComponents, BitVec.toNat_ofNat, exponentBits_eq]
        omega
      · apply within_unpack _ hleast hmost
        rw [unpackExponent_packComponents, BitVec.toNat_ofNat, exponentBits_eq]
        omega

/-! ## Rounding -/

/-- Shifting to the right does not raise the mantissa. -/
theorem mantissa_shiftRight_le (em : ExtendedMantissa) (k : Nat) :
    (em >>> k).mantissa ≤ em.mantissa := by
  induction k with
  | zero => exact Nat.le_refl _
  | succ k ih =>
    have hhalf : (em >>> (k + 1)).mantissa = (em >>> k).mantissa / 2 := rfl
    omega

/-- The accuracy beside a mantissa does not change it. -/
theorem mantissa_ofMantissaAndAccuracy (m : Nat) (accuracy : Accuracy) :
    (ExtendedMantissa.ofMantissaAndAccuracy m accuracy).mantissa = m := by
  unfold ExtendedMantissa.ofMantissaAndAccuracy
  split <;> rfl

/-- Rounding raises the mantissa by one at most. -/
theorem roundedMantissa_le (em : ExtendedMantissa) : em.roundedMantissa ≤ em.mantissa + 1 := by
  unfold ExtendedMantissa.roundedMantissa Accuracy.roundToNearestEven
  split <;> omega

/-- A shift to the bits of a double raises the exponent by the bits of the mantissa at most. -/
theorem shiftToTargetExponent_le {m k : Nat} {e : Int} (accuracy : Accuracy) (hm : m < 2 ^ k)
    (he : e ≤ bound) (hleast : -1074 ≤ bound) :
    (shiftToTargetExponent Format.binary64 m e accuracy).1.mantissa ≤ m ∧
      (shiftToTargetExponent Format.binary64 m e accuracy).2 ≤ bound + k := by
  have hlog : m.log2 ≤ k := by
    by_cases hzero : m = 0
    · rw [hzero]
      exact Nat.zero_le k
    · exact Nat.le_of_lt ((Nat.log2_lt hzero).mpr hm)
  constructor
  · calc _ ≤ (ExtendedMantissa.ofMantissaAndAccuracy m accuracy).mantissa :=
          mantissa_shiftRight_le _ _
      _ = m := mantissa_ofMantissaAndAccuracy m accuracy
  · simp only [shiftToTargetExponent, shiftToExponent, Format.targetExponent, totalExponent,
      minExponent_eq, mantissaBits_eq]
    omega

/-- The mantissa is shifted, rounded and, as rounding may have added a bit, shifted again. -/
theorem within_roundWithAccuracy {sign : Sign} {m k : Nat} {e : Int} (accuracy : Accuracy)
    (hm : m < 2 ^ k) (he : e ≤ bound) (hleast : -1074 ≤ bound) :
    Within (k + 1) (bound + (2 * k + 1)) (roundWithAccuracy Format.binary64 sign m e accuracy) := by
  obtain ⟨hfirst, hexponent⟩ := shiftToTargetExponent_le accuracy hm he hleast
  have hrounded := roundedMantissa_le (shiftToTargetExponent Format.binary64 m e accuracy).1
  have hm' : (shiftToTargetExponent Format.binary64 m e accuracy).1.roundedMantissa <
      2 ^ (k + 1) := by
    have := Nat.pow_succ 2 k
    omega
  obtain ⟨hfinal, hfinalExponent⟩ := shiftToTargetExponent_le .exact hm' hexponent (by omega)
  have htwice : bound + k + (k + 1 : Nat) = bound + (2 * k + 1) := by omega
  rw [htwice] at hfinalExponent
  unfold roundWithAccuracy
  exact within_parts (lt_of_le_of_lt hfinal hm') hfinalExponent

/-- A natural number of 64 bits is rounded within a bound far from overflow. -/
theorem within_round {sign : Sign} {n : Nat} (hpos : n ≠ 0) (hn : n < 2 ^ 64) :
    Within 118 235 (UnpackedFloat.round Format.binary64 sign n 0) := by
  have hlog : n.log2 < 64 := (Nat.log2_lt hpos).mpr hn
  unfold UnpackedFloat.round decreaseExponent
  dsimp only
  have hshift : (0 - Format.binary64.targetExponent (totalExponent n 0)).toNat ≤ 53 := by
    simp only [Format.targetExponent, totalExponent, minExponent_eq, mantissaBits_eq]
    omega
  generalize (0 - Format.binary64.targetExponent (totalExponent n 0)).toNat = k at hshift ⊢
  have hm : n <<< k < 2 ^ (64 + 53) := by
    rw [Nat.shiftLeft_eq, Nat.pow_add]
    exact Nat.mul_lt_mul_of_lt_of_le hn (Nat.pow_le_pow_right (by decide) hshift) (by decide)
  have he : 0 - (k : Int) ≤ 0 := by omega
  exact within_roundWithAccuracy .exact hm he (by decide)

/-- A product has the bits of both factors, and its exponent is bounded by theirs. -/
theorem within_mul (hu : Within bits bound u) (hv : Within bits' bound' v)
    (hleast : -1074 ≤ bound + bound') :
    Within (bits + bits' + 1) (bound + bound' + (2 * (bits + bits' : Nat) + 1))
      (UnpackedFloat.mul Format.binary64 u v) := by
  cases hu with
  | zero sign => cases hv <;> exact .zero _
  | finite hm he =>
    cases hv with
    | zero sign' => exact .zero _
    | finite hm' he' =>
      refine within_roundWithAccuracy .exact ?_ (Int.add_le_add he he') hleast
      rw [Nat.pow_add]
      exact Nat.mul_lt_mul'' hm hm'

/-! ## Conversion -/

/-- A `UInt64` becomes a double within the bound of rounding. -/
theorem within_ofUInt64 (n : UInt64) :
    Within 118 235 (UnpackedFloat.ofUInt64 Format.binary64 n) := by
  have hn : n.toNat < 2 ^ 64 := n.toNat_lt
  unfold UnpackedFloat.ofUInt64 UnpackedFloat.ofNat UnpackedFloat.ofInt UnpackedFloat.normalize
  split
  · next hlt =>
    rw [compare_lt_iff_lt] at hlt
    omega
  · exact .zero _
  · next hgt =>
    rw [compare_gt_iff_gt] at hgt
    exact within_round (by omega) (by omega)

/-- A natural number of 64 bits, read from digits, becomes a double within bounds. -/
theorem within_ofScientific {n : Nat} (hn : n < 2 ^ 64) :
    Within 119 900 (UnpackedFloat.ofScientific Format.binary64 n 0) := by
  unfold UnpackedFloat.ofScientific
  by_cases hzero : n = 0
  · rw [dif_pos hzero]
    exact .zero _
  have hlow : ¬(0 : Int) < -(2 ^ Format.binary64.exponentBits + (n.log2 : Int)) := by
    rw [exponentBits_eq]
    omega
  rw [dif_neg hzero, if_neg (by decide), if_neg hlow, if_pos (le_refl 0)]
  have hmantissa : n <<< Format.binary64.mantissaBits < 2 ^ (64 + 53) := by
    rw [Nat.shiftLeft_eq, mantissaBits_eq, Nat.pow_add]
    omega
  have hone : 10 ^ (0 : Int).toNat < 2 ^ 1 := by decide
  have hexponent : -(Format.binary64.mantissaBits : Int) ≤ 0 := by decide
  have hle : (0 : Int) + 0 + (2 * (64 + 53 + 1 : Nat) + 1) ≤ 900 := by decide
  exact within_mono
    (within_mul (.finite hmantissa hexponent) (.finite hone (le_refl 0)) (by decide)) hle

/-- A small number is taken as a double times one, a great one as a mantissa of its own. -/
theorem within_ofNat {n : Nat} (hn : n < 2 ^ 64) :
    Within 53 900 (Float.ofNat n).toModel.unpack := by
  unfold Float.ofNat OfScientific.ofScientific instOfScientificFloat
  dsimp only
  unfold Float.ofScientific
  split
  · rw [if_neg Bool.false_ne_true]
    have hone : Within 53 0 (Float.exactlyRepresentablePowersOfTen[0]).toModel.unpack := by
      change Within 53 0 (UnpackedFloat.unpack Format.binary64
        (packComponents Format.binary64 .positive 1023#11 0#52))
      exact within_unpack (by rw [unpackExponent_packComponents]; decide) (by decide) (by decide)
    have hint := within_unpack_pack (within_ofUInt64 n.toUInt64) (by decide) (by decide)
    have hmul := within_unpack_pack (within_mul hint hone (by decide)) (by decide) (by decide)
    exact within_mono hmul (by decide)
  · exact within_unpack_pack (within_ofScientific hn) (by decide) (by decide)

/-- An integer of 64 bits becomes a double within bounds. -/
theorem within_ofInt {n : Int} (hn : n.natAbs < 2 ^ 64) :
    Within 53 900 (Float.ofInt n).toModel.unpack := by
  cases n with
  | ofNat n => exact within_ofNat hn
  | negSucc n => exact within_unpack_pack (within_neg (within_ofNat hn)) (by decide) (by decide)

end Numeral

/-- An integer in the range of signed or unsigned sixty-four bits, or a finite double. -/
def Number.inRange : Number → Bool
  | .int n => -Int.pow 2 63 ≤ n && n < Int.pow 2 64
  | .float x => x.isFinite

/-- A number that is in range becomes a finite double. -/
theorem Number.isFinite_toFloat {n : Number} (h : n.inRange = true) :
    n.toFloat.isFinite = true := by
  cases n with
  | int n =>
    obtain ⟨hleast, hmost⟩ := Bool.and_eq_true_iff.mp h
    have hleast : -2 ^ 63 ≤ n := of_decide_eq_true hleast
    have hmost : n < 2 ^ 64 := of_decide_eq_true hmost
    exact Numeral.isFinite_of_within (Numeral.within_ofInt (by omega))
  | float x => exact h

/-! ## Numbers in values -/

namespace Json

mutual

/-- Whether every number in a value is an integer of sixty-four bits or a finite double. -/
def inRange : Json → Bool
  | .num n => n.inRange
  | .arr items => inRangeItems items
  | .obj members => inRangeMembers members
  | _ => true

def inRangeItems : List Json → Bool
  | [] => true
  | x :: xs => inRange x && inRangeItems xs

def inRangeMembers : List (String × Json) → Bool
  | [] => true
  | (_, x) :: xs => inRange x && inRangeMembers xs

end

/-- An array is in range when its items are. -/
theorem inRange_arr {items : List Json} :
    inRange (.arr items) = true ↔ ∀ x ∈ items, inRange x = true := by
  rw [inRange]
  induction items with
  | nil => simp [inRangeItems]
  | cons x rest ih => rw [inRangeItems, Bool.and_eq_true, ih, List.forall_mem_cons]

/-- An object is in range when its values are. -/
theorem inRange_obj {members : List (String × Json)} :
    inRange (.obj members) = true ↔ ∀ m ∈ members, inRange m.2 = true := by
  rw [inRange]
  induction members with
  | nil => simp [inRangeMembers]
  | cons m rest ih => rw [inRangeMembers, Bool.and_eq_true, ih, List.forall_mem_cons]

end Json

end ObjectQuery
