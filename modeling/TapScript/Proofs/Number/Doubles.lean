import Mathlib
import TapScript.Numeral

/-! # Doubles of numerals

Doubles are compared by value: infinities by their sign, zeros without it, and all others by sign,
mantissa and exponent. Only what is no number is not equal to itself, so comparing is an equivalence
on numbers. The double of a numeral is one: it is rounded, or it is the product or the quotient of a
number and a power of ten, which is finite and not zero.
-/

namespace TapScript

namespace Double

open Float.Model (UnpackedFloat Format)
open Float.Model.UnpackedFloat

variable {a b c : UnpackedFloat} {x y z : Float}

section Comparison

/-- Whether two doubles, taken apart, have one value. What is no number has none. -/
inductive HaveOneValue : UnpackedFloat → UnpackedFloat → Prop
  | infinity (s) : HaveOneValue (.infinity s) (.infinity s)
  | zero (s s') : HaveOneValue (.zero s) (.zero s')
  | finite (s m e h) : HaveOneValue (.finite s m e h) (.finite s m e h)

theorem HaveOneValue.refl (h : a ≠ .notANumber) : HaveOneValue a a := by
  cases a with
  | notANumber => exact absurd rfl h
  | infinity s => exact .infinity s
  | zero s => exact .zero s s
  | finite s m e hm => exact .finite s m e hm

theorem HaveOneValue.symm (h : HaveOneValue a b) : HaveOneValue b a := by
  cases h with
  | infinity s => exact .infinity s
  | zero s s' => exact .zero s' s
  | finite s m e hm => exact .finite s m e hm

theorem HaveOneValue.trans (h : HaveOneValue a b) (h' : HaveOneValue b c) :
    HaveOneValue a c := by
  cases h with
  | infinity s => exact h'
  | finite s m e hm => exact h'
  | zero s s' =>
    cases h' with
    | zero _ s'' => exact .zero s s''

theorem compare_then_eq_eq {m m' : Nat} {e e' : Int} :
    (compare e e').then (compare m m') = .eq ↔ e = e' ∧ m = m' := by
  simp [Ordering.then_eq_eq]

theorem beq_iff_haveOneValue : a.beq b = true ↔ HaveOneValue a b := by
  rw [UnpackedFloat.beq, beq_iff_eq]
  constructor
  · intro h
    cases a with
    | notANumber => cases h
    | infinity s =>
      cases b with
      | infinity s' =>
        cases s <;> cases s'
        · exact .infinity _
        · cases h
        · cases h
        · exact .infinity _
      | _ => cases s <;> cases h
    | zero s =>
      cases b with
      | zero s' => exact .zero s s'
      | notANumber => cases h
      | _ s' => cases s' <;> cases h
    | finite s m e hm =>
      cases b with
      | finite s' m' e' hm' =>
        -- Numbers of different signs are never equal; of one sign, exponents and mantissas decide.
        cases s <;> cases s' <;>
          simp only [UnpackedFloat.compare, Option.some.injEq, Ordering.swap_eq_eq,
            compare_then_eq_eq] at h
        · obtain ⟨rfl, rfl⟩ := h
          exact .finite _ m e hm
        · cases h
        · cases h
        · obtain ⟨rfl, rfl⟩ := h
          exact .finite _ m e hm
      | notANumber => cases s <;> cases h
      | infinity s' => cases s <;> cases s' <;> cases h
      | zero s' => cases s <;> cases h
  · intro h
    cases h with
    | infinity s => cases s <;> rfl
    | zero s s' => rfl
    | finite s m e hm => cases s <;> simp [UnpackedFloat.compare]

/-- Whether a double is a number, be it infinite. -/
def IsNumber (x : Float) : Prop :=
  x.toModel.unpack ≠ .notANumber

theorem float_beq_iff : (x == y) = true ↔ HaveOneValue x.toModel.unpack y.toModel.unpack :=
  beq_iff_haveOneValue

theorem beq_refl (h : IsNumber x) : (x == x) = true :=
  float_beq_iff.mpr (.refl h)

theorem beq_symm (h : (x == y) = true) : (y == x) = true :=
  float_beq_iff.mpr (float_beq_iff.mp h).symm

theorem beq_trans (h : (x == y) = true) (h' : (y == z) = true) : (x == z) = true :=
  float_beq_iff.mpr ((float_beq_iff.mp h).trans (float_beq_iff.mp h'))

end Comparison

section Arithmetic

/-- Only the greatest exponent is kept for the infinities and for what is not a number. -/
theorem isFinite_unpack_iff {b : BitVec 64} : (unpack Format.binary64 b).isFinite = true ↔
    (@unpackExponent Format.binary64 b).toNat ≠ 2047 := by
  have he : (@unpackExponent Format.binary64 b) = -1#11 ↔
      (@unpackExponent Format.binary64 b).toNat = 2047 := by
    rw [← BitVec.toNat_inj]
    rfl
  rw [unpack]
  dsimp only
  split
  · next h =>
    refine iff_of_false ?_ (not_not.mpr (he.mp h))
    split <;> simp [isFinite]
  · next h =>
    refine iff_of_true ?_ (fun h' => h (he.mpr h'))
    split
    · split <;> rfl
    · rfl

theorem isFinite_unpack_components {e : BitVec 11} (he : e ≠ -1#11) (s m) :
    (unpack Format.binary64 (packComponents Format.binary64 s e m)).isFinite = true := by
  rw [isFinite_unpack_iff, unpackExponent_packComponents]
  exact fun h => he (BitVec.eq_of_toNat_eq h)

theorem unpack_infinity (s) :
    unpack Format.binary64 (packedInfinity Format.binary64 s) = .infinity s := by
  simp [unpack, packedInfinity]

/-- A number stays one when it is put together and taken apart again. -/
theorem unpack_pack_ne (h : a ≠ .notANumber) : (Float.Model.pack a).unpack ≠ .notANumber := by
  have finite {b : UnpackedFloat} (hb : b.isFinite = true) : b ≠ .notANumber := by
    rintro rfl
    cases hb
  have infinite (s) : unpack Format.binary64 (packedInfinity Format.binary64 s) ≠ .notANumber := by
    rw [unpack_infinity]
    nofun
  change unpack Format.binary64 (pack Format.binary64 a) ≠ .notANumber
  fun_cases pack Format.binary64 a with
  | case1 => exact absurd rfl h
  | case2 s => exact infinite s
  | case3 s => exact finite (isFinite_unpack_components (by decide) s 0)
  | case4 s m e hm biased hb => exact infinite s
  | case5 s m e hm bits biased hb hn =>
    -- The exponent of a finite number is below the one that is kept for infinities.
    refine finite (isFinite_unpack_components (fun he => ?_) s _)
    have he : biased % 2048 = 2047 := congrArg BitVec.toNat he
    replace hb : ¬ 2048 ≤ biased + 1 := hb
    omega
  | case6 s m e hm bits biased hb hn =>
    exact finite (isFinite_unpack_components (by decide) s _)

theorem roundWithAccuracy_ne (f : Format) (s m e acc) :
    roundWithAccuracy f s m e acc ≠ .notANumber := by
  simp only [roundWithAccuracy, ne_eq]
  split <;> nofun

theorem normalize_ne (f : Format) (m e s) : UnpackedFloat.normalize f m e s ≠ .notANumber := by
  unfold UnpackedFloat.normalize
  split
  · exact roundWithAccuracy_ne f _ _ _ _
  · nofun
  · exact roundWithAccuracy_ne f _ _ _ _

/-- Whether a double, taken apart, is finite and not zero. -/
def isProper : UnpackedFloat → Bool
  | .finite .. => true
  | _ => false

theorem mul_ne (f : Format) (ha : a ≠ .notANumber) (hb : isProper b = true) :
    mul f a b ≠ .notANumber := by
  cases b with
  | finite s m e h =>
    cases a with
    | notANumber => exact absurd rfl ha
    | finite => exact roundWithAccuracy_ne f _ _ _ _
    | _ => nofun
  | _ => cases hb

theorem div_ne (f : Format) (ha : a ≠ .notANumber) (hb : isProper b = true) :
    div f a b ≠ .notANumber := by
  cases b with
  | finite s m e h =>
    cases a with
    | notANumber => exact absurd rfl ha
    | finite => exact roundWithAccuracy_ne f _ _ _ _
    | _ => nofun
  | _ => cases hb

theorem ofScientific_ne (f : Format) (m e) : ofScientific f m e ≠ .notANumber := by
  unfold ofScientific
  split
  · nofun
  split
  · nofun
  split
  · nofun
  split
  · exact mul_ne f nofun rfl
  · exact div_ne f nofun rfl

theorem isProper_power : ∀ e : Fin 23,
    isProper (Float.exactlyRepresentablePowersOfTen[e]).toModel.unpack = true := by
  decide

theorem isNumber_ofScientific (m : Nat) (s : Bool) (e : Nat) :
    IsNumber (Float.ofScientific m s e) := by
  unfold Float.ofScientific
  split
  · next h =>
    have hp := isProper_power ⟨e, by omega⟩
    have hm : IsNumber m.toUInt64.toFloat := unpack_pack_ne (normalize_ne _ _ _ _)
    split
    · exact unpack_pack_ne (div_ne _ hm hp)
    · exact unpack_pack_ne (mul_ne _ hm hp)
  · exact unpack_pack_ne (ofScientific_ne _ _ _)

theorem isNumber_neg (h : IsNumber x) : IsNumber (-x) := by
  have neg_ne {a : UnpackedFloat} (ha : a ≠ .notANumber) : a.neg ≠ .notANumber := by
    cases a with
    | notANumber => exact absurd rfl ha
    | _ => nofun
  exact unpack_pack_ne (neg_ne h)

end Arithmetic

end Double

namespace Numeral

open Double

theorem isNumber_scale (m : Nat) (e : Int) : IsNumber (scale m e) := by
  unfold scale
  dsimp only
  split
  · exact isNumber_ofScientific 0 false 0
  split
  · intro h
    cases h
  split
  · exact isNumber_ofScientific 0 false 0
  · exact isNumber_ofScientific m _ _

/-- The double of a numeral is a number. -/
theorem isNumber_toFloat (n : Numeral) : IsNumber n.toFloat := by
  unfold toFloat
  dsimp only
  split
  · exact isNumber_neg (isNumber_scale _ _)
  · exact isNumber_scale _ _

/-- Whether two numerals have equal doubles. -/
def HaveOneDouble (m n : Numeral) : Prop :=
  (m.toFloat == n.toFloat) = true

theorem haveOneDouble_equivalence : Equivalence HaveOneDouble where
  refl n := beq_refl n.isNumber_toFloat
  symm h := beq_symm h
  trans h h' := beq_trans h h'

end Numeral

end TapScript
