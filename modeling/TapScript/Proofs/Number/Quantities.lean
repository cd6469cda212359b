import TapScript.Decimal.Binary
import TapScript.Proofs.Number.Range

/-! # What doubles stand for

A double that is a number stands for a rational or for one of the infinities. It has one pair of
mantissa and exponent for what it stands for, so two doubles are equal exactly if they stand for one
quantity, and a double is equal to an integer exactly if it stands for that.
-/

namespace TapScript

namespace Double

open Float.Model (UnpackedFloat Format)
open Float.Model.UnpackedFloat
open Decimal (Binary)

/-- What a number stands for. -/
inductive Quantity
  | finite (q : ℚ)
  | infinite (negative : Bool)

/-- What a double, taken apart, stands for. -/
def quantityOf : UnpackedFloat → Option Quantity
  | .finite s m e _ => some (.finite (s.apply m * 2 ^ e))
  | .zero _ => some (.finite 0)
  | .infinity s => some (.infinite (s == .negative))
  | .notANumber => none

/-- What a double stands for, if it is a number. -/
def quantity? (x : Float) : Option Quantity :=
  quantityOf x.toModel.unpack

variable {a b : UnpackedFloat} {s s' : Sign} {x y : Float} {m m' biased low : Nat} {e e' n : Int}
  {q : Quantity}

section Bits

/-- How a double is made up of its sign, its exponent as it is stored, and the bits of its mantissa
that are stored. -/
inductive IsMadeOf (s : Sign) (biased low : Nat) : UnpackedFloat → Prop
  | infinity (he : biased = 2047) (hl : low = 0) : IsMadeOf s biased low (.infinity s)
  | notANumber (he : biased = 2047) (hl : low ≠ 0) : IsMadeOf s biased low .notANumber
  | zero (he : biased = 0) (hl : low = 0) : IsMadeOf s biased low (.zero s)
  | small {m e hm} (he : biased = 0) (mantissa : m = low) (exponent : e = -1074) :
      IsMadeOf s biased low (.finite s m e hm)
  | normal {m e hm} (he : biased ≠ 0) (he' : biased ≠ 2047) (mantissa : m = low + 2 ^ 52)
      (exponent : e = (biased : Int) - 1075) : IsMadeOf s biased low (.finite s m e hm)

theorem toNat_unpackMantissa (b : BitVec 64) :
    (@unpackMantissa Format.binary64 b).toNat = b.toNat % 2 ^ 52 := by
  simp [unpackMantissa, BitVec.extractLsb]

theorem toNat_implicit (v : BitVec 52) : (1#1 ++ v).toNat = v.toNat + 2 ^ 52 := by
  have hone : (1#1).toNat = 1 := rfl
  rw [BitVec.toNat_append, hone, Nat.shiftLeft_eq, mul_comm,
    ← Nat.two_pow_add_eq_or_of_lt v.isLt, mul_one, add_comm]

theorem isMadeOf_unpack (b : BitVec 64) :
    IsMadeOf (.ofBitVec (@unpackSign Format.binary64 b)) (b.toNat / 2 ^ 52 % 2 ^ 11)
      (b.toNat % 2 ^ 52) (unpack Format.binary64 b) := by
  have hbias : (Format.binary64.exponentBias : Int) + Format.binary64.mantissaBitsWithoutImplicit =
      1075 := by
    norm_num [Format.exponentBias]
  have hzero : (@unpackMantissa Format.binary64 b) = 0#52 ↔
      (@unpackMantissa Format.binary64 b).toNat = 0 := BitVec.toNat_inj.symm
  rw [← toNat_unpackExponent, ← toNat_unpackMantissa, unpack, hbias]
  dsimp only
  split
  · next he =>
    have he : (@unpackExponent Format.binary64 b).toNat = 2047 := congrArg BitVec.toNat he
    split
    · next hl => exact .infinity he (hzero.mp hl)
    · next hl => exact .notANumber he (mt hzero.mpr hl)
  · next he =>
    have he : (@unpackExponent Format.binary64 b).toNat ≠ 2047 := fun h =>
      he (BitVec.eq_of_toNat_eq h)
    split
    · next hz =>
      have hz : (@unpackExponent Format.binary64 b).toNat = 0 := congrArg BitVec.toNat hz
      split
      · next hl => exact .zero hz (hzero.mp hl)
      · exact .small hz rfl (by rw [hz]; norm_num)
    · next hz =>
      have hz : (@unpackExponent Format.binary64 b).toNat ≠ 0 := fun h =>
        hz (BitVec.eq_of_toNat_eq h)
      exact .normal hz he (toNat_implicit _) rfl

theorem signOf_eq_negative (b : BitVec 64) :
    (Sign.ofBitVec (@unpackSign Format.binary64 b) == .negative) = decide (2 ^ 63 ≤ b.toNat) := by
  have hsign : (@unpackSign Format.binary64 b).toNat = b.toNat / 2 ^ 63 % 2 := by
    simp [unpackSign, BitVec.extractLsb, Nat.shiftRight_eq_div_pow]
  have hzero : @unpackSign Format.binary64 b = 0#1 ↔ b.toNat < 2 ^ 63 := by
    rw [← BitVec.toNat_inj, hsign, BitVec.toNat_ofNat]
    have := b.isLt
    omega
  unfold Sign.ofBitVec
  split
  · next h => exact (decide_eq_false (not_le.mpr (hzero.mp h))).symm
  · next h => exact (decide_eq_true (not_lt.mp (mt hzero.mpr h))).symm

end Bits

/-! ### One form for each quantity -/

/-- Whether a finite double has all the bits in its mantissa that its exponent leaves room for. -/
def IsCanonical : UnpackedFloat → Prop
  | .finite _ m e _ => m < 2 ^ 53 ∧ (2 ^ 52 ≤ m ∨ e = -1074) ∧ -1074 ≤ e
  | _ => True

theorem IsMadeOf.isCanonical (h : IsMadeOf s biased low a) (hl : low < 2 ^ 52) : IsCanonical a := by
  cases h with
  | small he hm hexp => exact ⟨by omega, .inr hexp, hexp.ge⟩
  | normal he he' hm hexp => exact ⟨by omega, .inl (by omega), by omega⟩
  | _ => trivial

theorem isCanonical_unpack (x : Float) : IsCanonical x.toModel.unpack :=
  (isMadeOf_unpack _).isCanonical (Nat.mod_lt _ (by decide))

theorem exponent_le (hm : m < 2 ^ 53) (hm' : 2 ^ 52 ≤ m' ∨ e' = -1074) (he : -1074 ≤ e)
    (h : (m : ℚ) * 2 ^ e = m' * 2 ^ e') : e' ≤ e := by
  by_contra hlt
  have hm' : ((2 ^ 52 : Nat) : ℚ) ≤ m' := Nat.cast_le.mpr (hm'.resolve_right (by omega))
  have hm : (m : ℚ) < (2 ^ 53 : Nat) := Nat.cast_lt.mpr hm
  have hpow : (2 : ℚ) ^ (e + 1) ≤ 2 ^ e' := zpow_le_zpow_right₀ (by norm_num) (by omega)
  refine h.not_lt ?_
  calc (m : ℚ) * 2 ^ e
      < (2 ^ 53 : Nat) * 2 ^ e := mul_lt_mul_of_pos_right hm (by positivity)
    _ = (2 ^ 52 : Nat) * 2 ^ (e + 1) := by
      rw [zpow_add_one₀ (by norm_num)]
      push_cast
      ring
    _ ≤ m' * 2 ^ e' := mul_le_mul hm' hpow (by positivity) (by positivity)

theorem eq_of_value_eq {hm : 0 < m} {hm' : 0 < m'} (h : IsCanonical (.finite s m e hm))
    (h' : IsCanonical (.finite s' m' e' hm'))
    (hv : ((s.apply m : Int) : ℚ) * 2 ^ e = (s'.apply m' : Int) * 2 ^ e') :
    s = s' ∧ m = m' ∧ e = e' := by
  have hpos : (0 : ℚ) < m * 2 ^ e := by positivity
  have hpos' : (0 : ℚ) < m' * 2 ^ e' := by positivity
  obtain ⟨rfl, hv'⟩ : s = s' ∧ (m : ℚ) * 2 ^ e = m' * 2 ^ e' := by
    cases s <;> cases s' <;> simp only [Sign.apply, Int.cast_neg, Int.cast_natCast, neg_mul] at hv
    · exact ⟨rfl, neg_inj.mp hv⟩
    · linarith
    · linarith
    · exact ⟨rfl, hv⟩
  obtain ⟨hlt, hfull, hle⟩ := h
  obtain ⟨hlt', hfull', hle'⟩ := h'
  obtain rfl : e = e' :=
    le_antisymm (exponent_le hlt' hfull hle' hv'.symm) (exponent_le hlt hfull' hle hv')
  have hm : (m : ℚ) = m' := mul_right_cancel₀ (by positivity) hv'
  exact ⟨rfl, Nat.cast_injective hm, rfl⟩

theorem apply_ne_zero (hm : 0 < m) : ((s.apply m : Int) : ℚ) * 2 ^ e ≠ 0 := by
  refine mul_ne_zero (Int.cast_ne_zero.mpr ?_) (by positivity)
  cases s <;> simp only [Sign.apply] <;> omega

/-- Two doubles have one value exactly if they stand for one quantity. -/
theorem haveOneValue_iff (ha : IsCanonical a) (hb : IsCanonical b) :
    HaveOneValue a b ↔ ∃ q, quantityOf a = some q ∧ quantityOf b = some q := by
  constructor
  · intro h
    cases h with
    | infinity s => exact ⟨_, rfl, rfl⟩
    | zero s s' => exact ⟨_, rfl, rfl⟩
    | finite s m e hm => exact ⟨_, rfl, rfl⟩
  · rintro ⟨q, hq, hq'⟩
    cases a with
    | notANumber => cases hq
    | infinity s =>
      cases hq
      cases b with
      | infinity s' =>
        cases s <;> cases s'
        · exact .infinity _
        · cases hq'
        · cases hq'
        · exact .infinity _
      | _ => cases hq'
    | zero s =>
      cases hq
      cases b with
      | zero s' => exact .zero s s'
      | finite s' m e hm =>
        exact absurd (Quantity.finite.inj (Option.some.inj hq')) (apply_ne_zero hm)
      | _ => cases hq'
    | finite s m e hm =>
      cases hq
      cases b with
      | zero s' => exact absurd (Quantity.finite.inj (Option.some.inj hq')).symm (apply_ne_zero hm)
      | finite s' m' e' hm' =>
        obtain ⟨rfl, rfl, rfl⟩ :=
          eq_of_value_eq ha hb (Quantity.finite.inj (Option.some.inj hq')).symm
        exact .finite _ _ _ _
      | _ => cases hq'

theorem beq_iff_quantity : (x == y) = true ↔ ∃ q, quantity? x = some q ∧ quantity? y = some q :=
  float_beq_iff.trans (haveOneValue_iff (isCanonical_unpack x) (isCanonical_unpack y))

/-! ### Integers -/

/-- What a double stands for, seen from its parts as they are read off its bits. -/
def quantityOfParts : Binary → Option Quantity
  | .finite negative m e => some (.finite ((Binary.signed negative m : Int) * 2 ^ e))
  | .infinite negative => some (.infinite negative)
  | .nan => none

theorem signed_eq (s : Sign) (m : Nat) : Binary.signed (s == .negative) m = s.apply m := by
  cases s <;> rfl

theorem apply_zero (s : Sign) : s.apply 0 = 0 := by
  cases s <;> rfl

theorem quantity?_eq (x : Float) : quantity? x = quantityOfParts (.ofFloat x) := by
  have hmade := isMadeOf_unpack x.toBits.toBitVec
  have hsign := signOf_eq_negative x.toBits.toBitVec
  change IsMadeOf _ (x.toBits.toNat / 2 ^ 52 % 2 ^ 11) (x.toBits.toNat % 2 ^ 52)
    x.toModel.unpack at hmade
  change _ = decide (2 ^ 63 ≤ x.toBits.toNat) at hsign
  unfold quantity? Binary.ofFloat
  dsimp only
  simp only [Nat.pow_eq]
  rw [← hsign]
  generalize x.toModel.unpack = a at hmade
  cases hmade with
  | infinity he hl =>
    rw [if_pos he, if_pos hl]
    rfl
  | notANumber he hl =>
    rw [if_pos he, if_neg hl]
    rfl
  | zero he hl =>
    rw [if_neg (by omega), if_pos he, hl]
    simp [quantityOf, quantityOfParts, signed_eq, apply_zero]
  | small he hm hexp =>
    rw [if_neg (by omega), if_pos he, ← hm, ← hexp, quantityOfParts, signed_eq]
    rfl
  | normal he he' hm hexp =>
    rw [if_neg he', if_neg he, ← hm, ← hexp, quantityOfParts, signed_eq]
    rfl

/-- An integer is equal to a double exactly if the double stands for it. -/
theorem compareInt_eq_iff : Decimal.compareInt n x = some .eq ↔ quantity? x = some (.finite n) := by
  rw [quantity?_eq]
  unfold Decimal.compareInt
  cases Binary.ofFloat x with
  | nan => exact iff_of_false nofun nofun
  | infinite negative => cases negative <;> exact iff_of_false nofun nofun
  | finite negative m e =>
    simp only [quantityOfParts, Option.some.injEq, Quantity.finite.injEq]
    generalize Binary.signed negative m = v
    have eq_iff {i j : Int} : compare i j = .eq ↔ j = i := compare_eq_iff_eq.trans eq_comm
    split
    · next he =>
      -- the power of two is a whole number
      obtain ⟨k, rfl⟩ := Int.eq_ofNat_of_zero_le he
      rw [eq_iff, Int.toNat_natCast, zpow_natCast, ← Int.cast_inj (α := ℚ)]
      simp
    · next he =>
      -- the power of two is a fraction, so the integer is multiplied instead
      obtain ⟨k, hk⟩ := Int.eq_ofNat_of_zero_le (by omega : 0 ≤ -e)
      obtain rfl : e = -k := by omega
      rw [eq_iff, neg_neg, Int.toNat_natCast, zpow_neg, zpow_natCast, ← div_eq_mul_inv,
        div_eq_iff (by positivity), ← Int.cast_inj (α := ℚ)]
      simp

end Double

end TapScript
