import TapScript.Decimal.Binary
import TapScript.Proofs.Number.Rounding

/-! # The range of doubles

The double of a numeral is finite exactly if the numeral is below the overflow, whatever its
spelling: a power of ten is multiplied or divided exactly before the one rounding there is, and the
numerals that are not worked out because they are far too great or far too small are so.
-/

namespace TapScript

namespace Double

open Float.Model (UnpackedFloat Format)
open Float.Model.UnpackedFloat

variable {a b : UnpackedFloat} {s : Sign} {m : Nat} {e : Int} {x y : Float}

section Bits

theorem toNat_unpackExponent (b : BitVec 64) :
    (@unpackExponent Format.binary64 b).toNat = b.toNat / 2 ^ 52 % 2 ^ 11 := by
  simp [unpackExponent, BitVec.extractLsb, Nat.shiftRight_eq_div_pow]

/-- What the parts of a finite double can be. -/
theorem unpack_eq_finite {b : BitVec 64} {hm : 0 < m}
    (h : unpack Format.binary64 b = .finite s m e hm) : m < 2 ^ 53 ∧
      e = max (((@unpackExponent Format.binary64 b).toNat : Int) - 1075) (-1074) ∧ e ≤ 971 := by
  have hfinite : (@unpackExponent Format.binary64 b).toNat ≠ 2047 := by
    apply isFinite_unpack_iff.mp
    rw [h]
    rfl
  have hle : (@unpackExponent Format.binary64 b).toNat < 2048 := BitVec.isLt _
  have hlow : (@unpackMantissa Format.binary64 b).toNat < 2 ^ 52 := BitVec.isLt _
  have hbias : (Format.binary64.exponentBias : Int) + Format.binary64.mantissaBitsWithoutImplicit =
      1075 := by
    norm_num [Format.exponentBias]
  rw [unpack, hbias] at h
  dsimp only at h
  split at h
  · split at h <;> cases h
  split at h
  · next hzero =>
    rw [hzero] at h ⊢
    split at h <;> cases h
    refine ⟨hlow.trans (by norm_num), by norm_num, by norm_num⟩
  · next hzero =>
    have hpos : (@unpackExponent Format.binary64 b).toNat ≠ 0 := fun h0 =>
      hzero (BitVec.eq_of_toNat_eq h0)
    cases h
    refine ⟨?_, by omega, by omega⟩
    exact BitVec.isLt _

/-- An exponent does not grow when a number is put together and taken apart again. -/
theorem exponent_unpack_pack {s' : Sign} {m' : Nat} {e' : Int} {hm : 0 < m} {hm' : 0 < m'}
    (h : (Float.Model.pack (.finite s m e hm)).unpack = .finite s' m' e' hm') :
    e' ≤ max e (-1074) := by
  have hfits : e ≤ 971 := by
    have hf := isFinite_pack_iff (a := .finite s m e hm)
    rw [h] at hf
    exact hf.mp rfl
  have he : (@unpackExponent Format.binary64 (pack Format.binary64 (.finite s m e hm))).toNat ≤
      (e + 1075).toNat := by
    unfold pack
    dsimp only
    rw [biased_eq]
    split
    · next hb =>
      replace hb : 2048 ≤ (e + 1075).toNat + 1 := hb
      omega
    split
    · rw [unpackExponent_packComponents, BitVec.toNat_ofNat]
      exact Nat.mod_le _ _
    · simp
  obtain ⟨-, he', -⟩ := unpack_eq_finite h
  change e' = max (((@unpackExponent Format.binary64
    (pack Format.binary64 (.finite s m e hm))).toNat : Int) - 1075) (-1074) at he'
  omega

end Bits

section Quotients

variable {m₁ m₂ : Nat} {e₁ e₂ : Int}

/-- The exponent that a quotient is worked out to. -/
def quotientExponent (m₁ m₂ : Nat) (e₁ e₂ : Int) : Int :=
  min (e₁ - e₂) (max (m₁.log2 + e₁ - (m₂.log2 + e₂) - 53) (-1074))

theorem divCore_eq {t : Int} (ht : quotientExponent m₁ m₂ e₁ e₂ = t) :
    divCore Format.binary64 m₁ e₁ m₂ e₂ = (m₁ * 2 ^ (e₁ - e₂ - t).toNat / m₂, t,
      accuracyOfFraction (m₁ * 2 ^ (e₁ - e₂ - t).toNat % m₂) m₂) := by
  have htarget : min (e₁ - e₂) (Format.binary64.targetExponent
      (Float.Model.totalExponent m₁ e₁ - Float.Model.totalExponent m₂ e₂)) = t := by
    rw [← ht]
    simp only [quotientExponent, Format.targetExponent, Float.Model.totalExponent,
      Format.mantissaBits, Format.minExponent]
    norm_num
    omega
  rw [divCore, htarget, Nat.shiftLeft_eq]

/-- A quotient is worked out far enough to be rounded right. -/
theorem quotientExponent_le {t : Int} (ht : quotientExponent m₁ m₂ e₁ e₂ = t) (h₁ : 0 < m₁)
    (h₂ : 0 < m₂) :
    t ≤ max ((m₁ * 2 ^ (e₁ - e₂ - t).toNat / m₂).log2 + t - 52) (-1074) := by
  by_cases hsub : t ≤ -1074
  · exact hsub.trans (le_max_right _ _)
  have hle : m₂.log2 + 53 ≤ m₁.log2 + (e₁ - e₂ - t).toNat := by
    unfold quotientExponent at ht
    omega
  have hq : 2 ^ 52 ≤ m₁ * 2 ^ (e₁ - e₂ - t).toNat / m₂ := by
    rw [Nat.le_div_iff_mul_le h₂]
    calc 2 ^ 52 * m₂
        ≤ 2 ^ 52 * 2 ^ (m₂.log2 + 1) := Nat.mul_le_mul_left _ Nat.lt_log2_self.le
      _ = 2 ^ (m₂.log2 + 53) := by rw [← pow_add]; congr 1; omega
      _ ≤ 2 ^ (m₁.log2 + (e₁ - e₂ - t).toNat) := Nat.pow_le_pow_right (by decide) hle
      _ = 2 ^ m₁.log2 * 2 ^ (e₁ - e₂ - t).toNat := pow_add _ _ _
      _ ≤ m₁ * 2 ^ (e₁ - e₂ - t).toNat := Nat.mul_le_mul_right _ (Nat.log2_self_le h₁.ne')
  have hlog : 52 ≤ (m₁ * 2 ^ (e₁ - e₂ - t).toNat / m₂).log2 :=
    (Nat.le_log2 (by omega)).mpr hq
  omega

/-- A quotient is finite if it is below the overflow. -/
theorem isFinite_div_iff {s₁ s₂ : Sign} {h₁ : 0 < m₁} {h₂ : 0 < m₂} :
    (Float.Model.pack (div Format.binary64 (.finite s₁ m₁ e₁ h₁)
      (.finite s₂ m₂ e₂ h₂))).unpack.isFinite = true ↔
        (m₁ : ℚ) * 2 ^ e₁ / (m₂ * 2 ^ e₂) < overflow := by
  generalize ht : quotientExponent m₁ m₂ e₁ e₂ = t
  rw [div, divCore_eq ht]
  have hk : e₁ = (e₁ - e₂ - t).toNat + (e₂ + t) := by
    unfold quotientExponent at ht
    omega
  have hp : (2 : ℚ) ^ e₁ = 2 ^ (e₁ - e₂ - t).toNat * (2 ^ e₂ * 2 ^ t) := by
    rw [← zpow_natCast, ← zpow_add₀ (by norm_num), ← zpow_add₀ (by norm_num), ← hk]
  rw [isFinite_round_iff (Represents.quotient _ h₂) (quotientExponent_le ht h₁ h₂), hp]
  refine iff_of_eq (congrArg (· < overflow) ?_)
  have : (m₂ : ℚ) ≠ 0 := by exact_mod_cast h₂.ne'
  push_cast
  field_simp

/-- A product is finite if it is below the overflow. -/
theorem isFinite_mul_iff {s₁ s₂ : Sign} {h₁ : 0 < m₁} {h₂ : 0 < m₂}
    (he : e₁ + e₂ ≤ max ((m₁ * m₂).log2 + (e₁ + e₂) - 52) (-1074)) :
    (Float.Model.pack (mul Format.binary64 (.finite s₁ m₁ e₁ h₁)
      (.finite s₂ m₂ e₂ h₂))).unpack.isFinite = true ↔
        (m₁ : ℚ) * 2 ^ e₁ * (m₂ * 2 ^ e₂) < overflow := by
  rw [mul, isFinite_round_iff (.exact _) he, zpow_add₀ (by norm_num)]
  push_cast
  ring_nf

end Quotients

section Decimals

theorem overflow_le_pow : overflow ≤ 10 ^ 310 := by
  have h : (2 : ℚ) ^ 205 ≤ 10 ^ 62 := by norm_num
  calc overflow
      ≤ 2 ^ 1024 := sub_le_self _ (by positivity)
    _ ≤ 2 ^ (205 * 5) := pow_le_pow_right₀ (by norm_num) (by norm_num)
    _ = (2 ^ 205) ^ 5 := pow_mul _ _ _
    _ ≤ (10 ^ 62) ^ 5 := by gcongr
    _ = 10 ^ 310 := (pow_mul _ _ _).symm

theorem pow_lt_overflow {k : Nat} (hk : k ≤ 1022) : (2 : ℚ) ^ k < overflow := by
  refine lt_of_lt_of_le ?_ le_overflow
  rw [show (970 : Int) = (970 : Nat) by rfl, zpow_natCast, ← pow_add]
  exact pow_lt_pow_right₀ (by norm_num) (by omega)

theorem isFinite_mul_power (hm : m ≠ 0) (k : Nat) {s₁ s₂ : Sign} {h₁ : 0 < m <<< 53}
    {h₂ : 0 < 10 ^ k} : (Float.Model.pack (mul Format.binary64 (.finite s₁ (m <<< 53) (-53) h₁)
      (.finite s₂ (10 ^ k) 0 h₂))).unpack.isFinite = true ↔ (m : ℚ) * 10 ^ k < overflow := by
  have hpos : 1 ≤ m * 10 ^ k := Nat.mul_pos (Nat.pos_of_ne_zero hm) h₂
  have hlog : 53 ≤ (m <<< 53 * 10 ^ k).log2 := by
    rw [Nat.shiftLeft_eq, mul_right_comm]
    refine (Nat.le_log2 (by positivity)).mpr ?_
    exact Nat.le_mul_of_pos_left _ hpos
  rw [isFinite_mul_iff (by omega), Nat.shiftLeft_eq]
  refine iff_of_eq (congrArg (· < overflow) ?_)
  push_cast
  rw [zpow_neg, show (53 : Int) = (53 : Nat) by rfl, zpow_natCast]
  ring

theorem overflow_pos : 0 < overflow :=
  (pow_pos (by norm_num) 0).trans (pow_lt_overflow (by decide))

/-- A decimal is worked out exactly before it is rounded. -/
theorem isFinite_ofScientific_model : (Float.Model.ofScientific m e).unpack.isFinite = true ↔
    (m : ℚ) * 10 ^ e < overflow := by
  unfold Float.Model.ofScientific ofScientific
  split
  · next h =>
    subst h
    have := pow_lt_overflow (Nat.zero_le 1022)
    refine iff_of_true rfl ?_
    rw [Nat.cast_zero, zero_mul]
    linarith
  next hm =>
  have hpos : (1 : ℚ) ≤ m := by exact_mod_cast Nat.one_le_iff_ne_zero.mpr hm
  split
  · next h =>
    refine iff_of_false (by decide) (not_lt.mpr ?_)
    calc overflow
        ≤ 10 ^ 310 := overflow_le_pow
      _ = 10 ^ (310 : Int) := rfl
      _ ≤ 10 ^ e := zpow_le_zpow_right₀ (by norm_num) (by norm_num at h; omega)
      _ ≤ m * 10 ^ e := le_mul_of_one_le_left (by positivity) hpos
  split
  · next h =>
    refine iff_of_true rfl ?_
    have hlt : (m : ℚ) < 2 ^ (m.log2 + 1) := by exact_mod_cast Nat.lt_log2_self
    have hle : (2 : ℚ) ^ (m.log2 + 1) ≤ 10 ^ (m.log2 + 1) := by gcongr; norm_num
    calc (m : ℚ) * 10 ^ e
        ≤ 10 ^ (m.log2 + 1) * 10 ^ e := by gcongr; exact (hlt.trans_le hle).le
      _ = 10 ^ ((m.log2 + 1 : Nat) + e) := by rw [zpow_add₀ (by norm_num), zpow_natCast]
      _ ≤ 10 ^ (0 : Int) := zpow_le_zpow_right₀ (by norm_num) (by norm_num at h; omega)
      _ < overflow := pow_lt_overflow (k := 0) (by decide)
  split
  · next h =>
    obtain ⟨k, rfl⟩ := Int.eq_ofNat_of_zero_le h
    rw [zpow_natCast]
    exact isFinite_mul_power hm k
  · next h =>
    obtain ⟨k, rfl⟩ : ∃ k : Nat, e = -k := ⟨(-e).toNat, by omega⟩
    rw [isFinite_div_iff]
    refine iff_of_eq (congrArg (· < overflow) ?_)
    simp [div_eq_mul_inv]

end Decimals

section Powers

/-- Whether a number is far from overflowing, as a mantissa of up to sixteen digits is. -/
def IsModest : UnpackedFloat → Prop
  | .finite _ m e _ => m < 2 ^ 53 ∧ e ≤ 60
  | .zero _ => True
  | _ => False

/-- Whether a number has a mantissa of full length, and is far from overflowing. -/
def isPower : UnpackedFloat → Bool
  | .finite _ m e _ => decide (2 ^ 52 ≤ m ∧ m < 2 ^ 53 ∧ -60 ≤ e ∧ e ≤ 60)
  | _ => false

theorem isPower_table : ∀ e : Fin 23,
    isPower (Float.exactlyRepresentablePowersOfTen[e]).toModel.unpack = true := by
  decide

theorem isModest_pack (h : ExponentLE 60 a) : IsModest (Float.Model.pack a).unpack := by
  have hfinite : (Float.Model.pack a).unpack.isFinite = true := by
    apply isFinite_pack_iff.mpr
    cases a with
    | finite s m e hm => exact Int.le_trans h (by decide)
    | zero s => trivial
    | notANumber => cases h
    | infinity s => cases h
  cases hu : (Float.Model.pack a).unpack with
  | notANumber => rw [hu] at hfinite; cases hfinite
  | infinity s => rw [hu] at hfinite; cases hfinite
  | zero s => trivial
  | finite s m e hm =>
    refine ⟨(unpack_eq_finite hu).1, ?_⟩
    cases a with
    | finite s' m' e' hm' => exact (exponent_unpack_pack hu).trans (max_le h (by decide))
    | zero s' => cases s' <;> cases hu
    | notANumber => cases h
    | infinity s' => cases h

theorem exponentLE_normalize {n : Nat} (hn : n < 2 ^ 64) :
    ExponentLE 60 (UnpackedFloat.normalize Format.binary64 n 0 .positive) := by
  unfold UnpackedFloat.normalize
  split
  · next h => exact absurd (Int.compare_eq_lt.mp h) (by omega)
  · trivial
  · next h =>
    have hpos : n ≠ 0 := by
      have := Int.compare_eq_gt.mp h
      omega
    have rounded (k : Nat) : ExponentLE 60
        (roundWithAccuracy Format.binary64 .positive (n <<< k) (0 - k) .exact) := by
      have hlog : (n <<< k).log2 < 64 + k := by
        rw [Nat.shiftLeft_eq]
        refine (Nat.log2_lt (by positivity)).mpr ?_
        rw [pow_add]
        exact Nat.mul_lt_mul_of_pos_right hn (by positivity)
      refine (exponentLE_round_iff (.exact _) rfl).mpr (.inr (.inl ?_))
      unfold shift
      omega
    exact rounded _

theorem isModest_toFloat (n : UInt64) : IsModest n.toFloat.toModel.unpack :=
  isModest_pack (exponentLE_normalize n.toNat_lt)

theorem modest_lt {m : Nat} {e : Int} (hm : m < 2 ^ 53) (he : e ≤ 60) :
    (m : ℚ) * 2 ^ e < 2 ^ 113 := by
  have hm : (m : ℚ) < 2 ^ 53 := by exact_mod_cast hm
  calc (m : ℚ) * 2 ^ e
      < 2 ^ 53 * 2 ^ (60 : Int) :=
        mul_lt_mul hm (zpow_le_zpow_right₀ (by norm_num) he) (by positivity) (by positivity)
    _ = 2 ^ 113 := by norm_num

theorem isFinite_mul_modest (ha : IsModest a) (hb : isPower b = true) :
    (Float.Model.pack (mul Format.binary64 a b)).unpack.isFinite = true := by
  cases b with
  | finite s₂ m₂ e₂ h₂ =>
    obtain ⟨hlow, hm₂, -, he₂⟩ := of_decide_eq_true hb
    cases a with
    | zero s => exact isFinite_pack_iff.mpr trivial
    | finite s₁ m₁ e₁ h₁ =>
      obtain ⟨hm₁, he₁⟩ := ha
      have hlog : 52 ≤ (m₁ * m₂).log2 :=
        (Nat.le_log2 (by positivity)).mpr (hlow.trans (Nat.le_mul_of_pos_left _ h₁))
      refine (isFinite_mul_iff (by omega)).mpr ?_
      calc (m₁ : ℚ) * 2 ^ e₁ * (m₂ * 2 ^ e₂)
          < 2 ^ 113 * 2 ^ 113 := by
            refine mul_lt_mul'' (modest_lt hm₁ he₁) (modest_lt hm₂ he₂) ?_ ?_ <;> positivity
        _ = 2 ^ 226 := by rw [← pow_add]
        _ < overflow := pow_lt_overflow (by decide)
    | notANumber => cases ha
    | infinity s => cases ha
  | _ => cases hb

theorem isFinite_div_modest (ha : IsModest a) (hb : isPower b = true) :
    (Float.Model.pack (div Format.binary64 a b)).unpack.isFinite = true := by
  cases b with
  | finite s₂ m₂ e₂ h₂ =>
    obtain ⟨hlow, -, he₂, -⟩ := of_decide_eq_true hb
    cases a with
    | zero s => exact isFinite_pack_iff.mpr trivial
    | finite s₁ m₁ e₁ h₁ =>
      obtain ⟨hm₁, he₁⟩ := ha
      refine isFinite_div_iff.mpr ?_
      have hb : (1 : ℚ) / 2 ^ 8 ≤ m₂ * 2 ^ e₂ := by
        calc (1 : ℚ) / 2 ^ 8
            = 2 ^ 52 * 2 ^ (-60 : Int) := by norm_num
          _ ≤ (m₂ : ℚ) * 2 ^ e₂ := by
            refine mul_le_mul ?_ (zpow_le_zpow_right₀ (by norm_num) he₂) ?_ ?_
            · exact_mod_cast hlow
            · positivity
            · positivity
      rw [div_lt_iff₀ (by positivity)]
      calc (m₁ : ℚ) * 2 ^ e₁
          < 2 ^ 113 := modest_lt hm₁ he₁
        _ = 2 ^ 121 * (1 / 2 ^ 8) := by norm_num
        _ ≤ overflow * (m₂ * 2 ^ e₂) :=
          mul_le_mul (pow_lt_overflow (by decide)).le hb (by positivity)
            ((by positivity : (0 : ℚ) ≤ 2 ^ 121).trans (pow_lt_overflow (by decide)).le)
    | notANumber => cases ha
    | infinity s => cases ha
  | _ => cases hb

end Powers

/-- The double of a decimal is finite if the decimal is below the overflow. -/
theorem isFinite_ofScientific_iff (m : Nat) (negative : Bool) (k : Nat) :
    (Float.ofScientific m negative k).isFinite = true ↔
      (m : ℚ) * 10 ^ (if negative then -(k : Int) else k) < overflow := by
  unfold Float.ofScientific
  split
  · next h =>
    obtain ⟨hm, hk⟩ := h
    have hp := isPower_table ⟨k, by omega⟩
    refine iff_of_true ?_ ?_
    · split
      · exact isFinite_div_modest (isModest_toFloat _) hp
      · exact isFinite_mul_modest (isModest_toFloat _) hp
    · have hm : (m : ℚ) < 2 ^ 53 := by exact_mod_cast hm
      have hexp : (if negative then -(k : Int) else k) ≤ 22 := by
        split <;> omega
      calc (m : ℚ) * 10 ^ (if negative then -(k : Int) else k)
          < 2 ^ 53 * 10 ^ (22 : Int) :=
            mul_lt_mul hm (zpow_le_zpow_right₀ (by norm_num) hexp) (by positivity) (by positivity)
        _ ≤ 2 ^ 127 := by norm_num
        _ < overflow := pow_lt_overflow (by decide)
  · cases negative with
    | true =>
      have h := isFinite_ofScientific_model (m := m) (e := Int.negOfNat k)
      rw [show Int.negOfNat k = -(k : Int) from Int.negOfNat_eq] at h
      exact h
    | false => exact isFinite_ofScientific_model

/-- A double of a finite one is finite if the exponent fits, as that of its opposite does. -/
theorem isFinite_neg (x : Float) : (-x).isFinite = x.isFinite := by
  rw [Bool.eq_iff_iff]
  change (Float.Model.pack x.toModel.unpack.neg).unpack.isFinite = true ↔
    x.toModel.unpack.isFinite = true
  rw [isFinite_pack_iff]
  cases hu : x.toModel.unpack with
  | finite s m e hm => exact iff_of_true (unpack_eq_finite hu).2.2 rfl
  | zero s => exact iff_of_true trivial rfl
  | infinity s => exact iff_of_false id Bool.false_ne_true
  | notANumber => exact iff_of_false id Bool.false_ne_true

theorem unpack_sixteen : ∃ s m e h, (16 : Float).toModel.unpack = .finite s m e h ∧
    (m : ℚ) * 2 ^ e = 16 := by
  refine ⟨.positive, 2 ^ 52, -48, by decide, rfl, ?_⟩
  norm_num

theorem isFinite_div_sixteen (x : Float) : (x / 16).isFinite = x.isFinite := by
  rw [Bool.eq_iff_iff]
  change (Float.Model.pack (div Format.binary64 x.toModel.unpack
    (16 : Float).toModel.unpack)).unpack.isFinite = true ↔ x.toModel.unpack.isFinite = true
  obtain ⟨s, m, e, h, h16, hvalue⟩ := unpack_sixteen
  rw [h16]
  cases hu : x.toModel.unpack with
  | finite s₁ m₁ e₁ h₁ =>
    obtain ⟨hm, -, he⟩ := unpack_eq_finite hu
    refine iff_of_true (isFinite_div_iff.mpr ?_) rfl
    have hm : (m₁ : ℚ) < 2 ^ 53 := by exact_mod_cast hm
    rw [hvalue, div_lt_iff₀ (by norm_num)]
    calc (m₁ : ℚ) * 2 ^ e₁
        ≤ 2 ^ 53 * 2 ^ (971 : Int) :=
          mul_le_mul hm.le (zpow_le_zpow_right₀ (by norm_num) he) (by positivity) (by positivity)
      _ = 2 ^ 53 * 2 ^ (970 : Int) * 2 := by
        rw [show (971 : Int) = 970 + 1 by rfl, zpow_add_one₀ (by norm_num), mul_assoc]
      _ ≤ overflow * 2 := mul_le_mul_of_nonneg_right le_overflow (by norm_num)
      _ < overflow * 16 := mul_lt_mul_of_pos_left (by norm_num) overflow_pos
  | zero s => exact iff_of_true (isFinite_pack_iff.mpr trivial) rfl
  | infinity s => exact iff_of_false isFinite_pack_iff.mp Bool.false_ne_true
  | notANumber => exact iff_of_false isFinite_pack_iff.mp Bool.false_ne_true

/-- A double has a floor if it is finite. -/
theorem isSome_floor? (x : Float) : (Decimal.floor? x).isSome = x.isFinite := by
  rw [Bool.eq_iff_iff]
  change _ ↔ (unpack Format.binary64 x.toModel.toBits.toBitVec).isFinite = true
  rw [isFinite_unpack_iff, toNat_unpackExponent]
  unfold Decimal.floor? Decimal.Binary.ofFloat
  change _ ↔ x.toBits.toNat / 2 ^ 52 % 2 ^ 11 ≠ 2047
  simp only [Nat.pow_eq]
  by_cases hb : x.toBits.toNat / 2 ^ 52 % 2 ^ 11 = 2047
  · refine iff_of_false ?_ (not_not.mpr hb)
    rw [if_pos hb]
    by_cases hlow : x.toBits.toNat % 2 ^ 52 = 0
    · rw [if_pos hlow]
      exact Bool.false_ne_true
    · rw [if_neg hlow]
      exact Bool.false_ne_true
  · refine iff_of_true ?_ hb
    rw [if_neg hb]
    by_cases hz : x.toBits.toNat / 2 ^ 52 % 2 ^ 11 = 0
    · rw [if_pos hz]
      rfl
    · rw [if_neg hz]
      rfl

end Double

namespace Numeral

open Double

variable {m : Nat} {e : Int}

/-- What a numeral stands for, without its sign. -/
def magnitude (n : Numeral) : ℚ :=
  Text.digitsValue (n.whole ++ n.fraction) * 10 ^ (n.exponent - n.fraction.length)

theorem lt_pow_size (m : Nat) : (m : ℚ) < 10 ^ ((Nat.toDigits 10 m).length : Int) := by
  have h := (Nat.length_toDigits_le_iff (n := m) (b := 10) (by decide)
    Nat.length_toDigits_pos).mp (le_refl _)
  rw [zpow_natCast]
  exact_mod_cast h

theorem pow_size_le (hm : m ≠ 0) : (10 : ℚ) ^ ((Nat.toDigits 10 m).length - 1 : Int) ≤ m := by
  have hpos : 0 < (Nat.toDigits 10 m).length := Nat.length_toDigits_pos
  rw [show ((Nat.toDigits 10 m).length - 1 : Int) = ((Nat.toDigits 10 m).length - 1 : Nat) by omega,
    zpow_natCast]
  by_cases h : (Nat.toDigits 10 m).length = 1
  · rw [h, Nat.sub_self, pow_zero]
    exact_mod_cast Nat.one_le_iff_ne_zero.mpr hm
  · have hle := (Nat.length_toDigits_le_iff (n := m) (k := (Nat.toDigits 10 m).length - 1)
      (b := 10) (by decide) (by omega)).not.mp (by omega)
    exact_mod_cast not_lt.mp hle

/-- The numerals that are not worked out are rounded right all the same. -/
theorem isFinite_scale_iff : (scale m e).isFinite = true ↔ (m : ℚ) * 10 ^ e < overflow := by
  unfold scale
  dsimp only
  split
  · next hm =>
    refine iff_of_true rfl ?_
    rw [hm, Nat.cast_zero, zero_mul]
    exact overflow_pos
  next hm =>
  split
  · next h =>
    refine iff_of_false (by decide) (not_lt.mpr ?_)
    calc overflow
        ≤ 10 ^ (310 : Int) := overflow_le_pow
      _ ≤ 10 ^ ((Nat.toDigits 10 m).length - 1 + e) :=
        zpow_le_zpow_right₀ (by norm_num) (by omega)
      _ = 10 ^ ((Nat.toDigits 10 m).length - 1 : Int) * 10 ^ e := zpow_add₀ (by norm_num) _ _
      _ ≤ m * 10 ^ e := mul_le_mul_of_nonneg_right (pow_size_le hm) (by positivity)
  split
  · next h =>
    refine iff_of_true rfl ?_
    calc (m : ℚ) * 10 ^ e
        ≤ 10 ^ ((Nat.toDigits 10 m).length : Int) * 10 ^ e :=
          mul_le_mul_of_nonneg_right (lt_pow_size m).le (by positivity)
      _ = 10 ^ ((Nat.toDigits 10 m).length + e) := (zpow_add₀ (by norm_num) _ _).symm
      _ ≤ 10 ^ (0 : Int) := zpow_le_zpow_right₀ (by norm_num) (by omega)
      _ < overflow := pow_lt_overflow (k := 0) (by decide)
  · have he : (if decide (e < 0) then -(e.natAbs : Int) else e.natAbs) = e := by
      by_cases h : e < 0
      · rw [if_pos (decide_eq_true h)]
        omega
      · rw [if_neg (by simp [h])]
        omega
    rw [isFinite_ofScientific_iff, he]

/-- The double of a numeral is finite if the numeral is below the overflow. -/
theorem isFinite_toFloat_iff (n : Numeral) :
    n.toFloat.isFinite = true ↔ n.magnitude < overflow := by
  rw [magnitude, ← isFinite_scale_iff, toFloat]
  split
  · rw [isFinite_neg]
  · rfl

end Numeral

end TapScript
