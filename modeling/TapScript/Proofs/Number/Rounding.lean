import TapScript.Proofs.Number.Doubles

/-! # Rounding to doubles

A number is rounded by shifting its mantissa to the right, up to the exponent that a double of its
size has, and by rounding the mantissa with what was shifted out. The shifts lose nothing that the
rounding needs. So it can be told from the number alone whether the double overflows: the least
number that does is half a step above the greatest double.
-/

namespace TapScript

namespace Double

open Float.Model (UnpackedFloat Format totalExponent)
open Float.Model.UnpackedFloat

theorem roundedMantissa_le (em : ExtendedMantissa) : em.roundedMantissa ≤ em.mantissa + 1 := by
  obtain ⟨m, r, s⟩ := em
  cases r <;> cases s <;>
    simp [ExtendedMantissa.roundedMantissa, ExtendedMantissa.accuracy, Accuracy.roundToNearestEven]
  omega

/-- What a mantissa with its residual bits stands for: a number up to the next mantissa, of which it
is known how it compares with the mantissa and with the half above it. -/
inductive Represents : ExtendedMantissa → ℚ → Prop
  | exact (m : Nat) : Represents ⟨m, false, false⟩ m
  | below {m : Nat} {x : ℚ} (least : m < x) (half : x < m + 1 / 2) : Represents ⟨m, false, true⟩ x
  | half (m : Nat) : Represents ⟨m, true, false⟩ (m + 1 / 2)
  | above {m : Nat} {x : ℚ} (half : m + 1 / 2 < x) (next : x < m + 1) :
      Represents ⟨m, true, true⟩ x

namespace Represents

variable {em : ExtendedMantissa} {x : ℚ}

theorem le (h : Represents em x) : em.mantissa ≤ x := by
  cases h with
  | exact m => exact le_refl _
  | below least half => exact least.le
  | half m => simp
  | above half next => linarith

theorem lt (h : Represents em x) : x < em.mantissa + 1 := by
  cases h with
  | exact m => simp
  | below least half => linarith
  | half m => norm_num
  | above half next => exact next

theorem shiftRightOne (h : Represents em x) : Represents em.shiftRightOne (x / 2) := by
  have parity (m : Nat) : ∃ k, m = 2 * k ∨ m = 2 * k + 1 := ⟨m / 2, by omega⟩
  have even (k : Nat) : 2 * k / 2 = k ∧ (2 * k % 2 != 0) = false := by
    refine ⟨by omega, ?_⟩
    simp
  have odd (k : Nat) : (2 * k + 1) / 2 = k ∧ ((2 * k + 1) % 2 != 0) = true := by
    refine ⟨by omega, ?_⟩
    simp
  unfold ExtendedMantissa.shiftRightOne
  cases h with
  | exact m =>
    obtain ⟨k, rfl | rfl⟩ := parity m
    · simp only [even, Bool.or_false]
      convert Represents.exact k using 1
      push_cast
      ring
    · simp only [odd, Bool.or_false]
      convert Represents.half k using 1
      push_cast
      ring
  | @below m x least half =>
    obtain ⟨k, rfl | rfl⟩ := parity m
    · simp only [even, Bool.or_true]
      push_cast at least half
      exact .below (by linarith) (by linarith)
    · simp only [odd, Bool.or_true]
      push_cast at least half
      exact .above (by linarith) (by linarith)
  | half m =>
    obtain ⟨k, rfl | rfl⟩ := parity m
    · simp only [even, Bool.or_false]
      refine .below ?_ ?_ <;> push_cast <;> linarith
    · simp only [odd, Bool.or_false]
      refine .above ?_ ?_ <;> push_cast <;> linarith
  | @above m x half next =>
    obtain ⟨k, rfl | rfl⟩ := parity m
    · simp only [even, Bool.or_true]
      push_cast at half next
      exact .below (by linarith) (by linarith)
    · simp only [odd, Bool.or_true]
      push_cast at half next
      exact .above (by linarith) (by linarith)

theorem shiftRight (h : Represents em x) (n : Nat) : Represents (em >>> n) (x / 2 ^ n) := by
  change Represents (n.repeat ExtendedMantissa.shiftRightOne em) _
  induction n with
  | zero => simpa [Nat.repeat] using h
  | succ n ih =>
    rw [Nat.repeat, pow_succ, ← div_div]
    exact ih.shiftRightOne

/-- A mantissa is rounded up to an even number from half below that number on. -/
theorem even_le_rounded {n : Nat} (hn : Even n) (h : Represents em x) :
    n ≤ em.roundedMantissa ↔ (n : ℚ) - 1 / 2 ≤ x := by
  have cast {a b : Nat} (hab : (a : ℚ) < b + 1) : a ≤ b := by
    have : a < b + 1 := by exact_mod_cast hab
    omega
  cases h with
  | exact m =>
    change n ≤ m ↔ _
    refine ⟨fun hm => ?_, fun hm => cast (by linarith)⟩
    have : (n : ℚ) ≤ m := by exact_mod_cast hm
    linarith
  | @below m x least half =>
    change n ≤ m ↔ _
    refine ⟨fun hm => ?_, fun hm => cast (by linarith)⟩
    have : (n : ℚ) ≤ m := by exact_mod_cast hm
    linarith
  | half m =>
    change n ≤ m + m % 2 ↔ _
    refine ⟨fun hm => ?_, fun hm => ?_⟩
    · have : (n : ℚ) ≤ m + 1 := by exact_mod_cast hm.trans (by omega)
      linarith
    · have hm : n ≤ m + 1 := cast (by push_cast; linarith)
      obtain ⟨k, rfl⟩ := hn
      omega
  | @above m x half next =>
    change n ≤ m + 1 ↔ _
    refine ⟨fun hm => ?_, fun hm => cast (by push_cast; linarith)⟩
    have : (n : ℚ) ≤ m + 1 := by exact_mod_cast hm
    linarith

/-- A quotient is represented by the whole part with what the remainder says of its rest. -/
theorem quotient (n : Nat) {d : Nat} (hd : 0 < d) : Represents
    (.ofMantissaAndAccuracy (n / d) (accuracyOfFraction (n % d) d)) ((n : ℚ) / d) := by
  have hq : (0 : ℚ) < d := by exact_mod_cast hd
  have hn : (n : ℚ) = d * (n / d : Nat) + (n % d : Nat) := by
    exact_mod_cast (Nat.div_add_mod n d).symm
  have hr : ((n % d : Nat) : ℚ) < d := by exact_mod_cast Nat.mod_lt n hd
  have hx : (n : ℚ) / d = (n / d : Nat) + ((n % d : Nat) : ℚ) / d := by
    rw [hn]
    field_simp
  rw [hx]
  unfold accuracyOfFraction
  split
  · next h =>
    rw [h, Nat.cast_zero, zero_div, add_zero]
    exact .exact _
  · next h =>
    have hpos : (0 : ℚ) < (n % d : Nat) := by exact_mod_cast Nat.pos_of_ne_zero h
    cases hc : compare (2 * (n % d)) d with
    | lt =>
      have : (2 : ℚ) * (n % d : Nat) < d := by exact_mod_cast Nat.compare_eq_lt.mp hc
      refine .below ?_ ?_
      · have := div_pos hpos hq
        linarith
      · have : ((n % d : Nat) : ℚ) / d < 1 / 2 := by
          rw [div_lt_div_iff₀ hq (by norm_num)]
          linarith
        linarith
    | eq =>
      have : (2 : ℚ) * (n % d : Nat) = d := by exact_mod_cast Nat.compare_eq_eq.mp hc
      have : ((n % d : Nat) : ℚ) / d = 1 / 2 := by
        rw [div_eq_div_iff hq.ne' (by norm_num)]
        linarith
      rw [this]
      exact .half _
    | gt =>
      have : (d : ℚ) < 2 * (n % d : Nat) := by exact_mod_cast Nat.compare_eq_gt.mp hc
      refine .above ?_ ?_
      · have : 1 / 2 < ((n % d : Nat) : ℚ) / d := by
          rw [div_lt_div_iff₀ (by norm_num) hq]
          linarith
        linarith
      · have : ((n % d : Nat) : ℚ) / d < 1 := (div_lt_one hq).mpr hr
        linarith

end Represents

variable {a : UnpackedFloat} {s : Sign} {m : Nat} {e : Int} {acc : Accuracy} {x : ℚ}

/-- Whether a number is finite and its exponent, if it has one, is at most a bound. -/
def ExponentLE (bound : Int) : UnpackedFloat → Prop
  | .finite _ _ e _ => e ≤ bound
  | .zero _ => True
  | _ => False

theorem biased_eq (e : Int) : (e + Format.binary64.exponentBias +
    Format.binary64.mantissaBitsWithoutImplicit).toNat = (e + 1075).toNat := by
  congr 1
  norm_num [Format.exponentBias]
  omega

/-- A number fits into a double as it is if its exponent is not that of the infinities. -/
theorem isFinite_pack_iff :
    (Float.Model.pack a).unpack.isFinite = true ↔ ExponentLE 971 a := by
  have infinite (s) :
      (unpack Format.binary64 (packedInfinity Format.binary64 s)).isFinite = false := by
    rw [unpack_infinity]
    rfl
  change (unpack Format.binary64 (pack Format.binary64 a)).isFinite = true ↔ _
  fun_cases pack Format.binary64 a with
  | case1 => exact iff_of_false (by decide) id
  | case2 s => exact iff_of_false (by simp [infinite]) id
  | case3 s => exact iff_of_true (isFinite_unpack_components (by decide) s 0) trivial
  | case4 s m e hm biased hb =>
    refine iff_of_false (by simp [infinite]) fun he => ?_
    replace hb : 2048 ≤ (e + 1075).toNat + 1 := biased_eq e ▸ hb
    replace he : e ≤ 971 := he
    omega
  | case5 s m e hm bits biased hb hn =>
    replace hb : ¬ 2048 ≤ (e + 1075).toNat + 1 := biased_eq e ▸ hb
    refine iff_of_true (isFinite_unpack_components (fun he => ?_) s _) (show e ≤ 971 by omega)
    have he : (e + 1075).toNat % 2048 = 2047 := biased_eq e ▸ congrArg BitVec.toNat he
    omega
  | case6 s m e hm bits biased hb hn =>
    replace hb : ¬ 2048 ≤ (e + 1075).toNat + 1 := biased_eq e ▸ hb
    exact iff_of_true (isFinite_unpack_components (by decide) s _) (show e ≤ 971 by omega)

/-- How far a mantissa is shifted, up to the exponent of a double of its size. -/
def shift (m : Nat) (e : Int) : Nat :=
  (max (m.log2 + e - 52) (-1074) - e).toNat

theorem shiftToTargetExponent_eq : shiftToTargetExponent Format.binary64 m e acc =
    (ExtendedMantissa.ofMantissaAndAccuracy m acc >>> shift m e, e + shift m e) := by
  have ht : Format.binary64.targetExponent (totalExponent m e) =
      max (m.log2 + e - 52) (-1074) := by
    simp only [Format.targetExponent, totalExponent, Format.mantissaBits, Format.minExponent]
    norm_num
    omega
  rw [shiftToTargetExponent, ht]
  rfl

theorem exponent_bounds (m : Nat) (e : Int) :
    -1074 ≤ e + shift m e ∧ m.log2 + e - 52 ≤ e + shift m e := by
  unfold shift
  omega

theorem mantissa_ofMantissaAndAccuracy (m : Nat) (acc : Accuracy) :
    (ExtendedMantissa.ofMantissaAndAccuracy m acc).mantissa = m := by
  cases acc with
  | exact => rfl
  | inexact o => cases o <;> rfl

theorem shifted_lt (hx : Represents (.ofMantissaAndAccuracy m acc) x) :
    x / 2 ^ shift m e < 2 ^ 53 := by
  have hm : m < 2 ^ (m.log2 + 1) := Nat.lt_log2_self
  have hp : 2 ^ (m.log2 + 1) ≤ 2 ^ (53 + shift m e) :=
    Nat.pow_le_pow_right (by decide) (by have := exponent_bounds m e; omega)
  have hmx := hx.lt
  rw [mantissa_ofMantissaAndAccuracy] at hmx
  have : (m : ℚ) + 1 ≤ 2 ^ 53 * 2 ^ shift m e := by
    rw [← pow_add]
    exact_mod_cast hm.trans_le hp
  rw [div_lt_iff₀ (by positivity)]
  linarith

theorem rounded_le (hx : Represents (.ofMantissaAndAccuracy m acc) x) :
    (ExtendedMantissa.ofMantissaAndAccuracy m acc >>> shift m e).roundedMantissa ≤ 2 ^ 53 := by
  have h := hx.shiftRight (shift m e)
  have hlt : ((ExtendedMantissa.ofMantissaAndAccuracy m acc >>> shift m e).mantissa : ℚ) <
      2 ^ 53 := h.le.trans_lt (shifted_lt hx)
  have hlt : (ExtendedMantissa.ofMantissaAndAccuracy m acc >>> shift m e).mantissa < 2 ^ 53 := by
    exact_mod_cast hlt
  have := roundedMantissa_le (ExtendedMantissa.ofMantissaAndAccuracy m acc >>> shift m e)
  omega

theorem shift_of_lt (hm : m < 2 ^ 53) (he : -1074 ≤ e) : shift m e = 0 := by
  have : m.log2 ≤ 52 := by
    by_cases h : m = 0
    · simp [h]
    · have := (Nat.log2_lt h).mpr hm
      omega
  unfold shift
  omega

theorem shift_carry (he : -1074 ≤ e) : shift (2 ^ 53) e = 1 := by
  unfold shift
  rw [Nat.log2_two_pow]
  omega

/-- A rounded mantissa needs no more than one shift, after a carry out of all its bits. -/
theorem roundWithAccuracy_eq (hx : Represents (.ofMantissaAndAccuracy m acc) x) {r : Nat}
    (hr : (ExtendedMantissa.ofMantissaAndAccuracy m acc >>> shift m e).roundedMantissa = r) :
    roundWithAccuracy Format.binary64 s m e acc =
      if h : r = 0 then .zero s
      else if r < 2 ^ 53 then .finite s r (e + shift m e) (Nat.pos_of_ne_zero h)
      else .finite s (2 ^ 52) (e + shift m e + 1) (by decide) := by
  have he := (exponent_bounds m e).1
  have hle : r ≤ 2 ^ 53 := hr ▸ rounded_le hx
  have last : ∀ em, shiftToTargetExponent Format.binary64 r (e + shift m e) .exact = em →
      roundWithAccuracy Format.binary64 s m e acc =
        if h : em.1.mantissa = 0 then .zero s
        else .finite s em.1.mantissa em.2 (Nat.pos_of_ne_zero h) := by
    rintro em rfl
    rw [roundWithAccuracy, shiftToTargetExponent_eq]
    dsimp only
    rw [hr]
  by_cases hlt : r < 2 ^ 53
  · have hs : shiftToTargetExponent Format.binary64 r (e + shift m e) .exact =
        (⟨r, false, false⟩, e + shift m e) := by
      rw [shiftToTargetExponent_eq, shift_of_lt hlt he]
      simp [HShiftRight.hShiftRight, Nat.repeat, ExtendedMantissa.ofMantissaAndAccuracy]
    rw [last _ hs]
    simp only [if_pos hlt]
  · obtain rfl : r = 2 ^ 53 := by omega
    have hs : shiftToTargetExponent Format.binary64 (2 ^ 53) (e + shift m e) .exact =
        (⟨2 ^ 52, false, false⟩, e + shift m e + 1) := by
      rw [shiftToTargetExponent_eq, shift_carry he]
      rfl
    rw [last _ hs]
    rfl

theorem exponentLE_round_iff (hx : Represents (.ofMantissaAndAccuracy m acc) x) {r : Nat}
    (hr : (ExtendedMantissa.ofMantissaAndAccuracy m acc >>> shift m e).roundedMantissa = r)
    {bound : Int} : ExponentLE bound (roundWithAccuracy Format.binary64 s m e acc) ↔
      r = 0 ∨ e + shift m e < bound ∨ e + shift m e = bound ∧ r < 2 ^ 53 := by
  rw [roundWithAccuracy_eq hx hr]
  split
  · next h => exact iff_of_true trivial (.inl h)
  · next h =>
    rw [or_iff_right h]
    split
    · change e + shift m e ≤ bound ↔ _
      omega
    · change e + shift m e + 1 ≤ bound ↔ _
      omega

/-- The least number that rounds to an infinity: half a step above the greatest double. -/
def overflow : ℚ :=
  2 ^ 1024 - 2 ^ 970

theorem overflow_eq : overflow = (2 ^ 53 - 1 / 2) * 2 ^ (971 : Int) := by
  have h : (2 : ℚ) ^ (971 : Int) = 2 * 2 ^ 970 := by
    rw [← pow_succ']
    rfl
  have h' : (2 : ℚ) ^ 1024 = 2 ^ 54 * 2 ^ 970 := by rw [← pow_add]
  rw [overflow, h, h']
  generalize (2 : ℚ) ^ 970 = u
  ring

theorem le_overflow : 2 ^ 53 * 2 ^ (970 : Int) ≤ overflow := by
  have hu : (0 : ℚ) < 2 ^ (970 : Int) := by positivity
  rw [overflow_eq, show (971 : Int) = 970 + 1 by rfl, zpow_add_one₀ (by norm_num)]
  generalize (2 : ℚ) ^ (970 : Int) = u at hu
  linarith

theorem overflow_le : overflow ≤ 2 ^ 52 * 2 ^ (972 : Int) := by
  have hu : (0 : ℚ) < 2 ^ (971 : Int) := by positivity
  rw [overflow_eq, show (972 : Int) = 971 + 1 by rfl, zpow_add_one₀ (by norm_num)]
  generalize (2 : ℚ) ^ (971 : Int) = u at hu
  linarith

theorem value_eq (x : ℚ) (e : Int) (k : Nat) :
    x * 2 ^ e = x / 2 ^ k * (2 : ℚ) ^ (e + k) := by
  rw [zpow_add₀ (by norm_num), zpow_natCast]
  field_simp

theorem pow_le_div {k : Nat} (hm : m ≠ 0) (hk : m.log2 = 52 + k) :
    (2 : ℚ) ^ 52 ≤ m / 2 ^ k := by
  rw [le_div_iff₀ (by positivity), ← pow_add, ← hk]
  exact_mod_cast Nat.log2_self_le hm

/-- A number that was not shifted too far already rounds to a finite double if it is below the
overflow. Just below it the exponent is the greatest there is, and rounding must not carry. -/
theorem isFinite_round_iff (hx : Represents (.ofMantissaAndAccuracy m acc) x)
    (he : e ≤ max (m.log2 + e - 52) (-1074)) :
    (Float.Model.pack (roundWithAccuracy Format.binary64 s m e acc)).unpack.isFinite = true ↔
      x * 2 ^ e < overflow := by
  have ht : e + shift m e = max (m.log2 + e - 52) (-1074) := by
    unfold shift
    omega
  have hy := hx.shiftRight (shift m e)
  have hlt := shifted_lt (e := e) hx
  rw [isFinite_pack_iff, exponentLE_round_iff hx rfl, value_eq x e (shift m e)]
  obtain hsmall | htop | hgreat : e + shift m e ≤ 970 ∨ e + shift m e = 971 ∨
      972 ≤ e + shift m e := by omega
  · refine iff_of_true (.inr (.inl (Int.lt_add_one_of_le hsmall))) (lt_of_lt_of_le ?_ le_overflow)
    exact mul_lt_mul hlt (zpow_le_zpow_right₀ (by norm_num) hsmall) (by positivity) (by positivity)
  · have carry := hy.even_le_rounded (n := 2 ^ 53) (by decide)
    rw [Nat.cast_pow, Nat.cast_ofNat] at carry
    replace carry := not_congr carry
    rw [not_le, not_le] at carry
    rw [htop, overflow_eq, mul_lt_mul_iff_left₀ (by positivity), ← carry]
    omega
  · have hlog : m.log2 = 52 + shift m e := by omega
    have hm : m ≠ 0 := by
      rintro rfl
      rw [Nat.log2_zero] at hlog
      omega
    have hle := hx.le
    rw [mantissa_ofMantissaAndAccuracy] at hle
    have hbig : (2 : ℚ) ^ 52 ≤ x / 2 ^ shift m e := (pow_le_div hm hlog).trans (by gcongr)
    have carry := hy.even_le_rounded (n := 2 ^ 52) (by decide)
    rw [Nat.cast_pow, Nat.cast_ofNat] at carry
    refine iff_of_false ?_ (not_lt.mpr (overflow_le.trans ?_))
    · have := carry.mpr (by linarith)
      omega
    · refine mul_le_mul hbig (zpow_le_zpow_right₀ (by norm_num) hgreat) (by positivity) ?_
      exact (by positivity : (0 : ℚ) ≤ 2 ^ 52).trans hbig

end Double

end TapScript
