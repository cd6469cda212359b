import TapScript.Proofs.Check.Judging
import TapScript.Proofs.Number.Doubles
import TapScript.Proofs.Number.Spelling

/-! # Loose equality of labels

A label is a text, or nothing when the element has none. The check for equality relates two texts
that are the same or that write one number, and nothing to itself alone. Three ways to compare are
mixed here, by what the two labels are, and still the relation is an equivalence: a text that writes
no numeral is related to itself alone, and on the others the numbers decide.
-/

namespace TapScript

/-- The value of a label. -/
def Value.ofLabel : Option String → Value
  | some s => .text s
  | Option.none => .none

/-- Whether two texts write numerals of one number. -/
def Numeral.WriteOneNumber (s t : String) : Prop :=
  ∃ m n : Numeral, m.Spells s.toList ∧ n.Spells t.toList ∧ m.HaveOneDouble n

/-- Whether a check accepts one label where another is asked for. -/
def Check.Relates (h : Regex.Host) (k : Check) (a b : Option String) : Prop :=
  k.run h [.ofLabel a, .ofLabel b] = .ok ()

/-- Whether a check compares labels loosely. -/
structure Check.IsLoose (h : Regex.Host) (k : Check) : Prop where
  decides (a b : Option String) : k.Relates h a b ∨
    ∃ m, k.mismatch (.ofLabel a) (.ofLabel b) = .ok m ∧
      k.run h [.ofLabel a, .ofLabel b] = .error (.mismatch m {})
  equivalence : Equivalence (k.Relates h)
  none_iff (b : Option String) : k.Relates h none b ↔ b = none
  text_iff (s t : String) : k.Relates h (some s) (some t) ↔ s = t ∨ Numeral.WriteOneNumber s t
  of_strict (a b : Option String) : Check.strictEqual.Relates h a b → k.Relates h a b

variable {h : Regex.Host} {a b c : Option String} {r s t : String}

namespace Numeral

theorem WriteOneNumber.symm (h : WriteOneNumber s t) : WriteOneNumber t s := by
  obtain ⟨m, n, hm, hn, he⟩ := h
  exact ⟨n, m, hn, hm, haveOneDouble_equivalence.symm he⟩

/-- The text between two pairs writes one numeral, so both pairs are about its number. -/
theorem WriteOneNumber.trans (h : WriteOneNumber r s) (h' : WriteOneNumber s t) :
    WriteOneNumber r t := by
  obtain ⟨l, m, hl, hm, he⟩ := h
  obtain ⟨m', n, hm', hn, he'⟩ := h'
  obtain rfl := hm.unique hm'
  exact ⟨l, n, hl, hn, haveOneDouble_equivalence.trans he he'⟩

end Numeral

namespace Value

theorem same_ofLabel : (ofLabel a).same (ofLabel b) = true ↔ a = b := by
  cases a <;> cases b <;> simp [ofLabel, same, sameScalar, integer?]

theorem not_isUnwritable_ofLabel : ¬(ofLabel a).IsUnwritable := by
  cases a <;> rintro ⟨⟩

/-- Two labels that differ are equal only as two texts that write one number. -/
theorem looselyEqual_ofLabel : ∃ same, (ofLabel a).looselyEqual (ofLabel b) = .ok same ∧
    (same = true ↔ a = b ∨ ∃ s t, a = some s ∧ b = some t ∧ Numeral.WriteOneNumber s t) := by
  unfold looselyEqual
  by_cases hab : a = b
  · rw [if_pos (same_ofLabel.mpr hab)]
    exact ⟨_, rfl, iff_of_true rfl (.inl hab)⟩
  rw [if_neg (mt same_ofLabel.mp hab), or_iff_right hab]
  cases a with
  | none => exact ⟨_, rfl, by simp⟩
  | some s =>
    cases b with
    | none => exact ⟨_, rfl, by simp⟩
    | some t =>
      refine ⟨_, rfl, ?_⟩
      simp only [Text.looselyEqual, Numeral.WriteOneNumber, Numeral.HaveOneDouble,
        ← Numeral.ofText?_eq_some_iff]
      cases hs : Numeral.ofText? s <;> cases ht : Numeral.ofText? t <;> simp_all

end Value

namespace Check

theorem relates_equal_iff : equal.Relates h a b ↔
    a = b ∨ ∃ s t, a = some s ∧ b = some t ∧ Numeral.WriteOneNumber s t := by
  obtain ⟨same, hs, hiff⟩ := Value.looselyEqual_ofLabel (a := a) (b := b)
  rw [Relates, run_pair rfl, judge_eq_ok_iff, ← hiff]
  simp [passes, hs]

theorem relates_strictEqual_iff : strictEqual.Relates h a b ↔ a = b := by
  rw [Relates, run_pair rfl, judge_eq_ok_iff]
  simp [passes, Value.same_ofLabel]

theorem relates_equal_symm (hab : equal.Relates h a b) : equal.Relates h b a := by
  rw [relates_equal_iff] at hab ⊢
  obtain rfl | ⟨s, t, rfl, rfl, hst⟩ := hab
  · exact .inl rfl
  · exact .inr ⟨t, s, rfl, rfl, hst.symm⟩

theorem relates_equal_trans (hab : equal.Relates h a b) (hbc : equal.Relates h b c) :
    equal.Relates h a c := by
  rw [relates_equal_iff] at hab hbc ⊢
  obtain rfl | ⟨s, t, rfl, rfl, hst⟩ := hab
  · exact hbc
  obtain rfl | ⟨s', u, ht, rfl, hsu⟩ := hbc
  · exact .inr ⟨s, t, rfl, rfl, hst⟩
  · obtain rfl := Option.some.inj ht
    exact .inr ⟨s, u, rfl, rfl, hst.trans hsu⟩

theorem isLoose_equal : equal.IsLoose h where
  decides a b := by
    obtain ⟨same, hs, -⟩ := Value.looselyEqual_ofLabel (a := a) (b := b)
    have hp : equal.passes h (.ofLabel a) (.ofLabel b) = .ok same := by
      rw [passes, hs]
      rfl
    obtain ⟨m, hm, hj⟩ :=
      judge_of_passes hp Value.not_isUnwritable_ofLabel Value.not_isUnwritable_ofLabel
    rw [Relates, run_pair rfl, hj]
    cases same with
    | true => exact .inl rfl
    | false => exact .inr ⟨m, hm, rfl⟩
  equivalence :=
    ⟨fun _ => relates_equal_iff.mpr (.inl rfl), relates_equal_symm, relates_equal_trans⟩
  none_iff b := by simp [relates_equal_iff, eq_comm]
  text_iff s t := by simp [relates_equal_iff]
  of_strict a b hab := relates_equal_iff.mpr (.inl (relates_strictEqual_iff.mp hab))

/-- Numbers are compared by an equivalence, and so are labels by the check for equality. -/
theorem equal_equivalence (h : Regex.Host) :
    Equivalence Numeral.HaveOneDouble ∧ equal.IsLoose h :=
  ⟨Numeral.haveOneDouble_equivalence, isLoose_equal⟩

example : equal.Relates h (some "+1.50") (some "15e-1") := rfl

end Check

end TapScript
