import TapScript.AssertCommand
import TapScript.Proofs.Value.Writing

/-! # Judging by checks

A check that takes as many arguments as it is given passes, or reports what it found and what was
asked for, or cannot read its pattern. Of two opposite checks one passes where the other reports,
whatever there is to judge. What was found must have a text, unless the check passes without it.
-/

namespace TapScript

open Outcome

namespace Check

variable {h : Regex.Host} {k k' : Check} {actual expected label : Value} {m : Mishap}
  {rest : List Token}

/-- Whether a check takes what it is asked for as a pattern. -/
def isPatterned : Check → Bool
  | fits | fitsNot => true
  | _ => false

/-- Whether a check passes whatever is too large to be written. -/
def acceptsLarge : Check → Bool
  | notStrictEqual | truthy | isNotEmpty | isNotNull => true
  | _ => false

/-- What a command asks for after the element, as the check sees it. -/
def asked : List Token → Value
  | [] => .none
  | t :: _ => .text t.text

/-- Whether a check takes as many arguments as a command gives it after the element. -/
def Takes (k : Check) (rest : List Token) : Prop :=
  k.isBinary = true ↔ rest ≠ []

theorem isBinary_of_isPatterned (hk : k.isPatterned = true) : k.isBinary = true := by
  cases k with
  | fits | fitsNot => rfl
  | _ => cases hk

theorem not_isUnwritable_asked : ¬(asked rest).IsUnwritable := by
  cases rest <;> rintro ⟨⟩

section Judging

theorem judge_eq_ok_iff :
    k.judge h actual expected = .ok () ↔ k.passes h actual expected = .ok true := by
  unfold judge
  split <;> simp_all

/-- What has a text can be reported, in regard to something else that has one. -/
theorem exists_complaint (ha : ¬actual.IsUnwritable) (he : ¬expected.IsUnwritable) :
    ∃ s, k.complaint actual expected = .ok s := by
  obtain ⟨a, ha⟩ := Value.exists_shown_iff.mpr ha
  obtain ⟨e, hshown⟩ := Value.exists_shown_iff.mpr he
  obtain ⟨p, hplain⟩ := Value.exists_plain_iff.mpr he
  cases k <;> simp [complaint, unwished, uncompared, unmatched, ha, hshown, hplain, bind_eq_ok]

theorem eq_of_mismatch {m : Mismatch} (hm : k.mismatch actual expected = .ok m) :
    m.actual = actual ∧ m.expected = k.wanted expected := by
  unfold mismatch at hm
  cases hc : k.complaint actual expected <;> rw [hc] at hm <;> cases hm
  exact ⟨rfl, rfl⟩

theorem judge_of_passes {b : Bool} (hp : k.passes h actual expected = .ok b)
    (ha : ¬actual.IsUnwritable) (he : ¬expected.IsUnwritable) :
    ∃ m, k.mismatch actual expected = .ok m ∧
      k.judge h actual expected = if b then .ok () else .error (.mismatch m {}) := by
  obtain ⟨s, hs⟩ := exists_complaint (k := k) ha he
  have hm : k.mismatch actual expected = .ok ⟨s, actual, k.wanted expected⟩ := by
    rw [mismatch, hs]
    rfl
  refine ⟨_, hm, ?_⟩
  rw [judge, hp]
  cases b with
  | true => rfl
  | false => exact congrArg Except.error (by rw [failure, hm])

theorem exists_looselyEqual {s t : String} (ha : actual.plain = .ok s)
    (he : expected.plain = .ok t) : ∃ b, actual.looselyEqual expected = .ok b := by
  unfold Value.looselyEqual
  split
  · exact ⟨_, rfl⟩
  · split
    · exact ⟨_, rfl⟩
    · rw [ha, he]
      exact ⟨_, rfl⟩

theorem exists_included {s t : String} (ha : actual.plain = .ok s)
    (he : expected.plain = .ok t) : ∃ b, included actual expected = .ok b := by
  unfold included
  split
  · exact ⟨_, rfl⟩
  · rw [ha, he]
    exact ⟨_, rfl⟩

theorem search_eq_error_iff {s t : String} {e : Regex.Error} :
    Regex.search h s t = .error e ↔ Regex.Pattern.read h s = .error e := by
  rw [Regex.search, bind_eq_error]
  exact or_iff_left (by rintro ⟨p, -, ⟨⟩⟩)

theorem occurs_eq_error_iff (ha : ¬actual.IsUnwritable) {s : String}
    (hs : expected.plain = .ok s) : occurs h actual expected = .error m ↔
      actual.isNone = false ∧ ∃ e, Regex.Pattern.read h s = .error e ∧ m = .pattern e := by
  obtain ⟨a, ha⟩ := Value.exists_plain_iff.mpr ha
  unfold occurs
  cases actual.isNone with
  | true => simp
  | false =>
    simp only [Bool.false_eq_true, if_false, true_and, hs, ha, mapError_ok]
    show (Regex.search h s a).mapError Mishap.pattern = .error m ↔ _
    rw [mapError_eq_error]
    exact exists_congr fun e => and_congr search_eq_error_iff eq_comm

/-- A check cannot judge what has a text only where it has no pattern to match it with. -/
theorem passes_eq_error_iff (ha : ¬actual.IsUnwritable) {s : String}
    (hs : expected.plain = .ok s) : k.passes h actual expected = .error m ↔
      k.isPatterned = true ∧ actual.isNone = false ∧
        ∃ e, Regex.Pattern.read h s = .error e ∧ m = .pattern e := by
  rw [← occurs_eq_error_iff ha hs]
  obtain ⟨a, ha⟩ := Value.exists_plain_iff.mpr ha
  cases k with
  | fits => simp [passes, isPatterned]
  | fitsNot => cases ho : occurs h actual expected <;> simp [passes, isPatterned, ho, Except.map]
  | equal | notEqual =>
    obtain ⟨b, hb⟩ := exists_looselyEqual ha hs
    simp [passes, isPatterned, hb, Except.map]
  | includes | excludes =>
    obtain ⟨b, hb⟩ := exists_included ha hs
    simp [passes, isPatterned, hb, Except.map]
  | _ => simp [passes, isPatterned]

theorem complaint_of_isUnwritable (ha : actual.IsUnwritable) (hk : k ≠ isNotNull) :
    k.complaint actual expected = .error .tooLarge := by
  have hshown := Value.shown_eq_error_iff.mpr ⟨rfl, ha⟩
  cases k with
  | isNotNull => exact absurd rfl hk
  | _ =>
    simp only [complaint, unwished, uncompared, unmatched, hshown]
    rfl

theorem looselyEqual_of_isUnwritable (ha : actual.IsUnwritable) (s : String) :
    actual.looselyEqual (.text s) = .error .tooLarge := by
  have hn : (Value.text s).isNone = false := rfl
  simp only [Value.looselyEqual, ha.not_same_text, ha.isNone, hn,
    Value.plain_eq_error_iff.mpr ⟨rfl, ha⟩]
  rfl

theorem included_of_isUnwritable (ha : actual.IsUnwritable) (s : String) :
    included actual (.text s) = .error .tooLarge := by
  simp only [included, ha.isNone, Value.plain_eq_error_iff.mpr ⟨rfl, ha⟩]
  rfl

theorem occurs_of_isUnwritable (ha : actual.IsUnwritable) (s : String) :
    occurs h actual (.text s) = .error (.badInteger .tooLarge) := by
  simp only [occurs, ha.isNone, Value.plain_eq_error_iff.mpr ⟨rfl, ha⟩]
  rfl

/-- What is too large to be written passes or fails a check that can do without its text. -/
theorem passes_of_isUnwritable (ha : actual.IsUnwritable) (ht : k.Takes rest) :
    k.passes h actual (asked rest) = .ok k.acceptsLarge ∨
      k.acceptsLarge = false ∧ k.passes h actual (asked rest) = .error (.badInteger .tooLarge) := by
  cases rest with
  | nil =>
    cases k with
    | equal | notEqual | strictEqual | notStrictEqual | includes | excludes | fits | fitsNot =>
      exact absurd rfl (ht.mp rfl)
    | _ => simp [passes, acceptsLarge, ha.isNone, ha.isTruthy, ha.not_same_bool, ha.not_same_text]
  | cons t rest =>
    cases k with
    | equal | notEqual =>
    simp [passes, asked, acceptsLarge, looselyEqual_of_isUnwritable ha, Except.map]
    | includes | excludes =>
    simp [passes, asked, acceptsLarge, included_of_isUnwritable ha, Except.map]
    | fits | fitsNot => simp [passes, asked, acceptsLarge, occurs_of_isUnwritable ha, Except.map]
    | strictEqual | notStrictEqual => simp [passes, asked, acceptsLarge, ha.not_same_text]
    | _ => cases ht.mpr (List.cons_ne_nil t rest)

/-- What is too large to be written passes a check, or is not even reported. -/
theorem judge_of_isUnwritable (ha : actual.IsUnwritable) (ht : k.Takes rest) :
    k.judge h actual (asked rest) =
      if k.acceptsLarge then .ok () else .error (.mishap (.badInteger .tooLarge)) := by
  obtain hp | ⟨hk, hp⟩ := passes_of_isUnwritable (h := h) ha ht
  · rw [judge, hp]
    cases hk : k.acceptsLarge with
    | true => rfl
    | false =>
      have hn : k ≠ isNotNull := by
        rintro rfl
        cases hk
      simp [failure, mismatch, complaint_of_isUnwritable ha hn, Except.map]
  · rw [judge, hp, hk]
    rfl

end Judging

section Arguments

theorem mismatch?_eq_none_iff {n : Nat} :
    k.signature.mismatch? n = none ↔ n = if k.isBinary then 2 else 1 := by
  rw [Signature.mismatch?_eq_none_iff]
  cases k <;> simp [signature, isBinary, Signature.required] <;> omega

theorem takes_iff (label : Value) : k.Takes rest ↔
    k.signature.mismatch? (Driver.checkArgs label rest).length = none := by
  rw [mismatch?_eq_none_iff, Takes]
  cases rest <;> cases k.isBinary <;> simp [Driver.checkArgs]

theorem run_pair (hk : k.isBinary = true) :
    k.run h [actual, expected] = k.judge h actual expected := by
  have hn : k.signature.mismatch? [actual, expected].length = none :=
    mismatch?_eq_none_iff.mpr (by simp [hk])
  rw [run, hn]
  rfl

theorem run_of_takes (ht : k.Takes rest) :
    k.run h (Driver.checkArgs label rest) = k.judge h label (asked rest) := by
  rw [run, (takes_iff label).mp ht]
  cases rest <;> rfl

end Arguments

section Opposites

/-- The check that decides the same condition the other way, for one check of each pair. -/
def opposite? : Check → Option Check
  | equal => some notEqual
  | strictEqual => some notStrictEqual
  | truthy => some falsy
  | isNull => some isNotNull
  | isEmpty => some isNotEmpty
  | includes => some excludes
  | fits => some fitsNot
  | _ => none

theorem passes_opposite (hk : k.opposite? = some k') (actual expected : Value) :
    k'.passes h actual expected = (k.passes h actual expected).map (!·) := by
  cases k <;> cases hk <;> simp [passes, Except.map]

theorem isBinary_opposite (h : k.opposite? = some k') : k'.isBinary = k.isBinary := by
  cases k <;> cases h <;> rfl

/-- One of two opposite checks passes, the other reports, unless neither can read its pattern. -/
theorem judge_opposite (hk : k.opposite? = some k') (ha : ¬actual.IsUnwritable) {s : String}
    (hs : expected.plain = .ok s)
    (hp : k.isPatterned = true → ∃ p, Regex.Pattern.read h s = .ok p) :
    (∃ m, k'.mismatch actual expected = .ok m ∧ k.judge h actual expected = .ok () ∧
      k'.judge h actual expected = .error (.mismatch m {})) ∨
    ∃ m, k.mismatch actual expected = .ok m ∧
      k.judge h actual expected = .error (.mismatch m {}) ∧
        k'.judge h actual expected = .ok () := by
  have he : ¬expected.IsUnwritable := Value.exists_plain_iff.mp ⟨s, hs⟩
  have hk' := passes_opposite (h := h) hk actual expected
  cases hpasses : k.passes h actual expected with
  | error e =>
    obtain ⟨hpatterned, -, e, he, -⟩ := (passes_eq_error_iff ha hs).mp hpasses
    obtain ⟨p, hp⟩ := hp hpatterned
    cases hp.symm.trans he
  | ok b =>
    rw [hpasses] at hk'
    obtain ⟨m, hm, hj⟩ := judge_of_passes hpasses ha he
    obtain ⟨m', hm', hj'⟩ := judge_of_passes hk' ha he
    rw [hj, hj']
    cases b with
    | true => exact .inl ⟨m', hm', rfl, rfl⟩
    | false => exact .inr ⟨m, hm, rfl, rfl⟩

end Opposites

end Check

end TapScript
