import TapScript.Proofs.Outcome
import TapScript.Value.Equality
import TapScript.Value.Text

/-! # Which values have texts

The only values without texts are those in which there is an integer with too many digits, at any
depth. Where a value has a plain text it has a shown form, and the other way round.
-/

namespace TapScript

open Outcome

theorem IntegerError.one_lt_limit : 1 < limit := by
  decide +kernel

namespace Text

theorem ofInteger_eq_error_iff {n : Int} {e : IntegerError} : ofInteger n = .error e ↔
    e = .tooLarge ∧ IntegerError.limit ≤ n.natAbs := by
  unfold ofInteger
  split
  · next h => simp [h, eq_comm]
  · next h => simp [h]

end Text

namespace Value

/-- Whether an integer that is too large to be written is in a value, where its texts show it. -/
inductive IsUnwritable : Value → Prop
  | int {n : Int} (large : IntegerError.limit ≤ n.natAbs) : IsUnwritable (.int n)
  | list {vs : List Value} {v : Value} (h : v ∈ vs) (hv : IsUnwritable v) : IsUnwritable (.list vs)
  | tuple {vs : List Value} {v : Value} (h : v ∈ vs) (hv : IsUnwritable v) :
    IsUnwritable (.tuple vs)
  | key {b : Bool} {es : List (Value × Value)} {x : Value × Value} (h : x ∈ es)
    (hk : IsUnwritable x.1) : IsUnwritable (.map b es)
  | entry {b : Bool} {es : List (Value × Value)} {x : Value × Value} (h : x ∈ es)
    (hv : IsUnwritable x.2) : IsUnwritable (.map b es)

/-- Whether one of the two parts of an entry is unwritable. -/
def HasUnwritable (x : Value × Value) : Prop :=
  x.1.IsUnwritable ∨ x.2.IsUnwritable

variable {v : Value} {vs : List Value} {es : List (Value × Value)} {x : Value × Value}
  {e : IntegerError}

theorem isUnwritable_int {n : Int} :
    (int n).IsUnwritable ↔ IntegerError.limit ≤ n.natAbs :=
  ⟨fun | .int large => large, .int⟩

theorem isUnwritable_list : (list vs).IsUnwritable ↔ ∃ v ∈ vs, v.IsUnwritable :=
  ⟨fun | .list h hv => ⟨_, h, hv⟩, fun ⟨_, h, hv⟩ => .list h hv⟩

theorem isUnwritable_tuple : (tuple vs).IsUnwritable ↔ ∃ v ∈ vs, v.IsUnwritable :=
  ⟨fun | .tuple h hv => ⟨_, h, hv⟩, fun ⟨_, h, hv⟩ => .tuple h hv⟩

theorem isUnwritable_map {b : Bool} : (map b es).IsUnwritable ↔ ∃ x ∈ es, HasUnwritable x := by
  constructor
  · rintro (_ | _ | _ | ⟨h, hk⟩ | ⟨h, hv⟩)
    · exact ⟨_, h, .inl hk⟩
    · exact ⟨_, h, .inr hv⟩
  · rintro ⟨x, h, hk | hv⟩
    · exact .key h hk
    · exact .entry h hv

namespace IsUnwritable

theorem isNone (h : v.IsUnwritable) : v.isNone = false := by
  cases h <;> rfl

theorem isTruthy (h : v.IsUnwritable) : v.isTruthy = true := by
  cases h with
  | int large =>
    have hn : 1 < IntegerError.limit := IntegerError.one_lt_limit
    simp only [Value.isTruthy, bne_iff_ne]
    omega
  | list hm | tuple hm | key hm | entry hm => simp [Value.isTruthy, List.ne_nil_of_mem hm]

theorem not_same_text (h : v.IsUnwritable) (s : String) : v.same (text s) = false := by
  cases h <;> simp [same, sameScalar, integer?]

theorem not_same_bool (h : v.IsUnwritable) (b : Bool) : v.same (bool b) = false := by
  cases h with
  | int large =>
    have hn : 1 < IntegerError.limit := IntegerError.one_lt_limit
    cases b <;> simp [same, sameScalar, integer?] <;> omega
  | _ => simp [same, sameScalar, integer?]

end IsUnwritable

/-! ### Shown forms -/

theorem map_eq_error {α β : Type} {y : Except IntegerError α} {f : α → β} :
    y.map f = .error e ↔ y = .error e := by
  cases y <;> simp [Except.map]

/-- What fails on one condition gives something else otherwise. -/
theorem exists_ok_iff {α : Type} {y : Except IntegerError α} {p : Prop}
    (hy : ∀ e, y = .error e ↔ e = .tooLarge ∧ p) : (∃ a, y = .ok a) ↔ ¬p := by
  constructor
  · rintro ⟨a, ha⟩ hp
    cases ha.symm.trans ((hy .tooLarge).mpr ⟨rfl, hp⟩)
  · intro hp
    cases hr : y with
    | ok a => exact ⟨a, rfl⟩
    | error d => exact absurd ((hy d).mp hr).2 hp

/-- Two computations in a sequence, each of which fails on a condition of its own. -/
theorem bind_eq_tooLarge {α β : Type} {y : Except IntegerError α} {f : α → Except IntegerError β}
    {p q : Prop} (hy : ∀ e, y = .error e ↔ e = .tooLarge ∧ p)
    (hf : ∀ a, f a = .error e ↔ e = .tooLarge ∧ q) :
    (y >>= f) = .error e ↔ e = .tooLarge ∧ (p ∨ q) := by
  rw [bind_eq_error, hy]
  constructor
  · rintro (⟨he, hp⟩ | ⟨a, -, ha⟩)
    · exact ⟨he, .inl hp⟩
    · exact ((hf a).mp ha).imp_right .inr
  · rintro ⟨he, hpq⟩
    refine or_iff_not_imp_left.mpr fun hp => ?_
    obtain ⟨a, ha⟩ := (exists_ok_iff hy).mpr fun h => hp ⟨he, h⟩
    exact ⟨a, ha, (hf a).mpr ⟨he, hpq.resolve_left fun h => hp ⟨he, h⟩⟩⟩

mutual

/-- A value has no shown form exactly if it is unwritable. -/
theorem shown_eq_error_iff : ∀ {v : Value} {e : IntegerError},
    v.shown = .error e ↔ e = .tooLarge ∧ v.IsUnwritable
  | int n, _ => by rw [shown, Text.ofInteger_eq_error_iff, isUnwritable_int]
  | list vs, _ => by rw [shown, map_eq_error, shownAll_eq_error_iff, isUnwritable_list]
  | tuple vs, _ => by rw [shown, map_eq_error, shownAll_eq_error_iff, isUnwritable_tuple]
  | map true es, _ => by rw [shown, map_eq_error, shownEntries_eq_error_iff, isUnwritable_map]
  | map false es, _ => by rw [shown, map_eq_error, shownEntries_eq_error_iff, isUnwritable_map]
  | none, _ | bool _, _ | float _, _ | text _, _ | date _, _ | module .., _ | object .., _ => by
    simp only [shown, reduceCtorEq, false_iff]
    rintro ⟨-, ⟨⟩⟩

theorem shownAll_eq_error_iff : ∀ {vs : List Value} {e : IntegerError},
    shownAll vs = .error e ↔ e = .tooLarge ∧ ∃ v ∈ vs, v.IsUnwritable
  | [], _ => by simp [shownAll]
  | v :: vs, _ => by
    rw [shownAll, List.exists_mem_cons_iff]
    refine bind_eq_tooLarge (fun _ => shown_eq_error_iff) fun s => ?_
    rw [bind_eq_error, shownAll_eq_error_iff]
    exact or_iff_left fun ⟨_, _, h⟩ => by cases h

theorem shownEntries_eq_error_iff : ∀ {es : List (Value × Value)} {e : IntegerError},
    shownEntries es = .error e ↔ e = .tooLarge ∧ ∃ x ∈ es, HasUnwritable x
  | [], _ => by simp [shownEntries]
  | (k, v) :: es, _ => by
    rw [shownEntries, List.exists_mem_cons_iff, HasUnwritable, or_assoc]
    refine bind_eq_tooLarge (fun _ => shown_eq_error_iff) fun s => ?_
    refine bind_eq_tooLarge (fun _ => shown_eq_error_iff) fun s => ?_
    rw [bind_eq_error, shownEntries_eq_error_iff]
    exact or_iff_left fun ⟨_, _, h⟩ => by cases h

end

/-- A value has no plain text exactly if it is unwritable. -/
theorem plain_eq_error_iff : v.plain = .error e ↔ e = .tooLarge ∧ v.IsUnwritable := by
  cases v with
  | map b es => rw [plain, map_eq_error, shownEntries_eq_error_iff, isUnwritable_map]
  | text | date | object =>
    simp only [plain, reduceCtorEq, false_iff]
    rintro ⟨-, ⟨⟩⟩
  | _ => exact shown_eq_error_iff

/-- What is not unwritable has a plain text. -/
theorem exists_plain_iff : (∃ s, v.plain = .ok s) ↔ ¬v.IsUnwritable :=
  exists_ok_iff fun _ => plain_eq_error_iff

/-- What is not unwritable has a shown form. -/
theorem exists_shown_iff : (∃ s, v.shown = .ok s) ↔ ¬v.IsUnwritable :=
  exists_ok_iff fun _ => shown_eq_error_iff

theorem exists_shownAll_iff : (∃ ss, shownAll vs = .ok ss) ↔ ∀ v ∈ vs, ¬v.IsUnwritable := by
  rw [exists_ok_iff fun _ => shownAll_eq_error_iff]
  simp only [not_exists, not_and]

end Value

end TapScript
