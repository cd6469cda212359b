import TapScript.Config.Reading
import TapScript.Proofs.Number.Quantities

/-! # Keys of mappings

A key stands for something: nothing, a number, a text, a day, or a tuple of what keys stand for. A
truth value, an integer and a double may stand for one number. Two keys are the same exactly if they
stand for one thing. What does not stand for anything is the same as no key: lists and mappings,
which cannot be keys, and the double that is no number, which is not even the same as itself.
-/

namespace TapScript

namespace Value

open Double (Quantity)

/-- What a key stands for. -/
inductive Meaning
  | nothing
  | number (q : Quantity)
  | text (s : String)
  | date (d : Day)
  | tuple (items : List Meaning)

mutual

/-- What a value stands for as a key, if it can be one that is equal to itself. -/
def meaning? : Value → Option Meaning
  | none => some .nothing
  | bool b => some (.number (.finite ((if b then 1 else 0 : Int) : ℚ)))
  | int n => some (.number (.finite n))
  | float x => (Double.quantity? x).map .number
  | text s => some (.text s)
  | date d => some (.date d)
  | tuple vs => (meanings? vs).map .tuple
  | list _ | map .. | module .. | object .. => .none

/-- What several values stand for. -/
def meanings? : List Value → Option (List Meaning)
  | [] => some []
  | v :: vs => (meaning? v).bind fun m => (meanings? vs).map (m :: ·)

end

variable {a b k k' v : Value} {m m' : Meaning} {x : Float}

theorem sameScalar_iff (ha : ∀ vs, a ≠ tuple vs) :
    sameScalar a b = true ↔ ∃ m, meaning? a = some m ∧ meaning? b = some m := by
  cases a <;> cases b
  case tuple.tuple vs ws => exact absurd rfl (ha vs)
  all_goals simp [sameScalar, meaning?, integer?, Double.compareInt_eq_iff, Double.beq_iff_quantity,
    -Int.cast_ite]
  all_goals exact eq_comm

/-- Only sequences and mappings are compared by what is in them. -/
theorem same_eq_sameScalar (hl : ∀ vs, a ≠ list vs) (ht : ∀ vs, a ≠ tuple vs)
    (hm : ∀ b es, a ≠ map b es) : same a b = sameScalar a b := by
  cases a with
  | list vs => exact absurd rfl (hl vs)
  | tuple vs => exact absurd rfl (ht vs)
  | map b es => exact absurd rfl (hm b es)
  | _ => simp only [same]

theorem same_scalar_iff (hl : ∀ vs, a ≠ list vs) (ht : ∀ vs, a ≠ tuple vs)
    (hm : ∀ b es, a ≠ map b es) :
    same a b = true ↔ ∃ m, meaning? a = some m ∧ meaning? b = some m := by
  rw [same_eq_sameScalar hl ht hm]
  exact sameScalar_iff ht

theorem meanings?_cons {v : Value} {vs : List Value} {ms : List Meaning} :
    meanings? (v :: vs) = some ms ↔
      ∃ m, meaning? v = some m ∧ ∃ ns, meanings? vs = some ns ∧ m :: ns = ms := by
  simp [meanings?, Option.bind_eq_some_iff]

mutual

/-- Two values of which one is a key are the same exactly if they stand for one thing. -/
theorem same_iff : ∀ {a b : Value}, (∃ m, meaning? a = some m ∨ meaning? b = some m) →
    (same a b = true ↔ ∃ m, meaning? a = some m ∧ meaning? b = some m)
  | tuple vs, b, h => by
    cases b with
    | tuple ws =>
      rw [same, sameAll_iff (by simpa [meaning?, exists_or] using h)]
      simp [meaning?]
    | _ => simp [same, sameScalar, meaning?, integer?]
  | list vs, b, ⟨m, h⟩ | map _ es, b, ⟨m, h⟩ => by
    -- neither is a key, so the other value is
    have hb : meaning? b = some m := h.resolve_left (by simp [meaning?])
    cases b with
    | list _ | map _ _ => cases hb
    | _ => simp [same, sameScalar, meaning?, integer?]
  | none, _, _ | bool _, _, _ | int _, _, _ | float _, _, _ | text _, _, _ | date _, _, _
  | module .., _, _ | object .., _, _ => same_scalar_iff (by simp) (by simp) (by simp)

theorem sameAll_iff : ∀ {vs ws : List Value},
    (∃ ms, meanings? vs = some ms ∨ meanings? ws = some ms) →
      (sameAll vs ws = true ↔ ∃ ms, meanings? vs = some ms ∧ meanings? ws = some ms)
  | [], [], _ => by simp [sameAll, meanings?]
  | [], w :: ws, _ => by
    refine iff_of_false Bool.false_ne_true ?_
    rintro ⟨ms, ⟨⟩, h⟩
    obtain ⟨m, -, ns, -, ⟨⟩⟩ := meanings?_cons.mp h
  | v :: vs, [], _ => by
    refine iff_of_false Bool.false_ne_true ?_
    rintro ⟨ms, h, ⟨⟩⟩
    obtain ⟨m, -, ns, -, ⟨⟩⟩ := meanings?_cons.mp h
  | v :: vs, w :: ws, ⟨ms, h⟩ => by
    rw [sameAll, Bool.and_eq_true, same_iff, sameAll_iff]
    · simp only [meanings?_cons]
      constructor
      · rintro ⟨⟨m, hv, hw⟩, ns, hvs, hws⟩
        exact ⟨_, ⟨m, hv, ns, hvs, rfl⟩, m, hw, ns, hws, rfl⟩
      · rintro ⟨_, ⟨m, hv, ns, hvs, rfl⟩, m', hw, ns', hws, ⟨⟩⟩
        exact ⟨⟨m, hv, hw⟩, ns, hvs, hws⟩
    · obtain h | h := h
      · obtain ⟨-, -, ns, h, -⟩ := meanings?_cons.mp h
        exact ⟨ns, .inl h⟩
      · obtain ⟨-, -, ns, h, -⟩ := meanings?_cons.mp h
        exact ⟨ns, .inr h⟩
    · obtain h | h := h
      · obtain ⟨m, h, -⟩ := meanings?_cons.mp h
        exact ⟨m, .inl h⟩
      · obtain ⟨m, h, -⟩ := meanings?_cons.mp h
        exact ⟨m, .inr h⟩

end

/-- Whether a value can be a key that is equal to itself. -/
def IsKey (v : Value) : Prop :=
  ∃ m, meaning? v = some m

theorem same_of_left (h : meaning? a = some m) : a.same b = true ↔ meaning? b = some m := by
  rw [same_iff ⟨m, .inl h⟩, h]
  simp

theorem same_of_right (h : meaning? b = some m) : a.same b = true ↔ meaning? a = some m := by
  rw [same_iff ⟨m, .inr h⟩, h]
  simp

theorem IsKey.same_self (h : IsKey k) : k.same k = true := by
  obtain ⟨m, h⟩ := h
  exact (same_of_left h).mpr h

/-- Only keys are the same as keys. -/
theorem IsKey.of_same (h : IsKey k) (hs : k.same v = true) : IsKey v := by
  obtain ⟨m, h⟩ := h
  exact ⟨m, (same_of_left h).mp hs⟩

theorem IsKey.same_comm (h : IsKey k) : k.same v = true ↔ v.same k = true := by
  obtain ⟨m, h⟩ := h
  rw [same_of_left h, same_of_right h]

theorem IsKey.same_of_same (h : IsKey k) (hv : v.same k = true) (hv' : v.same k' = true) :
    k'.same k = true := by
  obtain ⟨m, h⟩ := h
  rw [same_of_right h] at hv ⊢
  exact (same_of_left hv).mp hv'

/-- A key that is the same as another is the same as all that are the same as that. -/
theorem IsKey.same_congr (h : IsKey k) (hs : k.same k' = true) (v : Value) :
    v.same k = v.same k' := by
  obtain ⟨m, h⟩ := h
  rw [Bool.eq_iff_iff, same_of_right h, same_of_right ((same_of_left h).mp hs)]

/-! ### Looking keys up -/

variable {es fs : Entries}

theorem under?_nil : under? [] k = Option.none := rfl

theorem under?_cons_of_same (h : k'.same k = true) : under? ((k', v) :: es) k = some v := by
  simp [under?, h]

theorem under?_cons_of_not_same (h : k'.same k = false) :
    under? ((k', v) :: es) k = under? es k := by
  simp [under?, h]

theorem under?_append (fs : Entries) : under? (es ++ fs) k = (under? es k).or (under? fs k) := by
  unfold under?
  rw [List.find?_append]
  cases es.find? (·.1.same k) <;> rfl

theorem under?_eq_none_iff_not_same :
    under? es k = Option.none ↔ ∀ e ∈ es, e.1.same k = false := by
  simp [under?, List.find?_eq_none]

theorem under?_mem (h : under? es k = some v) : ∃ e ∈ es, e.1.same k = true ∧ e.2 = v := by
  obtain ⟨e, he, rfl⟩ := Option.map_eq_some_iff.mp h
  have hs := List.find?_some he
  exact ⟨e, List.mem_of_find?_eq_some he, hs, rfl⟩

theorem IsKey.under?_congr (h : IsKey k) (hs : k.same k' = true) : under? es k = under? es k' := by
  unfold under?
  rw [funext fun e : Value × Value => h.same_congr hs e.1]

/-- Rebinding the entries of a key. -/
def rebind (es : Entries) (k v : Value) : Entries :=
  es.map fun e => if e.1.same k then (e.1, v) else e

theorem bindTo_eq (es : Entries) (k v : Value) :
    bindTo es k v = if es.any (·.1.same k) then rebind es k v else es ++ [(k, v)] := rfl

theorem any_same_iff : es.any (·.1.same k) = true ↔ under? es k ≠ Option.none := by
  rw [Ne, under?_eq_none_iff_not_same, List.any_eq_true]
  simp

theorem under?_rebind_self (h : under? es k ≠ Option.none) :
    under? (rebind es k v) k = some v := by
  induction es with
  | nil => exact absurd rfl h
  | cons e es ih =>
    obtain ⟨k', w⟩ := e
    cases hs : k'.same k with
    | true =>
      simp only [rebind, List.map_cons, hs, if_true]
      exact under?_cons_of_same hs
    | false =>
      rw [under?_cons_of_not_same hs] at h
      simp only [rebind, List.map_cons, hs, Bool.false_eq_true, if_false]
      rw [under?_cons_of_not_same hs]
      exact ih h

theorem under?_rebind_of_not_same (hk : IsKey k') (h : k.same k' = false) :
    under? (rebind es k v) k' = under? es k' := by
  induction es with
  | nil => rfl
  | cons e es ih =>
    obtain ⟨j, w⟩ := e
    -- an entry that is rebound is not that of the other key
    cases hj : j.same k' with
    | true =>
      have hjk : j.same k = false := Bool.eq_false_iff.mpr fun hjk =>
        Bool.eq_false_iff.mp h (hk.same_of_same hj hjk)
      simp only [rebind, List.map_cons, hjk, Bool.false_eq_true, if_false]
      rw [under?_cons_of_same hj, under?_cons_of_same hj]
    | false =>
      rw [under?_cons_of_not_same hj, ← ih]
      unfold rebind
      rw [List.map_cons]
      split
      · exact under?_cons_of_not_same hj
      · exact under?_cons_of_not_same hj

theorem under?_bindTo_self (h : IsKey k) : under? (bindTo es k v) k = some v := by
  rw [bindTo_eq]
  split
  · next hs => exact under?_rebind_self (any_same_iff.mp hs)
  · next hs =>
    have hn : under? es k = Option.none := not_not.mp (mt any_same_iff.mpr hs)
    rw [under?_append, hn, under?_cons_of_same h.same_self]
    rfl

theorem under?_bindTo_of_not_same (hk : IsKey k') (h : k.same k' = false) :
    under? (bindTo es k v) k' = under? es k' := by
  rw [bindTo_eq]
  split
  · exact under?_rebind_of_not_same hk h
  · rw [under?_append, under?_cons_of_not_same h]
    exact Option.or_none

end Value

end TapScript
