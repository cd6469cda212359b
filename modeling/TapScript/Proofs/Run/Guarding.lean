import TapScript.Proofs.Driver.Gestures
import TapScript.Proofs.Number.Conversion
import TapScript.Proofs.Number.Grammar

/-! # The number guard

Pauses, taps, swipes and loose equality take numbers from texts. Each asks first whether a text is a
numeral, and refuses it if not, or compares it as a text. What is converted is what the guard let
through, so that no conversion fails and none gives what is no number.
-/

namespace TapScript

open Double (Converts converts_toFloat exists_converts)

theorem isNumeric_eq_true {s : String} : isNumeric s = true ↔ ∃ n, Numeral.ofText? s = some n :=
  Option.isSome_iff_exists

theorem isNumeric_eq_false {s : String} : isNumeric s = false ↔ Numeral.ofText? s = none :=
  Option.isSome_eq_false_iff.trans Option.isNone_iff_eq_none

/-- Whether a text is the first of several that is no numeral. -/
def IsRefused (texts : List String) (s : String) : Prop :=
  ∃ before after, texts = before ++ s :: after ∧ (∀ t ∈ before, isNumeric t = true) ∧
    isNumeric s = false

namespace Gesture

variable {ε : Type}

/-- The numbers of a gesture are what its texts are converted to, unless one is refused. -/
theorem numbers_guarded (g : Gesture) (texts : List String) :
    (∃ xs, List.Forall₂ Converts texts xs ∧ g.numbers texts = .ok xs) ∨
      ∃ s, IsRefused texts s ∧ g.numbers texts = .error (.badNumber g.name s) := by
  cases hn : g.numbers texts with
  | ok xs =>
    refine .inl ⟨xs, (numbers_eq_ok.mp hn).imp ?_, rfl⟩
    rintro s x ⟨n, hs, rfl⟩
    exact converts_toFloat hs
  | error p =>
    obtain ⟨before, s, after, rfl, hb, hs⟩ := Outcome.first_of_mapM hn
    refine .inr ⟨s, ⟨before, after, rfl, fun t ht => ?_, ?_⟩, ?_⟩
    · obtain ⟨x, hx⟩ := hb t ht
      split at hx
      · next n hn => exact isNumeric_eq_true.mpr ⟨n, hn⟩
      · cases hx
    all_goals split at hs <;> cases hs
    · next h => exact isNumeric_eq_false.mpr h
    · rfl

/-- A tap is at the numbers of its two texts, unless one is refused. -/
theorem tap_guarded {g : Gesture} {sx sy : String} {rest : List String} (element : ε)
    (ha : g.action = .tap) (hp : g.params = sx :: sy :: rest) :
    (∃ x y, Converts sx x ∧ Converts sy y ∧ g.call? element = .ok (some (.tap element x y))) ∨
      ∃ s, IsRefused [sx, sy] s ∧ g.call? element = .error (.badNumber g.name s) := by
  unfold call?
  simp only [ha, hp, List.take_succ_cons, List.take_zero]
  obtain ⟨xs, hxs, hn⟩ | ⟨s, hs, hn⟩ := g.numbers_guarded [sx, sy]
  · obtain _ | ⟨hx, _ | ⟨hy, ⟨⟩⟩⟩ := hxs
    exact .inl ⟨_, _, hx, hy, congrArg (· >>= _) hn⟩
  · exact .inr ⟨s, hs, congrArg (· >>= _) hn⟩

/-- A swipe is between the numbers of four texts, and as long as a fifth says, unless one is
refused. -/
theorem swipe_guarded {g : Gesture} {sx sy ex ey ms : String} {rest : List String} (element : ε)
    (ha : g.action = .swipe) (hp : g.params = sx :: sy :: ex :: ey :: ms :: rest) :
    (∃ x y x' y' duration, List.Forall₂ Converts [sx, sy, ex, ey, ms] [x, y, x', y', duration] ∧
        g.call? element = .ok (some (.swipe element x y x' y' duration))) ∨
      ∃ s, IsRefused [sx, sy, ex, ey, ms] s ∧
        g.call? element = .error (.badNumber g.name s) := by
  unfold call?
  simp only [ha, hp, List.take_succ_cons, List.take_zero]
  obtain ⟨xs, hxs, hn⟩ | ⟨s, hs, hn⟩ := g.numbers_guarded [sx, sy, ex, ey, ms]
  · obtain _ | ⟨h₁, _ | ⟨h₂, _ | ⟨h₃, _ | ⟨h₄, _ | ⟨h₅, ⟨⟩⟩⟩⟩⟩⟩ := id hxs
    exact .inl ⟨_, _, _, _, _, hxs, congrArg (· >>= _) hn⟩
  · exact .inr ⟨s, hs, congrArg (· >>= _) hn⟩

end Gesture

/-- Two values that are not the same are compared as numbers if both texts are numerals, and
otherwise as texts. -/
theorem Value.looselyEqual_guarded {a b : Value} {s t : String} (hs : a.plain = .ok s)
    (ht : b.plain = .ok t) (hsame : a.same b = false) (ha : a.isNone = false)
    (hb : b.isNone = false) :
    (∃ x y, Converts s x ∧ Converts t y ∧ a.looselyEqual b = .ok (x == y)) ∨
      ((isNumeric s = false ∨ isNumeric t = false) ∧ a.looselyEqual b = .ok (s == t)) := by
  have hloose : a.looselyEqual b = .ok (Text.looselyEqual s t) := by
    simp only [looselyEqual, hsame, ha, hb, hs, ht]
    rfl
  rw [hloose, Text.looselyEqual]
  cases hm : Numeral.ofText? s with
  | none => exact .inr ⟨.inl (isNumeric_eq_false.mpr hm), rfl⟩
  | some m =>
    cases hn : Numeral.ofText? t with
    | none => exact .inr ⟨.inr (isNumeric_eq_false.mpr hn), rfl⟩
    | some n => exact .inl ⟨_, _, converts_toFloat hm, converts_toFloat hn, rfl⟩

namespace Setup

open Engine

variable {σ ε : Type} (e : Setup σ ε)

/-- What an argument stands for has a text, and a pause is as long as that says, unless it is
refused. -/
theorem runSleep_guarded {c : Command} {t : Token} {ts : List Token} {v : Value}
    (hc : c.args = t :: ts) (hv : e.resolver.argument t = .ok v) : ∃ s, v.plain = .ok s ∧
      ((∃ x, Converts s x ∧ e.runSleep c = act (e.driver.sleep x)) ∨
        (isNumeric s = false ∧ e.runSleep c = throw (c.fault (.badDuration t.text)))) := by
  obtain ⟨s, hs⟩ := Value.exists_plain_iff.mpr (Resolver.argument_eq_ok_iff.mp hv).2
  refine ⟨s, hs, ?_⟩
  rw [runSleep_of_plain hc hv hs]
  cases hn : Numeral.ofText? s with
  | none => exact .inr ⟨isNumeric_eq_false.mpr hn, rfl⟩
  | some n => exact .inl ⟨_, converts_toFloat hn, rfl⟩

/-- The number guard is exact, and what it lets through is converted wherever numbers are taken
from texts. -/
structure GuardsNumbers : Prop where
  exact : ∀ s, isNumeric s = true ↔ s.toList ∈ Numeral.grammar
  sufficient : ∀ s, isNumeric s = true → ∃ x, Converts s x
  /-- The argument may stand for any value, whose text is guarded. -/
  sleep : ∀ c t ts v, c.args = t :: ts → e.resolver.argument t = .ok v → ∃ s, v.plain = .ok s ∧
    ((∃ x, Converts s x ∧ e.runSleep c = act (e.driver.sleep x)) ∨
      (isNumeric s = false ∧ e.runSleep c = throw (c.fault (.badDuration t.text))))
  tap : ∀ (g : Gesture) sx sy rest (element : ε), g.action = .tap → g.params = sx :: sy :: rest →
    (∃ x y, Converts sx x ∧ Converts sy y ∧ g.call? element = .ok (some (.tap element x y))) ∨
      ∃ s, IsRefused [sx, sy] s ∧ g.call? element = .error (.badNumber g.name s)
  swipe : ∀ (g : Gesture) sx sy ex ey ms rest (element : ε), g.action = .swipe →
    g.params = sx :: sy :: ex :: ey :: ms :: rest →
    (∃ x y x' y' duration, List.Forall₂ Converts [sx, sy, ex, ey, ms] [x, y, x', y', duration] ∧
        g.call? element = .ok (some (.swipe element x y x' y' duration))) ∨
      ∃ s, IsRefused [sx, sy, ex, ey, ms] s ∧ g.call? element = .error (.badNumber g.name s)
  equality : ∀ (a b : Value) s t, a.plain = .ok s → b.plain = .ok t → a.same b = false →
    a.isNone = false → b.isNone = false →
    (∃ x y, Converts s x ∧ Converts t y ∧ a.looselyEqual b = .ok (x == y)) ∨
      ((isNumeric s = false ∨ isNumeric t = false) ∧ a.looselyEqual b = .ok (s == t))

theorem guardsNumbers : e.GuardsNumbers where
  exact _ := isNumeric_iff
  sufficient _ := exists_converts
  sleep _ _ _ _ := e.runSleep_guarded
  tap _ _ _ _ element := Gesture.tap_guarded element
  swipe _ _ _ _ _ _ _ element := Gesture.swipe_guarded element
  equality _ _ _ _ := Value.looselyEqual_guarded

end Setup

end TapScript
