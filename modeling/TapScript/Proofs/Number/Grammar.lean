import Mathlib.Computability.Language
import TapScript.Proofs.Number.Spelling

/-! # The grammar of numerals

The texts that are numerals, as a language: what may be left out, what is repeated, and in which
order. Nothing stands before a numeral or after it.
-/

namespace TapScript

namespace Numeral

open Text
open scoped Computability

/-- One character of a kind. -/
def one (p : Char → Prop) : Language Char :=
  {cs | ∃ c, p c ∧ cs = [c]}

/-- What may be left out. -/
def maybe (l : Language Char) : Language Char :=
  1 + l

/-- One of the decimal digits of any script. -/
def digit : Language Char :=
  one fun c => isDigit c = true

def sign : Language Char :=
  one fun c => c = '+' ∨ c = '-'

def point : Language Char :=
  one fun c => c = '.'

def powerLetter : Language Char :=
  one fun c => c = 'e' ∨ c = 'E'

/-- One or more digits. -/
def digits : Language Char :=
  digit * digit∗

/-- Digits that a point may follow, and then more digits or none; or a point and digits. -/
def mantissa : Language Char :=
  digits * maybe (point * digit∗) + point * digits

def power : Language Char :=
  powerLetter * maybe sign * digits

/-- The numerals. -/
def grammar : Language Char :=
  maybe sign * mantissa * maybe power

variable {p : Char → Prop} {l : Language Char} {cs : List Char} {c : Char}

theorem mem_maybe : cs ∈ maybe l ↔ cs = [] ∨ cs ∈ l :=
  Iff.rfl

theorem cons_mem_one_mul : c :: cs ∈ one p * l ↔ p c ∧ cs ∈ l := by
  rw [Language.mem_mul]
  constructor
  · rintro ⟨_, ⟨d, hd, rfl⟩, ds, hds, h⟩
    cases h
    exact ⟨hd, hds⟩
  · rintro ⟨hc, hcs⟩
    exact ⟨[c], ⟨c, hc, rfl⟩, cs, hcs, rfl⟩

theorem mem_digit_kstar : cs ∈ digit∗ ↔ IsDigits cs := by
  induction cs with
  | nil => exact iff_of_true (Language.nil_mem_kstar _) nofun
  | cons c cs ih =>
    have hcons : c :: cs ∈ digit∗ ↔ c :: cs = [] ∨ c :: cs ∈ digit * digit∗ := by
      rw [← mem_maybe, maybe, Language.one_add_self_mul_kstar_eq_kstar]
    rw [hcons, digit, cons_mem_one_mul, ← digit, ih]
    simp [IsDigits]

theorem mem_digits : cs ∈ digits ↔ IsDigits cs ∧ cs ≠ [] := by
  cases cs with
  | nil =>
    rw [digits, Language.mem_mul]
    constructor
    · rintro ⟨_, ⟨c, -, rfl⟩, ds, -, ⟨⟩⟩
    · rintro ⟨-, h⟩
      exact absurd rfl h
  | cons c cs =>
    rw [digits, digit, cons_mem_one_mul, ← digit, mem_digit_kstar]
    simp [IsDigits]

theorem mem_maybe_sign : cs ∈ maybe sign ↔ ∃ negative, SpellsSign negative cs := by
  constructor
  · rintro (rfl | ⟨c, rfl | rfl, rfl⟩)
    · exact ⟨false, .none⟩
    · exact ⟨false, .plus⟩
    · exact ⟨true, .minus⟩
  · rintro ⟨negative, h⟩
    cases h with
    | none => exact .inl rfl
    | plus => exact .inr ⟨'+', .inl rfl, rfl⟩
    | minus => exact .inr ⟨'-', .inr rfl, rfl⟩

theorem mem_mantissa : cs ∈ mantissa ↔ ∃ whole fraction, SpellsDigits whole fraction cs := by
  constructor
  · rintro (h | h)
    · obtain ⟨ds, hds, rest, hrest, rfl⟩ := Language.mem_mul.mp h
      obtain ⟨digits, filled⟩ := mem_digits.mp hds
      obtain rfl | hrest := mem_maybe.mp hrest
      · rw [List.append_nil]
        exact ⟨ds, [], .whole digits filled⟩
      · obtain ⟨_, ⟨c, rfl, rfl⟩, fs, hfs, rfl⟩ := Language.mem_mul.mp hrest
        exact ⟨ds, fs, .point digits (mem_digit_kstar.mp hfs) (.inl filled)⟩
    · obtain ⟨_, ⟨c, rfl, rfl⟩, fs, hfs, rfl⟩ := Language.mem_mul.mp h
      obtain ⟨fraction, filled⟩ := mem_digits.mp hfs
      exact ⟨[], fs, .point nofun fraction (.inr filled)⟩
  · rintro ⟨ds, fs, h⟩
    cases h with
    | whole digits filled =>
      refine .inl (Language.mem_mul.mpr ⟨cs, mem_digits.mpr ⟨digits, filled⟩, [], .inl rfl, ?_⟩)
      exact List.append_nil cs
    | point digits fraction filled =>
      have hfraction : IsDigits fs → '.' :: fs ∈ point * digit∗ := fun h =>
        cons_mem_one_mul.mpr ⟨rfl, mem_digit_kstar.mpr h⟩
      by_cases hds : ds = []
      · subst hds
        have hfs : fs ≠ [] := filled.resolve_left fun h => h rfl
        exact .inr (cons_mem_one_mul.mpr ⟨rfl, mem_digits.mpr ⟨fraction, hfs⟩⟩)
      · exact .inl (Language.mem_mul.mpr
          ⟨ds, mem_digits.mpr ⟨digits, hds⟩, _, .inr (hfraction fraction), rfl⟩)

theorem mem_maybe_power : cs ∈ maybe power ↔ ∃ e, SpellsPower e cs := by
  constructor
  · rintro (rfl | h)
    · exact ⟨0, .none⟩
    · rw [power, mul_assoc] at h
      obtain ⟨_, ⟨c, letter, rfl⟩, _, hrest, rfl⟩ := Language.mem_mul.mp h
      obtain ⟨sign, hsign, ds, hds, rfl⟩ := Language.mem_mul.mp hrest
      obtain ⟨negative, signed⟩ := mem_maybe_sign.mp hsign
      obtain ⟨digits, filled⟩ := mem_digits.mp hds
      exact ⟨_, @SpellsPower.power negative sign ds c letter signed digits filled⟩
  · rintro ⟨e, h⟩
    cases h with
    | none => exact .inl rfl
    | @power negative sign ds c letter signed digits filled =>
      right
      rw [power, mul_assoc]
      refine cons_mem_one_mul.mpr ⟨letter, Language.mem_mul.mpr ⟨sign, ?_, ds, ?_, rfl⟩⟩
      · exact mem_maybe_sign.mpr ⟨negative, signed⟩
      · exact mem_digits.mpr ⟨digits, filled⟩

/-- The grammar is that of what writes a numeral. -/
theorem mem_grammar : cs ∈ grammar ↔ ∃ n : Numeral, n.Spells cs := by
  simp only [grammar, Language.mem_mul, mem_maybe_sign, mem_mantissa, mem_maybe_power]
  constructor
  · rintro ⟨_, ⟨sign, ⟨negative, hs⟩, digits, ⟨whole, fraction, hd⟩, rfl⟩, power, ⟨e, hp⟩, rfl⟩
    exact ⟨⟨negative, whole, fraction, e⟩, sign, digits, power, hs, hd, hp, rfl⟩
  · rintro ⟨n, sign, digits, power, hs, hd, hp, rfl⟩
    exact ⟨_, ⟨sign, ⟨_, hs⟩, digits, ⟨_, _, hd⟩, rfl⟩, power, ⟨_, hp⟩, rfl⟩

end Numeral

/-- The numerals are exactly the texts of the grammar. -/
theorem isNumeric_iff {s : String} : isNumeric s = true ↔ s.toList ∈ Numeral.grammar := by
  rw [isNumeric, Option.isSome_iff_exists, Numeral.mem_grammar]
  exact exists_congr fun n => Numeral.ofText?_eq_some_iff

example : ["3.", ".5", "1.e5"].all isNumeric = true ∧ ["1e", "+", "."].any isNumeric = false := by
  decide

end TapScript
