import Mathlib.Data.List.TakeWhile
import TapScript.Numeral

/-! # How numerals are written

A numeral is a sign that may be left out, digits with or without a point among them or at either
end, and a power of ten that may be left out. Reading accepts exactly the texts that are written so,
and each of them writes one numeral.
-/

namespace TapScript

namespace Numeral

open Text

/-- How the sign of a number is written. -/
inductive SpellsSign : Bool → List Char → Prop
  | none : SpellsSign false []
  | plus : SpellsSign false ['+']
  | minus : SpellsSign true ['-']

/-- Whether all characters are digits. -/
def IsDigits (ds : List Char) : Prop :=
  ∀ c ∈ ds, isDigit c = true

/-- How the digits of a numeral are written. At least one of them stands before or after the
point. -/
inductive SpellsDigits : List Char → List Char → List Char → Prop
  | whole {ds} (digits : IsDigits ds) (filled : ds ≠ []) : SpellsDigits ds [] ds
  | point {ds fs} (digits : IsDigits ds) (fraction : IsDigits fs) (filled : ds ≠ [] ∨ fs ≠ []) :
      SpellsDigits ds fs (ds ++ '.' :: fs)

/-- How a power of ten is written. -/
inductive SpellsPower : Int → List Char → Prop
  | none : SpellsPower 0 []
  | power {negative sign ds} {e : Char} (letter : e = 'e' ∨ e = 'E')
      (signed : SpellsSign negative sign) (digits : IsDigits ds) (filled : ds ≠ []) :
      SpellsPower (if negative then -(digitsValue ds : Int) else digitsValue ds) (e :: (sign ++ ds))

/-- Whether some characters write a numeral. -/
def Spells (n : Numeral) (cs : List Char) : Prop :=
  ∃ sign digits power, SpellsSign n.negative sign ∧ SpellsDigits n.whole n.fraction digits ∧
    SpellsPower n.exponent power ∧ cs = sign ++ digits ++ power

variable {negative : Bool} {cs ds fs sign power : List Char} {c : Char} {e : Int} {n : Numeral}

theorem spellsSign_takeSign (cs : List Char) :
    ∃ sign, SpellsSign (takeSign cs).1 sign ∧ cs = sign ++ (takeSign cs).2 := by
  unfold takeSign
  split
  · exact ⟨['+'], .plus, rfl⟩
  · exact ⟨['-'], .minus, rfl⟩
  · exact ⟨[], .none, rfl⟩

/-- A sign is taken off whatever does not look like a sign itself. -/
theorem takeSign_append (h : SpellsSign negative sign) (hcs : ∀ c ∈ cs.head?, c ≠ '+' ∧ c ≠ '-') :
    takeSign (sign ++ cs) = (negative, cs) := by
  cases h with
  | plus => rfl
  | minus => rfl
  | none =>
    rw [List.nil_append]
    unfold takeSign
    split
    · exact absurd rfl (hcs '+' rfl).1
    · exact absurd rfl (hcs '-' rfl).2
    · rfl

theorem IsDigits.head_ne_sign (h : IsDigits ds) : ∀ c ∈ ds.head?, c ≠ '+' ∧ c ≠ '-' := by
  intro c hc
  have hd := h c (List.mem_of_mem_head? hc)
  constructor
  · rintro rfl
    exact absurd hd (by decide)
  · rintro rfl
    exact absurd hd (by decide)

theorem isDigits_takeWhile (cs : List Char) : IsDigits (cs.takeWhile isDigit) :=
  fun _ hc => List.mem_takeWhile_imp hc

/-- A run of digits ends where something else follows. -/
theorem takeWhile_digits (h : IsDigits ds) (hcs : ∀ c ∈ cs.head?, isDigit c = false) :
    (ds ++ cs).takeWhile isDigit = ds ∧ (ds ++ cs).dropWhile isDigit = cs := by
  rw [List.takeWhile_append_of_pos h, List.dropWhile_append_of_pos h]
  cases cs with
  | nil => simp
  | cons c cs => simp [hcs c rfl]

theorem readExponent?_eq_some_iff : readExponent? power = some e ↔ SpellsPower e power := by
  constructor
  · intro h
    unfold readExponent? at h
    split at h
    · cases h
      exact .none
    · next c cs =>
      split at h
      · next hc =>
        obtain ⟨sign, hsign, hcs⟩ := spellsSign_takeSign cs
        dsimp only at h
        split at h
        · next hds =>
          cases h
          conv => arg 2; rw [hcs]
          exact .power hc hsign (List.all_eq_true.mp hds.2) hds.1
        · cases h
      · cases h
  · intro h
    cases h with
    | none => rfl
    | @power negative sign ds c letter hsign digits filled =>
      have hds := takeSign_append hsign digits.head_ne_sign
      simp only [readExponent?, if_pos letter, hds]
      exact if_pos ⟨filled, List.all_eq_true.mpr digits⟩

theorem SpellsPower.head_not_digit (h : SpellsPower e power) :
    ∀ c ∈ power.head?, isDigit c = false ∧ c ≠ '.' := by
  cases h with
  | none => nofun
  | power letter =>
    rintro c ⟨⟩
    obtain rfl | rfl := letter <;> decide

/-- The digits of a numeral end where its power begins. -/
theorem takeFraction_append (h : SpellsDigits ds fs cs) (hp : SpellsPower e power) :
    (cs ++ power).takeWhile isDigit = ds ∧
      takeFraction ((cs ++ power).dropWhile isDigit) = (fs, power) := by
  have hpower : ∀ c ∈ power.head?, isDigit c = false := fun c hc => (hp.head_not_digit c hc).1
  cases h with
  | whole digits filled =>
    obtain ⟨htake, hdrop⟩ := takeWhile_digits digits hpower
    refine ⟨htake, ?_⟩
    rw [hdrop]
    unfold takeFraction
    split
    · exact absurd rfl (hp.head_not_digit '.' rfl).2
    · rfl
  | point digits fraction filled =>
    have hpoint : ∀ c ∈ ('.' :: (fs ++ power)).head?, isDigit c = false := by
      rintro c ⟨⟩
      decide
    obtain ⟨htake, hdrop⟩ := takeWhile_digits digits hpoint
    obtain ⟨hftake, hfdrop⟩ := takeWhile_digits fraction hpower
    rw [List.append_assoc, List.cons_append]
    exact ⟨htake, by rw [hdrop, takeFraction, hftake, hfdrop]⟩

theorem SpellsDigits.filled (h : SpellsDigits ds fs cs) : ¬ (ds = [] ∧ fs = []) := by
  rintro ⟨rfl, rfl⟩
  cases h with
  | whole _ filled => exact filled rfl
  | point _ _ filled => simp at filled

theorem SpellsDigits.head_ne_sign (h : SpellsDigits ds fs cs) (power : List Char) :
    ∀ c ∈ (cs ++ power).head?, c ≠ '+' ∧ c ≠ '-' := by
  intro c hc
  cases h with
  | whole digits filled =>
    obtain ⟨d, rest, rfl⟩ := List.exists_cons_of_ne_nil filled
    exact digits.head_ne_sign c hc
  | point digits fraction filled =>
    cases ds with
    | nil =>
      obtain rfl : '.' = c := Option.some.inj hc
      decide
    | cons d ds => exact digits.head_ne_sign c hc

/-- The digits taken off some characters, and what is left after their fraction, make them up. -/
theorem takeFraction_spells (cs : List Char)
    (filled : ¬ (cs.takeWhile isDigit = [] ∧ (takeFraction (cs.dropWhile isDigit)).1 = [])) :
    ∃ digits, SpellsDigits (cs.takeWhile isDigit) (takeFraction (cs.dropWhile isDigit)).1 digits ∧
      cs = digits ++ (takeFraction (cs.dropWhile isDigit)).2 := by
  have hcs : cs = cs.takeWhile isDigit ++ cs.dropWhile isDigit :=
    List.takeWhile_append_dropWhile.symm
  have hwhole := isDigits_takeWhile cs
  revert filled hcs hwhole
  generalize cs.takeWhile isDigit = ds
  generalize cs.dropWhile isDigit = rest
  intro filled hcs hwhole
  unfold takeFraction at filled ⊢
  split at filled
  · next after =>
    refine ⟨_, .point hwhole (isDigits_takeWhile after) (not_and_or.mp filled), ?_⟩
    rw [hcs, List.append_assoc, List.cons_append, List.takeWhile_append_dropWhile]
  · exact ⟨ds, .whole hwhole fun hds => filled ⟨hds, rfl⟩, hcs⟩

/-- What is read of some characters is written by them. -/
theorem spells_of_read? (h : read? cs = some n) : n.Spells cs := by
  obtain ⟨sign, hsign, hcs⟩ := spellsSign_takeSign cs
  unfold read? at h
  dsimp only at h
  obtain ⟨hfilled, h⟩ := Option.ite_none_left_eq_some.mp h
  obtain ⟨e, he, rfl⟩ := Option.map_eq_some_iff.mp h
  obtain ⟨digits, hdigits, hrest⟩ := takeFraction_spells _ hfilled
  refine ⟨sign, digits, _, hsign, hdigits, readExponent?_eq_some_iff.mp he, ?_⟩
  rw [List.append_assoc, ← hrest]
  exact hcs

/-- Reading accepts exactly the characters that write a numeral. -/
theorem read?_eq_some_iff : read? cs = some n ↔ n.Spells cs := by
  refine ⟨spells_of_read?, ?_⟩
  rintro ⟨sign, digits, power, hsign, hdigits, hpower, rfl⟩
  obtain ⟨hwhole, hfraction⟩ := takeFraction_append hdigits hpower
  have htake : takeSign (sign ++ digits ++ power) = (n.negative, digits ++ power) := by
    rw [List.append_assoc, takeSign_append hsign (hdigits.head_ne_sign power)]
  simp only [read?, htake, hwhole, hfraction, if_neg hdigits.filled,
    readExponent?_eq_some_iff.mpr hpower, Option.map_some]

theorem ofText?_eq_some_iff {s : String} : ofText? s = some n ↔ n.Spells s.toList :=
  read?_eq_some_iff

theorem Spells.unique {m : Numeral} (h : m.Spells cs) (h' : n.Spells cs) : m = n :=
  Option.some.inj ((read?_eq_some_iff.mpr h).symm.trans (read?_eq_some_iff.mpr h'))

end Numeral

end TapScript
