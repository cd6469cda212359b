import TapScript.Proofs.Number.Doubles
import TapScript.Proofs.Number.Spelling
import TapScript.Proofs.Script.Words

/-! # Converting texts to doubles

A conversion takes more texts than numerals: blanks at both ends, bars between digits, and the words
for infinity and for what is no number, in any case. It fails on all others. What is a numeral is
converted, and to a number.
-/

namespace TapScript

namespace Double

open Text Numeral

/-- The digits that some characters begin with, single bars between them left out, and what
follows. -/
def takeDigits : (inside : Bool) → List Char → List Char × List Char
  | _, [] => ([], [])
  | inside, c :: cs =>
    if isDigit c then
      let (ds, rest) := takeDigits true cs
      (c :: ds, rest)
    else if inside ∧ c = '_' ∧ cs.head?.any isDigit then takeDigits false cs
    else ([], c :: cs)

/-- The digits after a point, and what follows them. -/
def takeDecimals : List Char → List Char × List Char
  | '.' :: cs => takeDigits false cs
  | cs => ([], cs)

/-- The power of ten that a number ends with. -/
def power? : List Char → Option Int
  | [] => some 0
  | c :: cs =>
    let (negative, cs) := takeSign cs
    let (ds, rest) := takeDigits false cs
    if (c = 'e' ∨ c = 'E') ∧ ds ≠ [] ∧ rest = [] then
      some (if negative then -(digitsValue ds : Int) else digitsValue ds)
    else none

/-- The finite number that some characters write. -/
def decimal? (negative : Bool) (cs : List Char) : Option Numeral :=
  let (whole, rest) := takeDigits false cs
  let (fraction, rest) := takeDecimals rest
  if whole = [] ∧ fraction = [] then none
  else (power? rest).map fun e => ⟨negative, whole, fraction, e⟩

/-- The double that a word names. -/
def named? (cs : List Char) : Option Float :=
  let word := String.ofList (cs.map Char.toLower)
  if word = "inf" ∨ word = "infinity" then some (1 / 0)
  else if word = "nan" then some (0 / 0)
  else none

/-- The double that a text is converted to. -/
def ofText? (s : String) : Option Float :=
  let (negative, cs) := takeSign (trim s.toList)
  match named? cs with
  | some x => some (if negative then -x else x)
  | none => (decimal? negative cs).map toFloat

variable {inside negative : Bool} {ds cs fs power : List Char} {c : Char} {e : Int} {n : Numeral}

theorem takeDigits_append (h : IsDigits ds) (hcs : ∀ c ∈ cs.head?, isDigit c = false ∧ c ≠ '_') :
    takeDigits inside (ds ++ cs) = (ds, cs) := by
  induction ds generalizing inside with
  | nil =>
    cases cs with
    | nil => rfl
    | cons c cs =>
      obtain ⟨hd, hb⟩ := hcs c rfl
      simp [takeDigits, hd, hb]
  | cons d ds ih =>
    have hd : isDigit d = true := h d List.mem_cons_self
    simp [takeDigits, hd, ih fun c hc => h c (List.mem_cons_of_mem _ hc)]

theorem power?_of_spells (h : SpellsPower e power) : power? power = some e := by
  cases h with
  | none => rfl
  | @power negative sign ds c letter hsign digits filled =>
    have hds : takeSign (sign ++ ds) = (negative, ds) := takeSign_append hsign digits.head_ne_sign
    have htake : takeDigits false (ds ++ []) = (ds, []) := takeDigits_append digits nofun
    rw [List.append_nil] at htake
    simp [power?, hds, htake, letter, filled]

theorem head_of_spellsPower (h : SpellsPower e power) :
    ∀ c ∈ power.head?, isDigit c = false ∧ c ≠ '_' := by
  cases h with
  | none => nofun
  | power letter =>
    rintro c ⟨⟩
    obtain rfl | rfl := letter <;> decide

theorem takeDigits_of_spells (h : SpellsDigits ds fs cs) (hp : SpellsPower e power) :
    ∃ rest, takeDigits false (cs ++ power) = (ds, rest) ∧ takeDecimals rest = (fs, power) := by
  cases h with
  | whole digits filled =>
    refine ⟨power, takeDigits_append digits (head_of_spellsPower hp), ?_⟩
    unfold takeDecimals
    split
    · exact absurd rfl (hp.head_not_digit '.' rfl).2
    · rfl
  | point digits fraction filled =>
    have hpoint : ∀ c ∈ ('.' :: (fs ++ power)).head?, isDigit c = false ∧ c ≠ '_' := by
      rintro c ⟨⟩
      decide
    rw [List.append_assoc, List.cons_append]
    exact ⟨_, takeDigits_append digits hpoint, takeDigits_append fraction (head_of_spellsPower hp)⟩

theorem decimal?_of_spells (h : SpellsDigits n.whole n.fraction cs)
    (hp : SpellsPower n.exponent power) : decimal? n.negative (cs ++ power) = some n := by
  obtain ⟨rest, hwhole, hfraction⟩ := takeDigits_of_spells h hp
  simp only [decimal?, hwhole, hfraction, if_neg h.filled, power?_of_spells hp, Option.map_some]

/-! ### What no numeral has -/

theorem isDigit_window (h : isDigit c = true) : ∃ z ∈ zeros, z ≤ c.toNat ∧ c.toNat < z + 10 := by
  obtain ⟨value, hv⟩ := Option.isSome_iff_exists.mp h
  obtain ⟨z, hz, -⟩ := Option.map_eq_some_iff.mp hv
  have hw := List.find?_some hz
  simp only [Bool.and_eq_true, decide_eq_true_eq] at hw
  exact ⟨z, List.mem_of_find?_eq_some hz, hw⟩

theorem not_isBlank_of_isDigit (h : isDigit c = true) : isBlank c = false := by
  have hapart : ∀ r ∈ blankRanges, ∀ z ∈ zeros, r.2 < z ∨ z + 10 ≤ r.1 := by decide
  obtain ⟨z, hz, hl, hu⟩ := isDigit_window h
  refine Bool.eq_false_iff.mpr fun hb => ?_
  obtain ⟨r, hr, hrl, hru⟩ := Ranges.holds_iff.mp hb
  have hrz := hapart r hr z hz
  omega

/-- A digit has no case. -/
theorem toLower_of_isDigit (h : isDigit c = true) : c.toLower = c := by
  have hapart : ∀ z ∈ zeros, z + 10 ≤ 65 ∨ 90 < z := by decide
  obtain ⟨z, hz, hl, hu⟩ := isDigit_window h
  have hletters := hapart z hz
  unfold Char.toLower
  split
  · next hc =>
    have h₁ : 65 ≤ c.toNat := hc.1
    have h₂ : c.toNat ≤ 90 := hc.2
    omega
  · rfl

theorem spellsDigits_eq_cons (h : SpellsDigits ds fs cs) :
    ∃ c rest, cs = c :: rest ∧ (isDigit c = true ∨ c = '.') := by
  cases h with
  | whole digits filled =>
    obtain ⟨d, ds, rfl⟩ := List.exists_cons_of_ne_nil filled
    exact ⟨d, ds, rfl, .inl (digits d List.mem_cons_self)⟩
  | point digits =>
    cases ds with
    | nil => exact ⟨'.', _, rfl, .inr rfl⟩
    | cons d ds => exact ⟨d, _, rfl, .inl (digits d List.mem_cons_self)⟩

/-- No numeral looks like a word. -/
theorem named?_eq_none (h : isDigit c = true ∨ c = '.') : named? (c :: cs) = none := by
  have hc : c.toLower ≠ 'i' ∧ c.toLower ≠ 'n' := by
    rcases h with h | rfl
    · rw [toLower_of_isDigit h]
      constructor <;> (rintro rfl; revert h; decide)
    · decide
  simp [named?, String.ext_iff, hc]

theorem not_isBlank_of_sign {sign : List Char} (h : SpellsSign negative sign) :
    ∀ c ∈ sign, isBlank c = false := by
  cases h with
  | none => exact nofun
  | plus => exact List.forall_mem_singleton.mpr rfl
  | minus => exact List.forall_mem_singleton.mpr rfl

theorem not_isBlank_of_digits (h : IsDigits ds) : ∀ c ∈ ds, isBlank c = false :=
  fun c hc => not_isBlank_of_isDigit (h c hc)

theorem not_isBlank_of_spellsDigits (h : SpellsDigits ds fs cs) :
    ∀ c ∈ cs, isBlank c = false := by
  cases h with
  | whole digits _ => exact not_isBlank_of_digits digits
  | point digits fraction _ =>
    rw [List.forall_mem_append, List.forall_mem_cons]
    exact ⟨not_isBlank_of_digits digits, by decide, not_isBlank_of_digits fraction⟩

theorem not_isBlank_of_spellsPower (h : SpellsPower e power) : ∀ c ∈ power, isBlank c = false := by
  cases h with
  | none => exact nofun
  | power letter signed digits _ =>
    rw [List.forall_mem_cons, List.forall_mem_append]
    refine ⟨?_, not_isBlank_of_sign signed, not_isBlank_of_digits digits⟩
    rcases letter with rfl | rfl <;> decide

theorem not_isBlank_of_spells (h : n.Spells cs) : ∀ c ∈ cs, isBlank c = false := by
  obtain ⟨sign, digits, power, hsign, hdigits, hpower, rfl⟩ := h
  intro c hc
  rcases List.mem_append.mp hc with hc | hc
  · rcases List.mem_append.mp hc with hc | hc
    · exact not_isBlank_of_sign hsign c hc
    · exact not_isBlank_of_spellsDigits hdigits c hc
  · exact not_isBlank_of_spellsPower hpower c hc

/-- Every numeral is converted. -/
theorem ofText?_of_numeral {s : String} (h : Numeral.ofText? s = some n) :
    ofText? s = some n.toFloat := by
  have hs : n.Spells s.toList := Numeral.ofText?_eq_some_iff.mp h
  have hblank := not_isBlank_of_spells hs
  obtain ⟨sign, digits, power, hsign, hdigits, hpower, hcs⟩ := hs
  obtain ⟨c, rest, hc, hfirst⟩ := spellsDigits_eq_cons hdigits
  have htrim : trim s.toList = sign ++ (digits ++ power) := by
    rw [(IsTight.ofAll (by simp [hcs, hc]) hblank).trim_eq, hcs, List.append_assoc]
  have htake : takeSign (trim s.toList) = (n.negative, digits ++ power) := by
    rw [htrim, takeSign_append hsign (hdigits.head_ne_sign power)]
  have hnamed : named? (digits ++ power) = none := hc ▸ named?_eq_none hfirst
  simp only [ofText?, htake, hnamed, decimal?_of_spells hdigits hpower, Option.map_some]

example : (ofText? " 1_0 ").isSome = true ∧ (ofText? "-Inf").isSome = true ∧
    (ofText? "1_").isSome = false := by decide

/-- Whether a text is a numeral and is converted to a double, which is a number. -/
structure Converts (s : String) (x : Float) : Prop where
  numeric : isNumeric s = true
  converted : ofText? s = some x
  number : x.isNaN = false

theorem isNaN_eq_false {x : Float} (h : IsNumber x) : x.isNaN = false := by
  unfold Float.isNaN Float.Model.isNaN
  unfold IsNumber at h
  cases hx : x.toModel.unpack with
  | notANumber => exact absurd hx h
  | _ => rfl

theorem converts_toFloat {s : String} (h : Numeral.ofText? s = some n) :
    Converts s n.toFloat where
  numeric := by rw [isNumeric, h, Option.isSome_some]
  converted := ofText?_of_numeral h
  number := isNaN_eq_false n.isNumber_toFloat

/-- What the guard lets through is converted. -/
theorem exists_converts {s : String} (h : isNumeric s = true) : ∃ x, Converts s x := by
  obtain ⟨n, hn⟩ := Option.isSome_iff_exists.mp h
  exact ⟨n.toFloat, converts_toFloat hn⟩

end Double

end TapScript
