import TapScript.Locator

/-! # Selectors

A page finds elements by selectors: an XPath expression, or the label of an element between double
quotes.
-/

namespace TapScript

namespace Selector

/-- Some characters with others in each place of one of them. -/
def replace (c : Char) (others cs : List Char) : List Char :=
  cs.flatMap fun d => if d = c then others else [d]

/-- The characters of a label between double quotes: the backslashes are doubled first, and then a
backslash is put before each quote. -/
def escape (cs : List Char) : List Char :=
  replace '"' ['\\', '"'] (replace '\\' ['\\', '\\'] cs)

/-- The label that some characters between double quotes stand for; nothing when a quote stands
there unescaped or an escape is cut off. -/
def unescape : List Char → Option (List Char)
  | [] => some []
  | ['\\'] => none
  | '\\' :: c :: cs => (unescape cs).map (c :: ·)
  | c :: cs => if c = '"' then none else (unescape cs).map (c :: ·)

/-- The selector of a locator. -/
def ofLocator (s : Strategy) (locator : String) : String :=
  match s with
  | .xpath => "xpath=" ++ locator
  | .accessibilityId =>
    "[aria-label=\"" ++ String.ofList (escape locator.toList) ++ "\"]"

/-- A backslash is put before each quote and each backslash of a label, and nowhere else. -/
theorem escape_eq (cs : List Char) :
    escape cs = cs.flatMap fun c => if c = '"' ∨ c = '\\' then ['\\', c] else [c] := by
  rw [escape, replace, replace, List.flatMap_assoc]
  refine congrArg cs.flatMap (funext fun c => ?_)
  by_cases hb : c = '\\'
  · subst hb
    rfl
  · by_cases hq : c = '"'
    · subst hq
      rfl
    · simp [hb, hq]

theorem unescape_escape (cs : List Char) : unescape (escape cs) = some cs := by
  rw [escape_eq]
  induction cs with
  | nil => rfl
  | cons c cs ih =>
    by_cases h : c = '"' ∨ c = '\\'
    · simp [h, unescape, ih]
    · obtain ⟨hq, hb⟩ := not_or.1 h
      simp only [List.flatMap_cons, h, if_false, List.cons_append, List.nil_append]
      rw [unescape]
      · simp [hq, ih]
      · simp_all
      · simp_all

end Selector

end TapScript
