import TapScript.Proofs.Script.Words

/-! # Scripts as they are written

Tokens that hold nothing that their line could not hold can be written, and a script that is
written token by token and line by line is read back as its tokens, one command for each line.
-/

namespace TapScript

open Outcome

namespace Line

open Token

/-- Whether tokens make a line that holds a command: the first of them names it, and does not
start a comment. -/
structure IsRow (row : List Token) : Prop where
  representable : ∀ t ∈ row, t.IsRepresentable
  named : ∃ t ∈ row.head?, t.text ≠ "" ∧ (t.quoted = false → ¬ ['/', '/'] <+: t.text.toList)

instance (row : List Token) : Decidable (IsRow row) :=
  decidable_of_iff
    ((∀ t ∈ row, t.IsRepresentable) ∧
      ∃ t ∈ row.head?, t.text ≠ "" ∧ (t.quoted = false → ¬ ['/', '/'] <+: t.text.toList))
    ⟨fun h => ⟨h.1, h.2⟩, fun h => ⟨h.representable, h.named⟩⟩

/-- The line that tokens write. -/
def written (row : List Token) : String :=
  lineOf (row.map Token.written)

theorem IsRow.writes (h : IsRow row) : Writes (row.map Token.written) row where
  spells := by
    rw [List.forall₂_map_right_iff, List.forall₂_same]
    exact fun t ht => (h.representable t ht).spells
  first := by
    obtain ⟨t, ht, -, hname⟩ := h.named
    have hrep := h.representable t (List.mem_of_mem_head? ht)
    refine ⟨t.written, ?_, hrep.isTight, fun hs => ?_⟩
    · rw [List.head?_map]
      exact Option.map_eq_some_iff.mpr ⟨t, ht, rfl⟩
    · obtain ⟨hq, hs⟩ := hrep.slashes_of_written hs
      exact hname hq hs
  last w hw := by
    rw [List.getLast?_map] at hw
    obtain ⟨t, ht, rfl⟩ := Option.map_eq_some_iff.mp hw
    exact (h.representable t (List.mem_of_getLast? ht)).isTight

theorem numbered_written {rows : List (List Token)} (h : ∀ row ∈ rows, IsRow row) (n : Nat) :
    numbered n (rows.map fun row => (written row).toList) =
      (rows.zipIdx n).map fun r => ⟨r.2, written r.1⟩ := by
  induction rows generalizing n with
  | nil => rfl
  | cons row rows ih =>
    obtain ⟨hrow, h⟩ := List.forall_mem_cons.mp h
    rw [List.map_cons, written, hrow.writes.numbered_cons, ih h]
    rfl

end Line

theorem Outcome.exists_mapM_ok {α β φ : Type} {f : α → Except φ β} {R : α → β → Prop}
    {as : List α} (h : ∀ a ∈ as, ∃ b, f a = .ok b ∧ R a b) :
    ∃ bs, as.mapM f = .ok bs ∧ List.Forall₂ R as bs := by
  induction as with
  | nil => exact ⟨[], rfl, .nil⟩
  | cons a as ih =>
    obtain ⟨⟨b, hb, hr⟩, h⟩ := List.forall_mem_cons.mp h
    obtain ⟨bs, hbs, hrs⟩ := ih h
    refine ⟨b :: bs, ?_, .cons hr hrs⟩
    rw [List.mapM_cons, hb, hbs]
    rfl

namespace Script

/-- The text of a script that some rows of tokens write. -/
def written (rows : List (List Token)) : String :=
  "\n".intercalate (rows.map Line.written)

variable {rows : List (List Token)}

theorem scan_written (h : ∀ row ∈ rows, Line.IsRow row) :
    Line.scan (written rows) = (rows.zipIdx 1).map fun r => ⟨r.2, Line.written r.1⟩ := by
  cases rows with
  | nil => rfl
  | cons row rows =>
    have hlines : ∀ l ∈ (row :: rows).map fun row => (Line.written row).toList, '\n' ∉ l := by
      intro l hl
      obtain ⟨row', hrow, rfl⟩ := List.mem_map.mp hl
      exact (h row' hrow).writes.lineEnd_not_mem
    have htext : (written (row :: rows)).toList =
        ['\n'].intercalate ((row :: rows).map fun row => (Line.written row).toList) := by
      rw [written, String.toList_intercalate, List.map_map]
      rfl
    rw [Line.scan, htext, Text.splitOn_intercalate hlines (by simp)]
    exact Line.numbered_written h 1

/-- A script that is written token by token is read back, one command for each row of tokens. -/
theorem parse_written (h : ∀ row ∈ rows, Line.IsRow row) (source : Option Path) :
    ∃ cs, parse (written rows) source = .ok ⟨cs, source⟩ ∧
      List.Forall₂ (Command.Reads source) (rows.zipIdx 1) cs := by
  have hread : ∀ r ∈ rows.zipIdx 1, ∃ c,
      Command.ofLine source ⟨r.2, Line.written r.1⟩ = .ok c ∧ Command.Reads source r c := by
    intro r hr
    have hrow := h r.1 (List.fst_mem_of_mem_zipIdx hr)
    obtain ⟨t, ht, hname, -⟩ := hrow.named
    exact Command.ofLine_reads hrow.writes ⟨t, ht, hname⟩ r.2 source
  obtain ⟨cs, hcs, hreads⟩ := exists_mapM_ok hread
  refine ⟨cs, ?_, hreads⟩
  rw [parse, scan_written h, List.mapM_map]
  simp only [Function.comp_def, hcs]
  rfl

/-- Quotes of one kind between those of the other, an empty token, a blank at the end of a token
and slashes are read back. -/
theorem parse_written_buying :
    ∃ cs, parse "shop.buy 'a \"b\" ' \"\"\n\"//say it\" //" none = .ok ⟨cs, none⟩ ∧
      List.Forall₂ (Command.Reads none)
        [([⟨"shop.buy", false⟩, ⟨"a \"b\" ", true⟩, ⟨"", true⟩], 1),
          ([⟨"//say it", true⟩, ⟨"//", false⟩], 2)] cs := by
  have rows_ok : ∀ row ∈ [[⟨"shop.buy", false⟩, ⟨"a \"b\" ", true⟩, ⟨"", true⟩],
      [⟨"//say it", true⟩, ⟨"//", false⟩]], Line.IsRow row := by decide
  exact parse_written rows_ok none

end Script

end TapScript
