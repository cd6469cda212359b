import TapScript.CommandLine.Display
import TapScript.Proofs.Json.Reading
import TapScript.Proofs.Outcome

/-! # Faithful displays

The program relies on its display for a few laws. Plain texts are seen as they are, also between a
tag and the tag that closes it, and what else is printed does not hang on them. Escaped texts can
always be rendered, and a closing tag alone cannot. A table can be rendered if all its cells can.
-/

namespace TapScript.CommandLine

/-- Whether a text holds nothing that may be taken as markup: no opening bracket, no control
character, and no name between two colons. -/
structure IsPlain (s : String) : Prop where
  bare : ∀ c ∈ s.toList, c ≠ '[' ∧ ' '.toNat ≤ c.toNat
  colons : s.toList.count ':' ≤ 1

/-- Whether a text holds neither brackets that open nor colons or control characters. -/
def IsBare (s : String) : Prop :=
  ∀ c ∈ s.toList, c ≠ '[' ∧ c ≠ ':' ∧ ' '.toNat ≤ c.toNat

instance : DecidablePred IsBare := fun s => List.decidableBAll _ s.toList

instance : DecidablePred IsPlain := fun s =>
  have : Decidable (∀ c ∈ s.toList, c ≠ '[' ∧ ' '.toNat ≤ c.toNat) :=
    List.decidableBAll _ s.toList
  decidable_of_iff (_ ∧ s.toList.count ':' ≤ 1) ⟨fun h => ⟨h.1, h.2⟩, fun h => ⟨h.bare, h.colons⟩⟩

namespace IsBare

variable {s t : String}

theorem append (h : IsBare s) (h' : IsBare t) : IsBare (s ++ t) := by
  rw [IsBare, String.toList_append]
  exact List.forall_mem_append.mpr ⟨h, h'⟩

theorem count_eq (h : IsBare s) : s.toList.count ':' = 0 :=
  List.count_eq_zero.mpr fun hm => (h _ hm).2.1 rfl

theorem toDigits (n : Nat) : IsBare (String.ofList (Nat.toDigits 10 n)) := by
  intro c hc
  rw [String.toList_ofList] at hc
  have hdigit := Nat.isDigit_of_mem_toDigits (by decide) (by decide) hc
  have hle : '0'.toNat ≤ c.toNat := by
    rw [Char.isDigit, Bool.and_eq_true] at hdigit
    exact of_decide_eq_true hdigit.1
  refine ⟨?_, ?_, Nat.le_trans (by decide) hle⟩ <;> rintro rfl <;> revert hdigit <;> decide

theorem toString_nat (n : Nat) : IsBare (toString n) := by
  change IsBare (Nat.repr n)
  rw [Nat.repr_eq_ofList_toDigits]
  exact toDigits n

theorem toString_int (i : Int) : IsBare (toString i) := by
  have hdigits := toDigits i.natAbs
  rw [IsBare, String.toList_ofList] at hdigits
  rw [IsBare, JsonValue.toList_toString, List.forall_mem_append]
  refine ⟨?_, hdigits⟩
  split
  · exact List.forall_mem_nil _
  · exact List.forall_mem_singleton.mpr ⟨by decide, by decide, by decide⟩

end IsBare

/-- Adding a bare text to a plain one adds no name between colons. -/
theorem IsPlain.append {s t : String} (h : IsPlain s) (h' : IsBare t) : IsPlain (s ++ t) where
  bare := by
    rw [String.toList_append]
    exact List.forall_mem_append.mpr ⟨h.bare, fun c hc => ⟨(h' c hc).1, (h' c hc).2.2⟩⟩
  colons := by
    rw [String.toList_append, List.count_append, h'.count_eq]
    exact h.colons

theorem IsBare.append_plain {s t : String} (h : IsBare s) (h' : IsPlain t) :
    IsPlain (s ++ t) where
  bare := by
    rw [String.toList_append]
    exact List.forall_mem_append.mpr ⟨fun c hc => ⟨(h c hc).1, (h c hc).2.2⟩, h'.bare⟩
  colons := by
    rw [String.toList_append, List.count_append, h.count_eq, Nat.zero_add]
    exact h'.colons

theorem IsBare.isPlain {s : String} (h : IsBare s) : IsPlain s where
  bare c hc := ⟨(h c hc).1, (h c hc).2.2⟩
  colons := by simp [h.count_eq]

/-- Whether a text names a style in one word of small letters. -/
structure IsStyle (style : String) : Prop where
  named : style.toList ≠ []
  letters : style.toList.all (·.isLower) = true

/-- A text between the tags of a style. -/
def inStyle (style text : String) : String :=
  "[" ++ style ++ "]" ++ text ++ "[/" ++ style ++ "]"

/-- The tag that closes what a name says. -/
def closingTag (name : String) : String :=
  "[/" ++ name ++ "]"

namespace Column

/-- The column with other texts in the place of its heading and cells. -/
def map (f : String → String) (c : Column) : Column :=
  { c with heading := f c.heading, cells := c.cells.map f }

/-- The heading and the cells of a column. -/
def texts (c : Column) : List String :=
  c.heading :: c.cells

end Column

namespace Table

/-- The table with other texts in the place of its title, headings and cells. -/
def map (f : String → String) (t : Table) : Table :=
  { t with columns := t.columns.map (·.map f), title := t.title.map f }

/-- The texts in a table. -/
def texts (t : Table) : List String :=
  t.columns.flatMap Column.texts ++ t.title.toList

end Table

namespace Display

variable (d : Display)

/-- What is seen of a text, if it can be rendered. -/
def seen? (s : String) : Option String :=
  (d.render s).toOption

/-- Whether a text can be rendered. -/
def Renders (s : String) : Prop :=
  ∃ seen, d.render s = .ok seen

/-- What is seen of a text that can be rendered. -/
def shown (s : String) : String :=
  (d.seen? s).getD ""

/-- Whether escaping a text makes all of it seen as it is. -/
def Keeps (s : String) : Prop :=
  d.render (d.escape s) = .ok s

/-- What a display is relied on for. -/
structure IsFaithful : Prop where
  plain : ∀ {s}, IsPlain s → d.render s = .ok s
  blank : ∀ s, d.seen? (" " ++ s) = (d.seen? s).map (" " ++ ·)
  styled : ∀ {style text} rest, IsStyle style → IsPlain text → text.toList.getLast? ≠ some '\\' →
    d.seen? (inStyle style text ++ rest) = (d.seen? rest).map (text ++ ·)
  enclosed : ∀ {style text}, IsStyle style → '/' ∉ text.toList → d.Renders (inStyle style text)
  escaped : ∀ s, d.Renders (d.escape s)
  closing : ∀ {name : String}, (∀ c ∈ name.toList, c ≠ '[' ∧ c ≠ ']') →
    ¬ d.Renders (closingTag name)

variable {d} {s text : String} {c c' : Column} {t t' : Table}

theorem renders_iff : d.Renders s ↔ (d.seen? s).isSome = true := by
  unfold Renders seen?
  cases d.render s <;> simp [Except.toOption]

theorem seen?_of_render (h : d.render s = .ok text) : d.seen? s = some text := by
  rw [seen?, h]
  rfl

theorem shown_of_seen? (h : d.seen? s = some text) : d.shown s = text := by
  rw [shown, h, Option.getD_some]

theorem shown_of_render (h : d.render s = .ok text) : d.shown s = text :=
  shown_of_seen? (seen?_of_render h)

theorem render_eq_ok : d.render s = .ok text ↔ d.Renders s ∧ text = d.shown s := by
  constructor
  · intro h
    exact ⟨⟨text, h⟩, (shown_of_render h).symm⟩
  · rintro ⟨⟨seen, h⟩, rfl⟩
    rw [h, shown_of_render h]

theorem exists_of_not_renders (h : ¬ d.Renders s) : ∃ e, d.render s = .error e := by
  cases hr : d.render s with
  | error e => exact ⟨e, rfl⟩
  | ok seen => exact absurd ⟨seen, hr⟩ h

theorem render_of_seen? (h : d.seen? s = some text) : d.render s = .ok text :=
  Outcome.eq_ok_of_toOption h

namespace IsFaithful

variable {style mark : String}

/-- A plain text in a style is seen as it is. -/
theorem render_inStyle (h : d.IsFaithful) (hs : IsStyle style) (ht : IsPlain text)
    (hl : text.toList.getLast? ≠ some '\\') : d.render (inStyle style text) = .ok text := by
  have hempty : d.seen? "" = some "" := seen?_of_render (h.plain (by decide))
  have hseen := h.styled "" hs ht hl
  rw [hempty, Option.map_some, String.append_empty, String.append_empty] at hseen
  exact render_of_seen? hseen

/-- What is seen of a line that starts with a mark in a style. -/
theorem seen?_marked (h : d.IsFaithful) (hs : IsStyle style) (hm : IsPlain mark)
    (hl : mark.toList.getLast? ≠ some '\\') (rest : String) :
    d.seen? ("  " ++ inStyle style mark ++ " " ++ rest) =
      (d.seen? rest).map ("  " ++ mark ++ " " ++ ·) := by
  have hblanks (s : String) : "  " ++ s = " " ++ (" " ++ s) := by
    rw [← String.append_assoc]
    rfl
  rw [String.append_assoc, String.append_assoc, hblanks, h.blank, h.blank, h.styled _ hs hm hl,
    h.blank, Option.map_map, Option.map_map, Option.map_map]
  refine congrArg (Option.map · _) (funext fun seen => ?_)
  simp only [Function.comp_apply, String.append_assoc, hblanks]

end IsFaithful

theorem renderColumn_eq_ok :
    d.renderColumn c = .ok c' ↔ (∀ s ∈ c.texts, d.Renders s) ∧ c' = c.map d.shown := by
  have hcells {cells : List String} : c.cells.mapM d.render = .ok cells ↔
      (∀ s ∈ c.cells, d.Renders s) ∧ cells = c.cells.map d.shown :=
    Outcome.mapM_eq_ok_map fun _ _ => render_eq_ok
  simp only [renderColumn, Outcome.bind_eq_ok, render_eq_ok, hcells, Column.texts,
    List.forall_mem_cons]
  constructor
  · rintro ⟨_, ⟨hheading, rfl⟩, _, ⟨hall, rfl⟩, ⟨⟩⟩
    exact ⟨⟨hheading, hall⟩, rfl⟩
  · rintro ⟨⟨hheading, hall⟩, rfl⟩
    exact ⟨_, ⟨hheading, rfl⟩, _, ⟨hall, rfl⟩, rfl⟩

/-- A table can be rendered if and only if all texts in it can. -/
theorem renderTable_eq_ok :
    d.renderTable t = .ok t' ↔ (∀ s ∈ t.texts, d.Renders s) ∧ t' = t.map d.shown := by
  have hcolumns {columns : List Column} : t.columns.mapM d.renderColumn = .ok columns ↔
      (∀ c ∈ t.columns, ∀ s ∈ c.texts, d.Renders s) ∧ columns = t.columns.map (·.map d.shown) :=
    Outcome.mapM_eq_ok_map fun _ _ => renderColumn_eq_ok
  have htitle {title : Option String} : t.title.mapM d.render = .ok title ↔
      (∀ s ∈ t.title.toList, d.Renders s) ∧ title = t.title.map d.shown := by
    cases t.title with
    | none => simp [pure, Except.pure, eq_comm]
    | some s =>
      change Except.map some (d.render s) = .ok title ↔ _
      cases hr : d.render s with
      | error e => simp [Except.map, Renders, hr]
      | ok seen => simp [Except.map, Renders, hr, shown_of_render hr, eq_comm]
  simp only [renderTable, Outcome.bind_eq_ok, hcolumns, htitle, Table.texts,
    List.forall_mem_append, List.forall_mem_flatMap]
  constructor
  · rintro ⟨_, ⟨hc, rfl⟩, _, ⟨ht, rfl⟩, ⟨⟩⟩
    exact ⟨⟨hc, ht⟩, rfl⟩
  · rintro ⟨⟨hc, ht⟩, rfl⟩
    exact ⟨_, ⟨hc, rfl⟩, _, ⟨ht, rfl⟩, rfl⟩

end Display

end TapScript.CommandLine
