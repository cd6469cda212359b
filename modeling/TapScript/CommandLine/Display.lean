import TapScript.Fault

/-! # Displays

Texts are printed on a display. It takes the tags in them as markup, and lays out what is seen of
them in the width that it has. A table is laid out from what is seen of its cells, which are
rendered column by column.
-/

namespace TapScript.CommandLine

/-- A column of a table: its heading, whether it stands at the right edge, and the cells. -/
structure Column where
  heading : String
  atRight : Bool := false
  cells : List String := []
  deriving DecidableEq, Repr

/-- A table of texts, in a box or not. -/
structure Table where
  title : Option String := none
  boxed : Bool := true
  columns : List Column
  deriving DecidableEq, Repr

namespace Table

/-- The table with some rows, whose cells stand in the columns one after the other. -/
def fill (t : Table) (rows : List (List String)) : Table :=
  { t with columns := t.columns.mapIdx fun i c =>
      { c with cells := rows.map fun row => row[i]?.getD "" } }

end Table

/-- What texts are printed on: what is seen of a text with markup, how a text is written so that
all of it is seen, and how seen texts, documents and tables of seen texts are laid out. -/
structure Display where
  render : String → Except MarkupError String
  escape : String → String
  flow : String → String
  listing : String → String
  layout : Table → String

namespace Display

variable (d : Display)

/-- A column with what is seen of its cells. -/
def renderColumn (c : Column) : Except MarkupError Column := do
  return { c with heading := ← d.render c.heading, cells := ← c.cells.mapM d.render }

/-- A table with what is seen of its cells. -/
def renderTable (t : Table) : Except MarkupError Table := do
  return { t with columns := ← t.columns.mapM d.renderColumn, title := ← t.title.mapM d.render }

end Display

end TapScript.CommandLine
