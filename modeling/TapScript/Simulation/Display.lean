import TapScript.CommandLine.Display
import TapScript.Markup.Render
import TapScript.Text.Split

/-! # Simulated displays

A simulated display has all the width that is needed. It breaks no lines, and puts blanks between
the columns of a table instead of a box around it.
-/

namespace TapScript.Simulation

open CommandLine

/-- A text with blanks beside it up to a width. -/
def padded (width : Nat) (atRight : Bool) (s : String) : String :=
  let blanks := String.ofList (List.replicate (width - s.length) ' ')
  if atRight then blanks ++ s else s ++ blanks

/-- The lines of the cells of a column, padded to the widest. -/
def cellLines (c : Column) : List (List String) :=
  let lines := (c.heading :: c.cells).map (Text.pieces '\n')
  let width := (lines.flatten.map String.length).foldl max 0
  lines.map (·.map (padded width c.atRight))

/-- The lines of a row, given by its cells: those of shorter cells are filled up. -/
def rowLines (cells : List (List String)) : List String :=
  let height := (cells.map List.length).foldl max 0
  (List.range height).map fun i => "  ".intercalate (cells.map fun cell => cell[i]?.getD "")

/-- A table as it is printed. -/
def layout (t : Table) : String :=
  let columns := t.columns.map cellLines
  let height := (columns.map List.length).foldl max 0
  let rows := (List.range height).flatMap fun i =>
    rowLines (columns.map fun column => column[i]?.getD [])
  String.join ((t.title.toList ++ rows).map (· ++ "\n"))

/-- The display of a simulated session. -/
def display : Display where
  render := Markup.render
  escape := Markup.escape
  flow := id
  listing := id
  layout := layout

end TapScript.Simulation
