import TapScript.Proofs.CommandLine.Shells
import TapScript.Proofs.Script.Findings

/-! # What is shown of a script

The commands of a script are printed as a table. The arguments are escaped, so they never keep it
from being printed. The name of the script, the libraries and the verbs are printed as markup. A
name of a file can always be rendered, and the first library or verb that cannot be stops the
command.
-/

namespace TapScript

open CommandLine Shell

namespace Command

variable (c : Command)

/-- The libraries' cell of a command in the table of commands. -/
def libraryCell : String :=
  if c.library = [] then "-" else Registry.dotted c.library

/-- The arguments of a command as they stand in the table of commands. -/
def argumentsCell : String :=
  " ".intercalate (c.args.map shownArgument)

/-- The texts of a command that are printed as markup. -/
def markup : List String :=
  [c.libraryCell, c.verb]

end Command

namespace Script

variable (s : Script)

/-- The texts of the commands of a script that are printed as markup. -/
def markup : List String :=
  s.commands.flatMap Command.markup

/-- The table of the commands, with their arguments written in some way. -/
def table (arguments : Command → String) : Table :=
  commandTable.fill (s.commands.map fun c =>
    [toString c.line, c.libraryCell, c.verb, arguments c])

/-- The line below the table of commands. -/
def totals : String :=
  s!"Total: {s.commands.length} commands, {s.libraries.length} libraries"

/-- What is printed of a script. -/
def page (d : Display) (heading : String) (table : Table) : String :=
  "\n" ++ (d.line heading ++ (d.layout table ++ ("\n" ++ d.line s.totals)))

variable {s} {d : Display} {arguments : Command → String}

section Tables

theorem table_eq : s.table arguments = {
    boxed := false
    columns := [
      ⟨"Line", true, s.commands.map fun c => toString c.line⟩,
      ⟨"Library", false, s.commands.map Command.libraryCell⟩,
      ⟨"Command", false, s.commands.map Command.verb⟩,
      ⟨"Arguments", false, s.commands.map arguments⟩] } := by
  simp [table, commandTable, Table.fill, Function.comp_def]

theorem forall_texts_table {P : String → Prop}
    (hp : P "Line" ∧ P "Library" ∧ P "Command" ∧ P "Arguments") :
    (∀ text ∈ (s.table arguments).texts, P text) ↔
      ∀ c ∈ s.commands, P (toString c.line) ∧ (∀ text ∈ c.markup, P text) ∧ P (arguments c) := by
  simp only [table_eq, Table.texts, Column.texts, Command.markup, Option.toList_none,
    List.append_nil, List.flatMap_cons, List.flatMap_nil, List.forall_mem_append,
    List.forall_mem_cons, List.forall_mem_map]
  constructor
  · rintro ⟨⟨-, hline⟩, ⟨-, hlibrary⟩, ⟨-, hverb⟩, -, harguments⟩ c hc
    exact ⟨hline c hc, ⟨hlibrary c hc, hverb c hc, List.forall_mem_nil _⟩, harguments c hc⟩
  · intro h
    refine ⟨⟨hp.1, fun c hc => ?_⟩, ⟨hp.2.1, fun c hc => ?_⟩, ⟨hp.2.2.1, fun c hc => ?_⟩,
      hp.2.2.2, fun c hc => ?_⟩
    · exact (h c hc).1
    · exact (h c hc).2.1.1
    · exact (h c hc).2.1.2.1
    · exact (h c hc).2.2

/-- The table of commands with other texts in the place of the arguments alone. -/
theorem map_table {f : String → String} {written : Command → String}
    (hf : f "Line" = "Line" ∧ f "Library" = "Library" ∧ f "Command" = "Command" ∧
      f "Arguments" = "Arguments")
    (hc : ∀ c ∈ s.commands, f (toString c.line) = toString c.line ∧
      (∀ text ∈ c.markup, f text = text) ∧ f (arguments c) = written c) :
    (s.table arguments).map f = s.table written := by
  have hcells {g g' : Command → String} (h : ∀ c ∈ s.commands, f (g c) = g' c) :
      (s.commands.map g).map f = s.commands.map g' := by
    rw [List.map_map]
    exact List.map_congr_left h
  have hline := hcells (g := fun c => toString c.line) fun c hm => (hc c hm).1
  have hlibrary := hcells (g := Command.libraryCell) fun c hm =>
    (hc c hm).2.1 c.libraryCell (by simp [Command.markup])
  have hverb := hcells (g := Command.verb) fun c hm =>
    (hc c hm).2.1 c.verb (by simp [Command.markup])
  have harguments := hcells fun c hm => (hc c hm).2.2
  rw [table_eq, table_eq]
  simp only [Table.map, Column.map, List.map_cons, List.map_nil, Option.map_none, hf.1, hf.2.1,
    hf.2.2.1, hf.2.2.2, hline, hlibrary, hverb, harguments]

end Tables

theorem isPlain_totals : IsPlain s.totals := by
  have hfixed : IsPlain "Total: " ∧ IsBare " commands, " ∧ IsBare " libraries" := by decide
  exact (((hfixed.1.append (.toString_nat _)).append hfixed.2.1).append (.toString_nat _)).append
    hfixed.2.2

theorem getLast?_totals : s.totals.toList.getLast? ≠ some '\\' := by
  have hlist : s.totals.toList =
      (s!"Total: {s.commands.length} commands, {s.libraries.length}").toList ++
        " libraries".toList := String.toList_append
  rw [hlist, List.getLast?_append_of_ne_nil _ (by decide)]
  decide

theorem slash_not_mem_name {t : FileTree} {file : String} (h : load t (.ofText file) = .ok s) :
    '/' ∉ s.name.toList := by
  obtain ⟨contents, -, h⟩ := Outcome.bind_eq_ok.mp h
  obtain ⟨cs, -, h⟩ := Outcome.bind_eq_ok.mp h
  cases h
  change '/' ∉ ((Path.namesOf file).getLastD "").toList
  rw [List.getLastD_eq_getLast?]
  cases hl : (Path.namesOf file).getLast? with
  | none => decide
  | some n =>
    exact Text.not_mem_of_mem_pieces (List.mem_of_mem_filter (List.mem_of_getLast? hl))

theorem render_totals (hd : d.IsFaithful) :
    d.render s!"[dim]Total: {s.commands.length} commands, {s.libraries.length} libraries[/dim]" =
      .ok s.totals := by
  have htotals :
      s!"[dim]Total: {s.commands.length} commands, {s.libraries.length} libraries[/dim]" =
        inStyle "dim" s.totals := by
    apply String.toList_inj.mp
    change ("[dim]Total: " ++ toString s.commands.length ++ " commands, " ++
      toString s.libraries.length ++ " libraries[/dim]").toList = (inStyle "dim" ("Total: " ++
        toString s.commands.length ++ " commands, " ++ toString s.libraries.length ++
          " libraries")).toList
    simp [inStyle]
  rw [htotals]
  exact hd.render_inStyle ⟨by decide, by decide⟩ isPlain_totals getLast?_totals

theorem heading_eq : s!"[bold]{s.name}[/bold]" = inStyle "bold" s.name := by
  apply String.toList_inj.mp
  change ("[bold]" ++ s.name ++ "[/bold]").toList = _
  simp [inStyle]

/-- The name of a file can be printed: what it holds can open tags, but no closing tag has its name
there. -/
theorem renders_name (hd : d.IsFaithful) (hn : '/' ∉ s.name.toList) :
    d.Renders s!"[bold]{s.name}[/bold]" := by
  rw [heading_eq]
  exact hd.enclosed ⟨by decide, by decide⟩ hn

theorem render_heading (hd : d.IsFaithful) :
    d.render "Line" = .ok "Line" ∧ d.render "Library" = .ok "Library" ∧
      d.render "Command" = .ok "Command" ∧ d.render "Arguments" = .ok "Arguments" :=
  ⟨hd.plain (by decide), hd.plain (by decide), hd.plain (by decide), hd.plain (by decide)⟩

/-- The table of commands is printed if and only if all that is printed of the commands as markup
can be rendered. -/
theorem shows_commands {σ : Type} (hd : d.IsFaithful) (hn : '/' ∉ s.name.toList) :
    Shows (showCommands d s : Shell σ Unit) (∀ text ∈ s.markup, d.Renders text)
      (s.page d (d.shown s!"[bold]{s.name}[/bold]")
        ((s.table fun c => d.escape c.argumentsCell).map d.shown)) := by
  have htotals := render_totals (s := s) hd
  have hshows := Shows.bind (.print (σ := σ) "\n") (.bind (.say d s!"[bold]{s.name}[/bold]")
    (.bind (.showTable d (s.table fun c => d.escape c.argumentsCell)) (.bind (.print "\n")
      (.say d
        s!"[dim]Total: {s.commands.length} commands, {s.libraries.length} libraries[/dim]"))))
  rw [Display.shown_of_render htotals] at hshows
  refine hshows.congr ?_
  obtain ⟨hline, hlibrary, hcommand, harguments⟩ := render_heading hd
  have htexts : (∀ text ∈ (s.table fun c => d.escape c.argumentsCell).texts, d.Renders text) ↔ _ :=
    forall_texts_table ⟨⟨_, hline⟩, ⟨_, hlibrary⟩, ⟨_, hcommand⟩, ⟨_, harguments⟩⟩
  rw [htexts, markup, List.forall_mem_flatMap]
  constructor
  · rintro ⟨-, -, hcells, -, -⟩ c hc
    exact (hcells c hc).2.1
  · intro hmarkup
    refine ⟨trivial, renders_name hd hn, fun c hc => ?_, trivial, _, htotals⟩
    have hnumber : IsPlain (toString c.line) := (IsBare.toString_int c.line).isPlain
    exact ⟨⟨_, hd.plain hnumber⟩, hmarkup c hc, hd.escaped _⟩

/-- Whether all that is shown of a script is what it says: its name, the libraries and the verbs
are seen as they are, and so are the arguments once they are escaped. -/
structure IsLiteral (d : Display) (s : Script) : Prop where
  name : d.render s!"[bold]{s.name}[/bold]" = .ok s.name
  markup : ∀ text ∈ s.markup, d.render text = .ok text
  arguments : ∀ c ∈ s.commands, d.Keeps c.argumentsCell

namespace IsLiteral

theorem renders (h : s.IsLiteral d) : ∀ text ∈ s.markup, d.Renders text :=
  fun text ht => ⟨text, h.markup text ht⟩

/-- What is printed of a script, if it is literal. -/
theorem page_eq (h : s.IsLiteral d) (hd : d.IsFaithful) :
    s.page d (d.shown s!"[bold]{s.name}[/bold]")
      ((s.table fun c => d.escape c.argumentsCell).map d.shown) =
    s.page d s.name (s.table Command.argumentsCell) := by
  obtain ⟨hline, hlibrary, hcommand, harguments⟩ := render_heading hd
  rw [Display.shown_of_render h.name, map_table]
  · exact ⟨Display.shown_of_render hline, Display.shown_of_render hlibrary,
      Display.shown_of_render hcommand, Display.shown_of_render harguments⟩
  · intro c hc
    refine ⟨?_, fun text ht => ?_, Display.shown_of_render (h.arguments c hc)⟩
    · exact Display.shown_of_render (hd.plain (IsBare.toString_int c.line).isPlain)
    · exact Display.shown_of_render (h.markup text (List.mem_flatMap.mpr ⟨c, hc, ht⟩))

/-- A script is literal if its name is plain, its libraries and verbs are bare, and escaping keeps
the arguments. -/
theorem of_isBare (hd : d.IsFaithful)
    (hn : IsPlain s.name ∧ s.name.toList.getLast? ≠ some '\\') (hm : ∀ text ∈ s.markup, IsBare text)
    (ha : ∀ c ∈ s.commands, d.Keeps c.argumentsCell) : s.IsLiteral d where
  name := by
    rw [heading_eq]
    exact hd.render_inStyle ⟨by decide, by decide⟩ hn.1 hn.2
  markup text ht := hd.plain (hm text ht).isPlain
  arguments := ha

end IsLiteral

end Script

end TapScript
