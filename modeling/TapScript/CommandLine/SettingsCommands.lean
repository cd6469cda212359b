import TapScript.CommandLine.ScriptCommands

/-! # Commands on settings

A settings file can be made, and the settings in force shown.
-/

namespace TapScript.CommandLine

open Shell

variable {σ : Type}

/-- Makes a settings file with all defaults. -/
def initSettings (d : Display) (output : Option String) (force : Bool) : Shell σ Unit := do
  let t ← files
  let path := match output with
    | some p => Path.ofText p
    | none => (Location.toPath t.here).join ".mts.yaml"
  if ← trying ((t.exists? path).mapError .ofFile) then
    unless force do
      say d s!"[yellow]Warning:[/yellow] {path.text} already exists. Use --force to overwrite."
      throw (.exit 1)
  let t ← trying ((({} : Settings).save t path true).mapError .mishap)
  modify fun s => { s with world := { s.world with files := t } }
  say d s!"[green]✓[/green] Created: {path.text}"

/-- The rows of the table of settings. -/
def settingRows (s : Settings) : List (List String) :=
  let orDash (setting : Option String) : String := (nonEmpty setting).getD "-"
  let wait := s.execution.polling
  [["Script", orDash s.places.script],
    ["Globals", orDash s.places.globalsFile],
    ["Elements", orDash s.places.elementsFile],
    ["Libraries", orDash s.places.librariesDir],
    ["Base URL", orDash s.baseUrl],
    ["Browser", (nonEmpty s.browser.remote).getD s!"{s.browser.kind.name} (local)"],
    ["Command Delay", s!"{s.execution.commandDelay}ms"],
    ["Element Wait", s!"{wait.timeout}ms every {wait.interval}ms"]]

/-- The table of settings without its rows. -/
def settingTable : Table where
  title := some "MTS Configuration"
  columns := [{ heading := "Setting" }, { heading := "Value" }]

/-- Shows the settings in force, as a document or as a table; other formats show nothing. -/
def showSettings (x : Context σ) (format : String) : Shell σ Unit := do
  let s ← x.settings
  if format = "yaml" then print (x.display.listing (Yaml.write (Yaml.sorted s.toEntries)))
  else if format = "table" then showTable x.display (settingTable.fill (settingRows s))

end TapScript.CommandLine
