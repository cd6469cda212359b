import TapScript.CommandLine.Shell
import TapScript.Decimal.Fixed
import TapScript.JsonValue
import TapScript.Script.Validation

/-! # Commands on scripts

Scripts can be shown and validated, run, and the libraries that they can use listed.
-/

namespace TapScript

namespace Command

/-- The command as a document. -/
def toJson (c : Command) : JsonValue :=
  .object [
    ("line", .int c.line),
    ("text", .text c.text),
    ("command", .text c.name),
    ("namespace", .list (c.library.map .text)),
    ("core_command", .text c.verb),
    ("args", .list (c.args.map fun a => .text a.text))]

end Command

namespace Script

/-- The script as a document. -/
def toJson (s : Script) : JsonValue :=
  .object [
    ("source", .ofOption (s.source.map Path.text)),
    ("commands", .list (s.commands.map Command.toJson)),
    ("summary", .object [
      ("total_commands", .int s.commands.length),
      ("libraries", .list (s.libraries.map fun l => .text (Registry.dotted l)))])]

end Script

namespace CommandLine

open Shell

/-- What the commands work with: where scripts are run, what is printed on, the environment, and a
settings file. -/
structure Context (σ : Type) where
  machine : Machine σ
  display : Display
  environment : Environment
  settingsFile : Option Path

namespace Context

variable {σ : Type} (x : Context σ)

/-- The settings, from all sources. -/
def settings : Shell σ Settings := do
  trying ((Settings.load (← files) x.environment x.settingsFile).mapError .mishap)

/-- The settings for a command on scripts; they can turn the logging of details on. -/
def scriptSettings : Shell σ Settings := do
  let s ← x.settings
  if s.debug then logDetails
  return s

end Context

variable {σ : Type} (d : Display)

/-- A setting that is there and not empty. -/
def nonEmpty (setting : Option String) : Option String :=
  setting.filter (· != "")

/-- The script to work on: the operand, or else the one in the settings. -/
def chooseScript (s : Settings) (operand : Option String) : Shell σ Path := do
  match operand <|> nonEmpty s.places.script with
  | none =>
    say d "[red]No script given[/red] (pass a file or set MTS_SCRIPT)"
    throw (.exit 1)
  | some file =>
    let path := Path.ofText file
    unless ← trying (((← files).exists? path).mapError .ofFile) do
      say d s!"[red]Script not found:[/red] {path.text}"
      throw (.exit 1)
    return path

/-- The libraries that the settings name. -/
def registryOf (s : Settings) : Registry :=
  ⟨(nonEmpty s.places.librariesDir).map .ofText, s.cacheKey, []⟩

/-- An argument as the table of commands shows it. -/
def shownArgument (t : Token) : String :=
  if t.quoted then s!"\"{t.text}\"" else t.text

/-- The row of a command in the table of commands. -/
def commandRow (c : Command) : List String :=
  [toString c.line, if c.library = [] then "-" else Registry.dotted c.library, c.verb,
    d.escape (" ".intercalate (c.args.map shownArgument))]

/-- The table of commands without its rows. -/
def commandTable : Table where
  boxed := false
  columns := [
    { heading := "Line", atRight := true }, { heading := "Library" }, { heading := "Command" },
    { heading := "Arguments" }]

/-- Prints the commands of a script. -/
def showCommands (s : Script) : Shell σ Unit := do
  print "\n"
  say d s!"[bold]{s.name}[/bold]"
  showTable d (commandTable.fill (s.commands.map (commandRow d)))
  print "\n"
  say d s!"[dim]Total: {s.commands.length} commands, {s.libraries.length} libraries[/dim]"

/-- Prints what validation finds, and stops if that is an error. -/
def showReport (r : Report) : Shell σ Unit := do
  unless r.errors.isEmpty do
    say d "[red]Validation Errors:[/red]"
    r.errors.forM fun e => say d s!"  [red]✗[/red] {d.escape e}"
  unless r.warnings.isEmpty do
    say d "[yellow]Warnings:[/yellow]"
    r.warnings.forM fun w => say d s!"  [yellow]![/yellow] {w}"
  if r.isValid then say d "[green]✓ Script is valid[/green]" else throw (.exit 1)

/-- Reads a script and shows its commands. -/
def parseScript (x : Context σ) (operand : Option String) (validate asJson : Bool) :
    Shell σ Unit := do
  let s ← x.scriptSettings
  let file ← chooseScript x.display s operand
  match Script.load (← files) file with
  | .error f =>
    say x.display s!"[red]Error parsing script:[/red] {x.display.escape f.message}"
    throw (.exit 1)
  | .ok script =>
    if validate then
      showReport x.display (← trying (script.validate (← files) (some (registryOf s))))
    if asJson then print (script.toJson.written ++ "\n") else showCommands x.display script

/-- The table of libraries without its rows. -/
def libraryTable : Table where
  title := some "Libraries"
  columns := [{ heading := "Namespace" }, { heading := "Commands" }, { heading := "Path" }]

/-- The rows of some libraries, loaded one after the other. -/
def libraryRows (t : FileTree) : List (List String × Path) → Registry → List (List String)
  | [], _ => []
  | (segments, path) :: found, r =>
    let name := Registry.dotted segments
    let (loaded, r) := r.load t (Text.pieces '.' name)
    let commands := match loaded >>= Library.commandNames with
      | .ok names => ", ".intercalate (names.mergeSort fun a b => a ≤ b)
      | .error f => s!"[red]{d.escape f.message}[/red]"
    [name, commands, path.text] :: libraryRows t found r

/-- Lists the libraries that scripts can use. -/
def listLibraries (x : Context σ) : Shell σ Unit := do
  let s ← x.scriptSettings
  if (nonEmpty s.places.librariesDir).isNone then
    say x.display "[yellow]No libraries directory configured[/yellow] (set MTS_LIBRARIES)"
    throw (.exit 1)
  let r := registryOf s
  let t ← files
  let found ← trying (r.scan t)
  showTable x.display (libraryTable.fill (libraryRows x.display t found r))

/-- What is asked of a run beside the script. -/
structure RunRequest where
  outputDirectory : Option String
  baseUrl : Option String
  remote : Option String
  headed : Bool

namespace RunRequest

/-- The settings as a request changes them. -/
def adjust (q : RunRequest) (s : Settings) : Settings :=
  { s with
    outputDirectory := (q.outputDirectory.map fun d => (Path.ofText d).text) <|> s.outputDirectory
    baseUrl := nonEmpty q.baseUrl <|> s.baseUrl
    browser := { s.browser with
      remote := nonEmpty q.remote <|> s.browser.remote
      headless := s.browser.headless && !q.headed } }

end RunRequest

/-- Prints the progress of a run. -/
def showNotice : Notice → Shell σ Unit
  | .started c depth => do
    let indent := String.ofList (List.replicate (2 * (depth + 1)) ' ')
    say d s!"{indent}\\[{c.line}] {d.escape (Text.trimmed c.text)}..."
      (if c.verb = "runScript" then "\n" else " ")
  | .said line => say d s!"[dim]{d.escape line}[/dim]"
  | .completed _ r => do
    let error := r.error.getD ""
    if r.status = .passed then say d "[green]✓[/green]"
    else say d s!"[red]✗ {d.escape error}[/red]"
  | .failed _ | .warned _ => return

/-- A time in milliseconds as seconds with one place. -/
def seconds (ms : Int) : String :=
  (Decimal.fixed? 1 (Float.ofInt ms / 1000)).getD ""

/-- Prints how a run went. -/
def showSummary (r : RunRecord) : Shell σ Unit := do
  print "\n"
  say d (String.ofList (List.replicate 50 '━'))
  say d s!"[green]✓ {r.status.name.toUpper}[/green]"
  say d s!"  Commands: {r.commands.length}"
  say d s!"  Duration: {seconds r.durationMs}s"
  if let some dir := r.outputDir then say d s!"  Output: {dir.text}"

/-- Runs a script. -/
def runScript (x : Context σ) (operand : Option String) (q : RunRequest) : Shell σ Unit := do
  let s ← x.scriptSettings
  let file ← chooseScript x.display s operand
  say x.display s!"\n[bold blue]Running script:[/bold blue] {file.name}"
  let report := x.machine.run (q.adjust s) file (← get).world
  modify fun t => { t with world := report.world }
  report.notices.forM (showNotice x.display)
  match report.outcome with
  | .ok session => showSummary x.display session.record
  | .error f =>
    say x.display s!"[red]Error running script:[/red] {x.display.escape f.message}"
    throw (.exit 1)

end CommandLine

end TapScript
