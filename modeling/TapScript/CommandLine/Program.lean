import TapScript.CommandLine.SettingsCommands

/-! # The program

The first words of a command line choose a group and a command of it. What is given to the program
as a whole counts before what is given to its commands.
-/

namespace TapScript.CommandLine

open Shell

variable {σ : Type}

/-- The version of the program. -/
def version : String := "0.1.0"

/-- The switch that every command knows. -/
def helpSwitch : Switch := { name := "help" }

/-- The switches of the program as a whole. -/
def programSwitches : List Switch := [
  { name := "config", letter := 'c', takesValue := true },
  { name := "verbose", letter := 'v' },
  { name := "version", letter := 'V' },
  helpSwitch]

/-- Words that are read, or the misuse that they are. -/
def reading (known : List Switch) (mixed : Bool) (words : List String) : Shell σ Given :=
  match readWords known mixed words with
  | .ok g => return g
  | .error e => throw (.misuse e)

/-- Prints how the program is used, and ends. -/
def showHelp : Shell σ Unit := do
  print "Usage: mts [--config FILE] [--verbose] [--version] COMMAND ...\n\n"
  print "  script parse [FILE] [--validate] [--json]\n"
  print "  script run [FILE] [--output DIR] [--base-url URL] [--ws-url URL] [--headed]\n"
  print "  script libs\n"
  print "  config init [--output FILE] [--force]\n"
  print "  config show [--format yaml|table]\n"
  throw (.exit 0)

/-- Reads the words of a command, of which so many may be operands. -/
def commandWords (known : List Switch) (operands : Nat) (words : List String) :
    Shell σ Given := do
  let g ← reading (helpSwitch :: known) true words
  if g.has "help" then showHelp
  match g.operands.drop operands with
  | [] => return g
  | extra :: _ => throw (.misuse (.extraOperand extra))

/-- The first word of a group, which names a command of it, and the words after it. -/
def commandName (names words : List String) : Shell σ (String × List String) := do
  let g ← reading [helpSwitch] false words
  if g.has "help" then showHelp
  match g.operands with
  | [] => throw (.misuse .commandMissing)
  | name :: rest =>
    if names.contains name then return (name, rest) else throw (.misuse (.unknownCommand name))

/-- The commands on scripts. -/
def scriptGroup (x : Context σ) (words : List String) : Shell σ Unit := do
  match ← commandName ["parse", "libs", "run"] words with
  | ("parse", words) =>
    let g ← commandWords
      [{ name := "validate", letter := 'v' }, { name := "json", letter := 'j' }] 1 words
    parseScript x g.operands.head? (g.has "validate") (g.has "json")
  | ("libs", words) =>
    let _ ← commandWords [] 0 words
    listLibraries x
  | (_, words) =>
    let g ← commandWords [
      { name := "output", letter := 'o', takesValue := true },
      { name := "base-url", letter := 'b', takesValue := true },
      { name := "ws-url", takesValue := true },
      { name := "headed" }] 1 words
    runScript x g.operands.head? {
      outputDirectory := g.value? "output"
      baseUrl := g.value? "base-url"
      remote := g.value? "ws-url"
      headed := g.has "headed" }

/-- The commands on settings. -/
def settingsGroup (x : Context σ) (words : List String) : Shell σ Unit := do
  match ← commandName ["init", "show"] words with
  | ("init", words) =>
    let g ← commandWords [
      { name := "output", letter := 'o', takesValue := true },
      { name := "force", letter := 'f' }] 0 words
    initSettings x.display (g.value? "output") (g.has "force")
  | (_, words) =>
    let g ← commandWords [{ name := "format", letter := 'f', takesValue := true }] 0 words
    showSettings x ((g.value? "format").getD "yaml")

/-- The settings file that is named, which must be there. -/
def checkFile (name : Option String) : Shell σ (Option Path) := do
  match name with
  | none => return none
  | some "" => throw (.misuse (.noFile ""))
  | some p =>
    match (← files).isFile (.ofText p) with
    | .ok true => return some (.ofText p)
    | _ => throw (.misuse (.noFile p))

/-- Carries out a command line. -/
def execute (m : Machine σ) (d : Display) (environment : Environment) (words : List String) :
    Shell σ Unit := do
  let g ← reading programSwitches false words
  if g.has "version" then
    say d s!"MTS version {version}"
    throw (.exit 0)
  if g.has "help" then showHelp
  let file ← checkFile (g.value? "config")
  let x : Context σ := ⟨m, d, environment, file⟩
  match g.operands with
  | [] => throw (.misuse .commandMissing)
  | name :: rest =>
    unless name = "script" ∨ name = "config" do throw (.misuse (.unknownCommand name))
    if g.has "verbose" then logDetails
    if name = "script" then scriptGroup x rest else settingsGroup x rest

/-- How a command line ended: the reason if it stopped, and what it left behind. -/
structure Ending (σ : Type) where
  stopped : Option Stop
  terminal : Terminal σ

namespace Ending

/-- The ending that what was done in a shell comes to. -/
def ofRun : Except Stop Unit × Terminal σ → Ending σ
  | (.ok (), t) => ⟨none, t⟩
  | (.error s, t) => ⟨some s, t⟩

/-- The code that the program ends with. -/
def code (e : Ending σ) : Nat :=
  (e.stopped.map Stop.code).getD 0

end Ending

/-- How a command line ends in a world. -/
def run (m : Machine σ) (d : Display) (environment : Environment) (words : List String)
    (w : World σ) : Ending σ :=
  .ofRun ((execute m d environment words).run { world := w })

end TapScript.CommandLine
