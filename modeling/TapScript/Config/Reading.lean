import TapScript.Config.Field
import TapScript.Config.Settings
import TapScript.Fault
import TapScript.Value.Equality

/-! # Reading settings

Settings are read from mappings, key by key. What is not set has its default, unknown keys do not
matter, and every broken rule becomes an issue.
-/

namespace TapScript

/-- A reading of settings, which gathers issues. -/
abbrev Reader (α : Type) := StateM (List Issue) α

/-- The entries of a mapping. -/
abbrev Entries := List (Value × Value)

namespace Reader

variable {α : Type}

/-- The setting under a key. -/
def setting (es : Entries) (key : String) (default : α) (f : Field α) : Reader α := do
  match Value.under? es (.text key) with
  | none => return default
  | some v =>
    match f v with
    | .ok a => return a
    | .error rule =>
      modify (· ++ [⟨[key], rule⟩])
      return default

/-- The settings of the section under a key. -/
def group (es : Entries) (key : String) (default : α) (r : Entries → Reader α) : Reader α := do
  match Value.under? es (.text key) with
  | none => return default
  | some (.map _ fs) =>
    let (a, issues) := (r fs).run []
    modify (· ++ issues.map (Issue.under key))
    return a
  | some _ =>
    modify (· ++ [⟨[key], .modelType⟩])
    return default

/-- What is read, unless there are issues. -/
def result (r : Reader α) : Except Mishap α :=
  let (a, issues) := r.run []
  if issues.isEmpty then .ok a else .error (.settings issues)

end Reader

open Reader

namespace Places

def read (es : Entries) : Reader Places := do
  let d : Places := {}
  return {
    script := ← setting es "script" d.script (.optional .text)
    globalsFile := ← setting es "globals_file" d.globalsFile (.optional .text)
    elementsFile := ← setting es "elements_file" d.elementsFile (.optional .text)
    librariesDir := ← setting es "libraries_dir" d.librariesDir (.optional .text)
    globalsAttribute := ← setting es "globals_attribute" d.globalsAttribute .text
    elementsAttribute := ← setting es "elements_attribute" d.elementsAttribute .text }

end Places

namespace BrowserSettings

def read (es : Entries) : Reader BrowserSettings := do
  let d : BrowserSettings := {}
  return {
    remote := ← setting es "ws_url" d.remote (.optional .text)
    kind := ← setting es "browser" d.kind (.choice BrowserKind.all BrowserKind.name)
    headless := ← setting es "headless" d.headless .truth
    width := ← setting es "width" d.width .integer
    height := ← setting es "height" d.height .integer }

end BrowserSettings

namespace Execution

def read (es : Entries) : Reader Execution := do
  let d : Execution := {}
  let commandDelay ← setting es "command_delay_ms" d.commandDelay .integer
  let interval ←
    setting es "poll_interval_ms" ⟨d.polling.interval, d.polling.interval_pos⟩ .positive
  let timeout ← setting es "wait_timeout_ms" d.polling.timeout .natural
  let labelName ← setting es "label_attribute" d.labelName .text
  let maxDepth ← setting es "max_script_depth" d.maxDepth .integer
  return {
    commandDelay, polling := ⟨interval.val, timeout, interval.property⟩, labelName, maxDepth }

end Execution

namespace Settings

def read (es : Entries) : Reader Settings := do
  let d : Settings := {}
  return {
    version := ← setting es "version" d.version .integer
    debug := ← setting es "debug" d.debug .truth
    places := ← group es "paths" d.places Places.read
    baseUrl := ← group es "app" d.baseUrl fun es =>
      setting es "base_url" d.baseUrl (.optional .text)
    browser := ← group es "browser" d.browser BrowserSettings.read
    execution := ← group es "execution" d.execution Execution.read
    cacheKey := ← group es "capabilities" d.cacheKey fun es =>
      setting es "cache_key" d.cacheKey (.choice CacheKey.all CacheKey.name)
    outputDirectory := ← group es "output" d.outputDirectory fun es =>
      setting es "directory" d.outputDirectory (.optional .text) }

/-- Whether a key is a text. -/
def isNamed (e : Value × Value) : Bool :=
  match e.1 with
  | .text _ => true
  | _ => false

/-- The settings that a mapping holds, whose keys must all be texts. -/
def ofEntries (es : Entries) : Except Mishap Settings :=
  if es.all isNamed then (read es).result else .error .keysNotText

end Settings

end TapScript
