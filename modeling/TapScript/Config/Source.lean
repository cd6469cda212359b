import TapScript.Config.Merge
import TapScript.Config.Writing
import TapScript.Yaml.File
import TapScript.Yaml.Writer

/-! # Sources of settings

Settings come from a file in the home directory, from the settings file of the project or another
one that is named, and from environment variables. Each source overrides those before it.
-/

namespace TapScript

/-- The variables of an environment. -/
abbrev Environment := List (String × String)

namespace Environment

/-- The variables that stand for settings, with the section and the key of each. -/
def settingVariables : List (String × String × String) := [
  ("MTS_SCRIPT", "paths", "script"),
  ("MTS_GLOBALS", "paths", "globals_file"),
  ("MTS_ELEMENTS", "paths", "elements_file"),
  ("MTS_LIBRARIES", "paths", "libraries_dir"),
  ("MTS_BASE_URL", "app", "base_url"),
  ("MTS_WS_URL", "browser", "ws_url")]

/-- The values of the debugging variable that leave debugging off. -/
def offValues : List String := ["", "0", "false", "False"]

/-- The setting that a variable stands for, unless it is empty or not there. -/
def override (env : Environment) (variable_ section_ key : String) : Entries :=
  match env.lookup variable_ with
  | none | some "" => []
  | some v => [(.text section_, .map false [(.text key, .text v)])]

/-- Whether the debugging variable is there and does not say otherwise. -/
def debugs (env : Environment) : Bool :=
  (env.lookup "DEBUG").any fun v => !offValues.contains v

/-- The settings that an environment makes. -/
def overrides (env : Environment) : Entries :=
  let es := settingVariables.foldl
    (fun es (v, section_, key) => Value.mergeEntries es (env.override v section_ key)) []
  if env.debugs then es ++ [(.text "debug", .bool true)] else es

end Environment

namespace Location

/-- The location as a path from the root. -/
def toPath (l : Location) : Path :=
  ⟨.root, l⟩

/-- The location that a path names, a double dot leading to the location above. -/
def resolve (start : Location) (p : Path) : Location :=
  p.parts.foldl (fun l name => if name = ".." then l.dropLast else l ++ [name]) start

/-- A location and all those above it but the root, the innermost first. -/
def upward (l : Location) : List Location :=
  (List.range l.length).map fun n => l.take (l.length - n)

end Location

namespace Settings

/-- The names of settings files, in the order in which they are tried. -/
def fileNames : List String := [".mts.yaml", ".mts.yml", "mts.yaml", "mts.yml"]

/-- The first of some paths at which something stands. -/
def firstPresent? (t : FileTree) : List Path → Except Mishap (Option Path)
  | [] => .ok none
  | p :: ps => do
    if ← (t.exists? p).mapError .file then return some p else firstPresent? t ps

/-- The settings file of a directory or of the nearest directory above it that has one. -/
def find? (t : FileTree) (dir : Path) : Except Mishap (Option Path) :=
  let places := Location.upward (Location.resolve (t.start dir) dir)
  firstPresent? t (places.flatMap fun l =>
    fileNames.map fun (n : String) => (Location.toPath l).join n)

/-- The settings file in the home directory. -/
def homeFile? (t : FileTree) : Option Path :=
  (t.homes.lookup "").map fun home => home.join ".config/mts/config.yaml"

/-- Entries overridden by those of a file, if it is there. -/
def mergeFile (t : FileTree) (es : Entries) (file : Option Path) : Except Mishap Entries := do
  match file with
  | none => return es
  | some p =>
    if ← (t.exists? p).mapError .file then Value.mergeInto es (← t.readData p)
    else return es

/-- The settings of all sources; without a file that is named, the project file is looked for. -/
def load (t : FileTree) (env : Environment) (file : Option Path)
    (dir : Path := ⟨.here, []⟩) : Except Mishap Settings := do
  let es ← mergeFile t [] (homeFile? t)
  let file ← match file with
    | some p => pure (some p)
    | none => find? t dir
  let es ← mergeFile t es file
  ofEntries (Value.mergeEntries es env.overrides)

/-- Saves settings in a file, all of them or only those that do not have their defaults. -/
def save (s : Settings) (t : FileTree) (file : Path) (all : Bool) : Except Mishap FileTree := do
  let t ← t.ensureDirs file.parent
  t.write file (.bytes (Text.encode (Yaml.write (if all then s.toEntries else s.changes))))

end Settings

end TapScript
