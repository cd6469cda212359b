import TapScript.Config.Reading

/-! # Writing settings

Settings are written as a mapping of sections. Those that have their defaults may be left out, and
with them the sections in which nothing else is left.
-/

namespace TapScript

namespace Value

/-- A text, or nothing. -/
def ofText? : Option String → Value
  | some s => text s
  | Option.none => none

end Value

/-- A setting as it is written, alone or in a section. -/
inductive Written
  | field (name : String) (v : Value)
  | group (name : String) (fields : List (String × Value))

namespace Written

/-- The entry of a mapping that is written for a setting or a section. -/
def toEntry : Written → Value × Value
  | field name v => (.text name, v)
  | group name fields => (.text name, .ofPairs fields)

/-- What differs from another list of fields under the same names. -/
def changed (fields defaults : List (String × Value)) : List (String × Value) :=
  fields.filter fun f => !(defaults.lookup f.1).any (f.2.same ·)

end Written

namespace Settings

/-- The settings as they are written, in order. -/
def written (s : Settings) : List Written := [
  .field "version" (.int s.version),
  .field "debug" (.bool s.debug),
  .group "paths" [
    ("script", .ofText? s.places.script),
    ("globals_file", .ofText? s.places.globalsFile),
    ("elements_file", .ofText? s.places.elementsFile),
    ("libraries_dir", .ofText? s.places.librariesDir),
    ("globals_attribute", .text s.places.globalsAttribute),
    ("elements_attribute", .text s.places.elementsAttribute)],
  .group "app" [
    ("base_url", .ofText? s.baseUrl)],
  .group "browser" [
    ("ws_url", .ofText? s.browser.remote),
    ("browser", .text s.browser.kind.name),
    ("headless", .bool s.browser.headless),
    ("width", .int s.browser.width),
    ("height", .int s.browser.height)],
  .group "execution" [
    ("command_delay_ms", .int s.execution.commandDelay),
    ("poll_interval_ms", .int s.execution.polling.interval),
    ("wait_timeout_ms", .int s.execution.polling.timeout),
    ("label_attribute", .text s.execution.labelName),
    ("max_script_depth", .int s.execution.maxDepth)],
  .group "capabilities" [
    ("cache_key", .text s.cacheKey.name)],
  .group "output" [
    ("directory", .ofText? s.outputDirectory)]]

/-- All settings as a mapping. -/
def toEntries (s : Settings) : Entries :=
  s.written.map Written.toEntry

/-- A setting or section without what has the default. -/
def change? : Written → Written → Option Written
  | .field name v, .field _ d => if v.same d then none else some (.field name v)
  | .group name fields, .group _ defaults =>
    let left := Written.changed fields defaults
    if left.isEmpty then none else some (.group name left)
  | w, _ => some w

/-- The settings that do not have their defaults, as a mapping. -/
def changes (s : Settings) : Entries :=
  (List.zipWith change? s.written ({} : Settings).written).filterMap fun w =>
    w.map Written.toEntry

end Settings

end TapScript
