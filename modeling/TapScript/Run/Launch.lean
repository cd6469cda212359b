import TapScript.Config.Source
import TapScript.Driver.Browser
import TapScript.Driver.Page
import TapScript.LookupFile
import TapScript.Run.Runner

/-! # Launching

A script file is run in a browser as the settings say. The script and the lookup files are read
before the browser is reached, which is left however the run ends.
-/

namespace TapScript

/-- Where scripts can be run: how browsers are reached, what a new page is, and the host. -/
structure Machine (σ : Type) where
  launcher : Launcher σ
  page : Page σ
  host : Host σ

/-- What a run leaves behind: its outcome with the session, the world, and the notices. -/
structure RunReport (σ : Type) where
  outcome : Except Fault Session
  world : World σ
  notices : List Notice := []

/-- What is read from files before a script is run. -/
structure Preparation where
  script : Script
  resolver : Resolver
  registry : Registry

namespace Settings

/-- The path that a setting gives, from the home directory that it may name; none for an empty
one. -/
def optionalPath (t : FileTree) (setting : Option String) : Except Mishap (Option Path) :=
  match setting with
  | none | some "" => .ok none
  | some s => (t.expandHome (.ofText s)).map some

/-- Reads all that a run needs. -/
def prepare (s : Settings) (t : FileTree) (file : Path) : Except Fault Preparation := do
  let path (setting : Option String) : Except Fault (Option Path) :=
    (optionalPath t setting).mapError .mishap
  let script ← Script.load t file
  let values ← t.readLookup (← path s.places.globalsFile) (some s.places.globalsAttribute)
  let locators ← t.readLookup (← path s.places.elementsFile) (some s.places.elementsAttribute)
  let root ← path s.places.librariesDir
  return ⟨script, .ofData values locators, ⟨root, s.cacheKey, []⟩⟩

/-- The directory for the results of a script, made and empty, if the settings ask for one. -/
def makeOutputDir (s : Settings) (t : FileTree) (file : Path) :
    Except Mishap (Option Path) × FileTree :=
  match s.outputDirectory with
  | none | some "" => (.ok none, t)
  | some base =>
    let (dir, t) := Session.makeOutputDir t (.ofText base) file
    (dir.map some, t)

end Settings

namespace Machine

variable {σ : Type} (m : Machine σ)

/-- Runs a prepared script on an open page. -/
def runOn (s : Settings) (p : Preparation) (file : Path) (outputDir : Option Path)
    (w : World σ) : RunReport σ :=
  match Session.create w.files file outputDir with
  | .error e => { outcome := .error (.mishap e), world := w }
  | .ok (session, files) =>
    let setup : Setup σ String := ⟨m.page.driver true, m.host, p.resolver, s.execution⟩
    let start : RunState σ String := { world := { w with files }, registry := p.registry, session }
    let (r, st) := (setup.run p.script).run start
    { outcome := r.map fun _ => st.session, world := st.world, notices := st.notices }

/-- Opens a page, at the address that the settings give. -/
def openPage (s : Settings) : Browsing σ Unit := do
  m.launcher.newPage s.browser
  match s.baseUrl with
  | none | some "" => pure ()
  | some url => Browsing.act (m.page.respond (.visit url))

/-- Runs a prepared script in a browser, and leaves the browser. A fault in leaving it is the
outcome, whatever the outcome was before. -/
def runIn (s : Settings) (p : Preparation) (file : Path) (outputDir : Option Path)
    (w : World σ) : RunReport σ :=
  match (m.launcher.enter s.browser).run { world := w } with
  | (.error f, b) => { outcome := .error f, world := b.world }
  | (.ok (), b) =>
    let (opened, b) := (m.openPage s).run b
    let report : RunReport σ := match opened with
      | .error f => { outcome := .error f, world := b.world }
      | .ok () => m.runOn s p file outputDir b.world
    let (left, b) := m.launcher.disconnect.run { b with world := report.world }
    { report with outcome := left.bind fun _ => report.outcome, world := b.world }

/-- Runs a script file as some settings say. -/
def run (s : Settings) (file : Path) (w : World σ) : RunReport σ :=
  match s.prepare w.files file with
  | .error f => { outcome := .error f, world := w }
  | .ok p =>
    let (dir, files) := s.makeOutputDir w.files file
    let w := { w with files }
    match dir with
    | .error e => { outcome := .error (.mishap e), world := w }
    | .ok dir => m.runIn s p file dir w

end Machine

end TapScript
