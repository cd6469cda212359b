import TapScript.CommandLine.Program
import TapScript.Proofs.CommandLine.Displays
import TapScript.Proofs.Files.Contents

/-! # Work in a shell

What a command does in a shell follows from what its parts do. Most parts only print: if all that
they print as markup can be rendered, they add it to the terminal, and otherwise they stop at the
first text that cannot be.
-/

namespace TapScript.CommandLine

namespace Display

/-- A line with a seen text, as it is printed. -/
def line (d : Display) (seen : String) : String :=
  d.flow seen ++ "\n"

end Display

/-- The terminal after a text is printed. -/
def Terminal.put {σ : Type} (T : Terminal σ) (text : String) : Terminal σ :=
  { T with printed := T.printed ++ text }

namespace Terminal

variable {σ : Type} (T : Terminal σ) (text more : String)

@[simp] theorem printed_put : (T.put text).printed = T.printed ++ text := rfl

@[simp] theorem put_put : (T.put text).put more = T.put (text ++ more) := by
  simp [put, String.append_assoc]

@[simp] theorem put_empty : T.put "" = T := by
  simp [put]

end Terminal

namespace Shell

variable {σ α β : Type} {m : Shell σ α} {f : α → Shell σ β} {T T' : Terminal σ}

theorem run_bind : (m >>= f).run T = match m.run T with
    | (.ok a, T') => (f a).run T'
    | (.error stop, T') => (.error stop, T') := by
  change (ExceptT.bindCont f (m.run T).1 (m.run T).2 : Except Stop β × Terminal σ) = _
  rcases m.run T with ⟨_ | _, _⟩ <;> rfl

theorem run_bind_ok {a : α} (h : m.run T = (.ok a, T')) : (m >>= f).run T = (f a).run T' := by
  rw [run_bind, h]

theorem run_bind_error {stop : Stop} (h : m.run T = (.error stop, T')) :
    (m >>= f).run T = (.error stop, T') := by
  rw [run_bind, h]

theorem run_trying_ok {r : Except Fault α} {a : α} (h : r = .ok a) :
    (trying r : Shell σ α).run T = (.ok a, T) := by
  subst h
  rfl

theorem run_trying_error {r : Except Fault α} {x : Fault} (h : r = .error x) :
    (trying r : Shell σ α).run T = (.error (.fault x), T) := by
  subst h
  rfl

@[simp] theorem run_files : (files : Shell σ FileTree).run T = (.ok T.world.files, T) := rfl

/-- Whether a part of a command only prints: it prints a text if some condition holds, and is
otherwise stopped by markup. -/
structure Shows (m : Shell σ Unit) (P : Prop) (text : String) : Prop where
  done : P → ∀ T, m.run T = (.ok (), T.put text)
  broken : ¬ P → ∀ T, ∃ e before, m.run T = (.error (.fault (.mishap (.markup e))), T.put before)

namespace Shows

variable {m m' : Shell σ Unit} {P Q : Prop} {text more : String} (d : Display)

theorem congr (h : Shows m P text) (hp : P ↔ Q) : Shows m Q text :=
  ⟨fun hq => h.done (hp.mpr hq), fun hq => h.broken fun hP => hq (hp.mp hP)⟩

theorem congr_text (h : Shows m P text) (ht : P → text = more) : Shows m P more where
  done hp := ht hp ▸ h.done hp
  broken := h.broken

theorem nothing : Shows (pure () : Shell σ Unit) True "" where
  done _ T := by rw [T.put_empty]; rfl
  broken h := absurd trivial h

theorem print (text : String) : Shows (Shell.print text : Shell σ Unit) True text where
  done _ _ := rfl
  broken h := absurd trivial h

theorem say (text : String) :
    Shows (Shell.say d text : Shell σ Unit) (d.Renders text) (d.line (d.shown text)) where
  done h T := by
    rw [Shell.say, run_bind_ok (run_trying_ok (by rw [Display.render_eq_ok.mpr ⟨h, rfl⟩]; rfl))]
    rfl
  broken h T := by
    obtain ⟨e, he⟩ := Display.exists_of_not_renders h
    refine ⟨e, "", ?_⟩
    rw [Shell.say, run_bind_error (run_trying_error (by rw [he]; rfl)), T.put_empty]

theorem bind (h : Shows m P text) (h' : Shows m' Q more) :
    Shows (m >>= fun _ => m') (P ∧ Q) (text ++ more) where
  done hpq T := by
    rw [run_bind_ok (h.done hpq.1 T), h'.done hpq.2, T.put_put]
  broken hpq T := by
    by_cases hp : P
    · obtain ⟨e, before, he⟩ := h'.broken (fun hq => hpq ⟨hp, hq⟩) (T.put text)
      exact ⟨e, text ++ before, by rw [run_bind_ok (h.done hp T), he, T.put_put]⟩
    · obtain ⟨e, before, he⟩ := h.broken hp T
      exact ⟨e, before, run_bind_error he⟩

theorem forM {xs : List α} {f : α → Shell σ Unit} {P : α → Prop} {text : α → String}
    (h : ∀ x, Shows (f x) (P x) (text x)) :
    Shows (xs.forM f) (∀ x ∈ xs, P x) (String.join (xs.map text)) := by
  induction xs with
  | nil => exact nothing.congr (by simp)
  | cons x xs ih =>
    have hcons := ((h x).bind ih).congr (Q := ∀ y ∈ x :: xs, P y) List.forall_mem_cons.symm
    rwa [List.map_cons, String.join_cons]

theorem showTable (t : Table) :
    Shows (Shell.showTable d t : Shell σ Unit) (∀ text ∈ t.texts, d.Renders text)
      (d.layout (t.map d.shown)) where
  done h T := by
    have hseen : d.renderTable t = .ok (t.map d.shown) := Display.renderTable_eq_ok.mpr ⟨h, rfl⟩
    rw [Shell.showTable, run_bind_ok (run_trying_ok (by rw [hseen]; rfl))]
    rfl
  broken h T := by
    cases hr : d.renderTable t with
    | error e =>
      refine ⟨e, "", ?_⟩
      rw [Shell.showTable, run_bind_error (run_trying_error (by rw [hr]; rfl)), T.put_empty]
    | ok seen => exact absurd (Display.renderTable_eq_ok.mp hr).1 h

end Shows

end Shell

/-- The terminal after the logging of details is turned on, if it is asked for. -/
def Terminal.detail {σ : Type} (T : Terminal σ) (asked : Bool) : Terminal σ :=
  { T with detailed := T.detailed || asked }

@[simp] theorem Terminal.world_detail {σ : Type} (T : Terminal σ) (asked : Bool) :
    (T.detail asked).world = T.world := rfl

/-- Shows a script that is read, checked with some libraries if that is asked for. -/
def showScript {σ : Type} (d : Display) (r : Registry) (script : Script)
    (validate asJson : Bool) : Shell σ Unit := do
  if validate then
    showReport d (← Shell.trying (script.validate (← Shell.files) (some r)))
  if asJson then Shell.print (script.toJson.written ++ "\n") else showCommands d script

/-- Shows the libraries of a registry. -/
def showLibraries {σ : Type} (d : Display) (r : Registry) : Shell σ Unit := do
  let t ← Shell.files
  let found ← Shell.trying (r.scan t)
  Shell.showTable d (libraryTable.fill (libraryRows d t found r))

/-- Runs a script as the settings say, and prints how that goes. -/
def showRun {σ : Type} (m : Machine σ) (d : Display) (s : Settings) (file : Path) :
    Shell σ Unit := do
  Shell.say d s!"\n[bold blue]Running script:[/bold blue] {file.name}"
  let report := m.run s file (← get).world
  modify fun t => { t with world := report.world }
  report.notices.forM (showNotice d)
  match report.outcome with
  | .ok session => showSummary d session.record
  | .error f =>
    Shell.say d s!"[red]Error running script:[/red] {d.escape f.message}"
    throw (.exit 1)

section Beginnings

open Shell

variable {σ : Type} {x : Context σ} {T : Terminal σ} {s : Settings} {operand : Option String}
  {name : String} {script : Script} {validate asJson : Bool}

theorem run_scriptSettings
    (hs : Settings.load T.world.files x.environment x.settingsFile = .ok s) :
    x.scriptSettings.run T = (.ok s, T.detail s.debug) := by
  have hx : x.settings.run T = (.ok s, T) := by
    rw [Context.settings, run_bind_ok run_files]
    exact run_trying_ok (by rw [hs]; rfl)
  rw [Context.scriptSettings, run_bind_ok hx]
  cases hd : s.debug with
  | true => simp [Terminal.detail, logDetails]; rfl
  | false => simp [Terminal.detail]; rfl

theorem run_chooseScript (hc : (operand <|> nonEmpty s.places.script) = some name)
    (he : T.world.files.exists? (.ofText name) = .ok true) :
    (chooseScript x.display s operand).run T = (.ok (.ofText name), T) := by
  have hthere : ((T.world.files.exists? (.ofText name)).mapError Fault.ofFile) = .ok true := by
    rw [he]
    rfl
  rw [chooseScript, hc]
  simp only
  rw [run_bind_ok run_files, run_bind_ok (run_trying_ok hthere)]
  rfl

theorem exists?_of_load {t : FileTree} {p : Path} (h : Script.load t p = .ok script) :
    t.exists? p = .ok true := by
  obtain ⟨contents, hread, -⟩ := Outcome.bind_eq_ok.mp h
  obtain ⟨bytes, hbytes, -⟩ := Outcome.bind_eq_ok.mp (Outcome.mapError_eq_ok.mp hread)
  cases hr : t.read p with
  | error e =>
    rw [FileTree.readBytes, hr] at hbytes
    cases hbytes
  | ok c => exact FileTree.exists?_of_read hr

/-- A script that can be read is shown as the settings say. -/
theorem run_parseScript (hs : Settings.load T.world.files x.environment x.settingsFile = .ok s)
    (hc : (operand <|> nonEmpty s.places.script) = some name)
    (hl : Script.load T.world.files (.ofText name) = .ok script) :
    (parseScript x operand validate asJson).run T =
      (showScript x.display (registryOf s) script validate asJson).run (T.detail s.debug) := by
  have he : (T.detail s.debug).world.files.exists? (.ofText name) = .ok true := exists?_of_load hl
  rw [parseScript, run_bind_ok (run_scriptSettings hs), run_bind_ok (run_chooseScript hc he),
    run_bind_ok run_files, Terminal.world_detail, hl]
  rfl

theorem run_runScript (hs : Settings.load T.world.files x.environment x.settingsFile = .ok s)
    (hc : (operand <|> nonEmpty s.places.script) = some name)
    (he : T.world.files.exists? (.ofText name) = .ok true) (q : RunRequest) :
    (runScript x operand q).run T =
      (showRun x.machine x.display (q.adjust s) (.ofText name)).run (T.detail s.debug) := by
  have he : (T.detail s.debug).world.files.exists? (.ofText name) = .ok true := he
  rw [runScript, run_bind_ok (run_scriptSettings hs), run_bind_ok (run_chooseScript hc he)]
  rfl

theorem run_listLibraries (hs : Settings.load T.world.files x.environment x.settingsFile = .ok s)
    (hr : (registryOf s).root ≠ none) :
    (listLibraries x).run T = (showLibraries x.display (registryOf s)).run (T.detail s.debug) := by
  have hdir : (nonEmpty s.places.librariesDir).isNone = false := by
    rw [Option.isNone_eq_false_iff, Option.isSome_iff_ne_none]
    intro h
    rw [registryOf, h] at hr
    exact hr rfl
  rw [listLibraries, run_bind_ok (run_scriptSettings hs), hdir]
  rfl

end Beginnings

end TapScript.CommandLine
