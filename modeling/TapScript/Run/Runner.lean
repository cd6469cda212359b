import TapScript.Run.Dispatch

/-! # Running scripts

The commands of a script run one after the other; a command that runs another script waits for it.
The first fault ends the run. However a run ends, its results are saved and the automation session
is ended.
-/

namespace TapScript

namespace Setup

open Engine

variable {σ ε : Type} (e : Setup σ ε)

/-- The text that the record of a failed command keeps. -/
def failureText (c : Command) (f : Fault) : String :=
  match f with
  | .mishap m => s!"line {c.line}: {m.message}"
  | f => f.message

/-- Runs a command and records how it ended. A fault without a place gets that of the command. -/
def perform (nested : Nested σ ε) (depth : Nat) (c : Command) : Engine σ ε Unit := do
  note (.started c depth)
  let start ← now e.host
  let result := (← attempt (e.dispatch nested c)).mapError (Fault.placed c.place)
  let stop ← now e.host
  let r : CommandRecord := {
    line := c.line, text := c.text, source := c.source, depth
    status := match result with | .ok _ => .passed | .error _ => .failed
    durationMs := start.millisFrom stop
    error := match result with | .ok _ => none | .error f => some (failureText c f) }
  update (Session.add r)
  note (.completed c r)
  result

/-- Runs commands at a depth, with so many levels of nested scripts allowed below it. -/
def execute : (remaining depth : Nat) → List Command → Engine σ ε Unit
  | 0, depth, cs => cs.forM (e.perform none depth)
  | remaining + 1, depth, cs =>
    let nested (path : Path) : Engine σ ε Unit := do
      let s ← Script.load (← get).world.files path
      prepare s.commands
      execute remaining (depth + 1) s.commands
    cs.forM (e.perform (some nested) depth)

/-- The levels of nested scripts that are allowed in all. -/
def levels : Nat :=
  e.execution.maxDepth.toNat

/-- The text of the innermost failed command, or else that of the fault itself. -/
def failureOf (r : RunRecord) (f : Fault) : String :=
  match r.commands.find? fun c => c.status = .failed && c.error.any (· != "") with
  | some c => c.error.getD f.message
  | none => f.message

/-- Loads the libraries of a script, runs its commands, and closes the record. -/
def attemptAll (s : Script) : Engine σ ε Unit := do
  prepare s.commands
  e.execute e.levels 0 s.commands
  update (Session.pass (← now e.host))

/-- Saves the results; a refusal of the file system is only warned about. -/
def saveResults : Engine σ ε Unit := do
  let s ← get
  match s.session.save s.world.files with
  | .ok (_, files) => set { s with world := { s.world with files } }
  | .error (.file f) => note (.warned s!"Failed to save results: {f.message}")
  | .error m => throw (.mishap m)

/-- Ends the automation session, once; a fault in this is only warned about. -/
def endSession : Engine σ ε Unit := do
  unless (← get).session.closed do
    update fun s => { s with closed := true }
    match ← attempt (act e.driver.quit) with
    | .ok _ => pure ()
    | .error f => note (.warned s!"Failed to end automation session: {f.message}")

/-- Runs a script and ends the session. -/
def run (s : Script) : Engine σ ε Unit := do
  let before := (← get).current
  modify fun st => { st with current := some e.driver }
  update (Session.start (← now e.host))
  let result ← attempt (e.attemptAll s)
  if let .error f := result then
    let message := failureOf (← get).session.record f
    note (.failed message)
    update (Session.fail (← now e.host) (if message = "" then f.message else message))
  modify fun st => { st with current := before }
  let saved ← attempt saveResults
  e.endSession
  saved
  result

end Setup

end TapScript
