import TapScript.FileTree
import TapScript.Run.Record

/-! # Sessions

A session is one run of one script: the record of the run, where its results are saved, and
whether the automation session behind it has been ended.
-/

namespace TapScript

/-- One run of a script. -/
structure Session where
  script : Path
  outputDir : Option Path
  record : RunRecord
  closed : Bool := false

namespace Session

/-- A new session; its output directory is made if it is missing. -/
def create (t : FileTree) (script : Path) (outputDir : Option Path) :
    Except Mishap (Session × FileTree) := do
  let t ← match outputDir with
    | some dir => t.ensureDirs dir
    | none => pure t
  return (⟨script, outputDir, { script := script.text, status := .pending, outputDir }, false⟩, t)

/-- The session as it starts to run. -/
def start (now : Timestamp) (s : Session) : Session :=
  { s with record := { s.record with status := .running, startedAt := some now } }

/-- The session with one more command ended. -/
def add (r : CommandRecord) (s : Session) : Session :=
  { s with record := { s.record with commands := s.record.commands ++ [r] } }

/-- The session as it ends well. -/
def pass (now : Timestamp) (s : Session) : Session :=
  { s with record := { s.record with status := .passed, completedAt := some now } }

/-- The session as it ends with an error. -/
def fail (now : Timestamp) (error : String) (s : Session) : Session :=
  { s with
    record := { s.record with status := .failed, completedAt := some now, error := some error } }

/-- The file that the results of a session are saved in. -/
def resultsFile (dir : Path) : Path :=
  dir.join "results.json"

/-- Saves the record, if there is a place for it. -/
def save (s : Session) (t : FileTree) : Except Mishap (Option Path × FileTree) :=
  match s.outputDir with
  | none => .ok (none, t)
  | some dir => do
    let content := Text.encode s.record.toJson.written
    return (some (resultsFile dir), ← t.write (resultsFile dir) (.bytes content))

/-- The output directory of a script, named after it and emptied. -/
def makeOutputDir (t : FileTree) (base script : Path) : Except Mishap Path × FileTree :=
  let dir := base.join (.ofText script.stem)
  match t.exists? dir with
  | .error e => (.error (.file e), t)
  | .ok present =>
    let (removed, t) := if present then t.removeTree dir else (.ok (), t)
    match removed with
    | .error e => (.error e, t)
    | .ok () =>
      match t.ensureDirs dir with
      | .ok t => (.ok dir, t)
      | .error e => (.error e, t)

end Session

end TapScript
