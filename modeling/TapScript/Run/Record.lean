import TapScript.JsonValue
import TapScript.Path
import TapScript.Text.Blank
import TapScript.Timestamp

/-! # Records

What is kept of a run: how each command ended, in the order in which they ended, and how the run
as a whole did.
-/

namespace TapScript

/-- How far something has come. -/
inductive Status
  | pending
  | running
  | passed
  | failed
  | skipped
  deriving DecidableEq, Repr

namespace Status

def name : Status → String
  | pending => "pending"
  | running => "running"
  | passed => "passed"
  | failed => "failed"
  | skipped => "skipped"

/-- The status of a name. -/
def ofName? (s : String) : Option Status :=
  [pending, running, passed, failed, skipped].find? (·.name == s)

end Status

/-- How a command ended, at a depth of nested scripts. -/
structure CommandRecord where
  line : Int
  text : String
  status : Status
  source : Option Path := none
  depth : Nat := 0
  durationMs : Int := 0
  error : Option String := none
  deriving DecidableEq, Repr

/-- How a run went. -/
structure RunRecord where
  script : String
  status : Status
  commands : List CommandRecord := []
  error : Option String := none
  startedAt : Option Timestamp := none
  completedAt : Option Timestamp := none
  outputDir : Option Path := none
  deriving DecidableEq, Repr

namespace CommandRecord

/-- The record as it is saved. -/
def toJson (r : CommandRecord) : JsonValue :=
  .object [
    ("line", .int r.line),
    ("command", .text (Text.trimmed r.text)),
    ("source", .ofOption (r.source.map Path.text)),
    ("depth", .int r.depth),
    ("status", .text r.status.name),
    ("duration_ms", .int r.durationMs),
    ("error", .ofOption r.error)]

end CommandRecord

namespace RunRecord

/-- The number of commands with a status. -/
def count (r : RunRecord) (s : Status) : Nat :=
  r.commands.countP (·.status = s)

/-- The time from start to end; without both, the time of the commands that were not nested. -/
def durationMs (r : RunRecord) : Int :=
  match r.startedAt, r.completedAt with
  | some a, some b => a.millisFrom b
  | _, _ => (r.commands.filter (·.depth = 0)).foldl (fun n c => n + c.durationMs) 0

/-- The record as it is saved. -/
def toJson (r : RunRecord) : JsonValue :=
  .object [
    ("script", .text r.script),
    ("status", .text r.status.name),
    ("error", .ofOption r.error),
    ("started_at", .ofOption (r.startedAt.map Timestamp.text)),
    ("completed_at", .ofOption (r.completedAt.map Timestamp.text)),
    ("output_dir", .ofOption (r.outputDir.map Path.text)),
    ("commands", .list (r.commands.map CommandRecord.toJson)),
    ("summary", .object [
      ("total_commands", .int r.commands.length),
      ("passed", .int (r.count .passed)),
      ("failed", .int (r.count .failed)),
      ("duration_ms", .int r.durationMs)])]

end RunRecord

end TapScript
