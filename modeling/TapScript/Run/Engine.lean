import TapScript.Driver.Polling
import TapScript.Library.Registry
import TapScript.Lookup
import TapScript.Regex.Reading
import TapScript.Run.Session

/-! # The state of a run

A run acts on the world through its driver, loads libraries, records what it did, and gives notice
of its progress.
-/

namespace TapScript

/-- Something that a run lets others know of. -/
inductive Notice
  | started (c : Command) (depth : Nat)
  | said (line : String)
  | completed (c : Command) (r : CommandRecord)
  | failed (message : String)
  | warned (message : String)

/-- What a run may look at beside its driver: the start of each library routine, which it can
refuse, the time, and what patterns are read with. -/
structure Host (σ : Type) where
  enter : (library : List String) → (routine : String) → (args : List Value) → Act σ Unit
  now : σ → Timestamp
  patterns : Regex.Host

/-- What stays the same during a run. -/
structure Setup (σ ε : Type) where
  driver : Driver σ ε
  host : Host σ
  resolver : Resolver
  execution : Execution

/-- What changes during a run. The current driver is the one that library routines act through. -/
structure RunState (σ ε : Type) where
  world : World σ
  registry : Registry
  session : Session
  current : Option (Driver σ ε) := none
  notices : List Notice := []

/-- A part of a run, which may end with a fault. -/
abbrev Engine (σ ε α : Type) := ExceptT Fault (StateM (RunState σ ε)) α

namespace Engine

variable {σ ε α : Type}

/-- An act on the world as a part of a run. -/
def act (a : Act σ α) : Engine σ ε α := fun s =>
  let (r, w) := a.run s.world
  (r, { s with world := w })

/-- Gives notice. -/
def note (n : Notice) : Engine σ ε Unit :=
  modify fun s => { s with notices := s.notices ++ [n] }

/-- Changes the session. -/
def update (f : Session → Session) : Engine σ ε Unit :=
  modify fun s => { s with session := f s.session }

/-- The time. -/
def now (h : Host σ) : Engine σ ε Timestamp := do
  return h.now (← get).world.devices

/-- The outcome of a part of a run, as a value. -/
def attempt (m : Engine σ ε α) : Engine σ ε (Except Fault α) := fun s =>
  let (r, s) := m.run s
  (.ok r, s)

/-- The library of a namespace, loaded on first use. -/
def loadLibrary (segments : List String) : Engine σ ε Library := fun s =>
  let (r, registry) := s.registry.load s.world.files segments
  (r, { s with registry })

/-- Loads all libraries that some commands name. -/
def prepare (cs : List Command) : Engine σ ε Unit := fun s =>
  let (r, registry) := s.registry.prepare s.world.files cs
  (r.map fun _ => (), { s with registry })

end Engine

namespace Routine

variable {σ ε : Type}

/-- What a routine does with the current driver. -/
def perform (current : Option (Driver σ ε)) : List Step → Act σ Unit
  | [] => return
  | step :: steps => do
    match current, step with
    | none, _ => throw (.ofProblem .noSession)
    | some _, .askDriver => pure ()
    | some d, .sleep ms => d.sleep ms
    perform current steps

/-- Calls a routine of a library with arguments, the missing ones being nothing. -/
def call (h : Host σ) (current : Option (Driver σ ε)) (origin : List String) (r : Routine)
    (args : List Value) : Act σ Value := do
  if let some e := r.signature.mismatch? args.length then throw (.mishap (.arity e))
  let filled := args ++ List.replicate (r.signature.params.length - args.length) Value.none
  h.enter origin r.signature.name filled
  perform current r.steps
  r.outcome

end Routine

namespace Library

variable {σ ε : Type}

/-- Calls a command with arguments of which the first is the receiver, if there is one. -/
def invoke (h : Host σ) (current : Option (Driver σ ε)) (l : Library) (command : String)
    (args : List Value) : Act σ Value := do
  let r ← l.routine command
  match args with
  | [] => throw (.mishap .noReceiver)
  | receiver :: rest =>
    r.call h current l.origin (if receiver.isNone then rest else receiver :: rest)

end Library

end TapScript
