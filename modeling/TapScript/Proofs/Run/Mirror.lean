import TapScript.Proofs.Run.Inclusion

/-! # Mirrored runs

A world can be seen together with a log, in such a way that drivers and hosts there do what they
do in the world, and enter something in the log besides. All that a run makes of its driver and
its host then does there what it does in the world, and enters nothing else.
-/

namespace TapScript

open Procedure

/-- Worlds of `σ` seen together with a log as worlds of `σ'`, with a driver for each driver and a
host for each host. No call but the end of an automation session enters anything not `Entered`. -/
structure Mirror (σ σ' ε κ : Type) where
  Entered : κ → Prop
  view : World σ → List κ → World σ'
  driver : Driver σ ε → Driver σ' ε
  host : Host σ → Host σ'
  files : ∀ w log, (view w log).files = w.files
  now : ∀ (h : Host σ) w log, (host h).now (view w log).devices = h.now w.devices
  patterns : ∀ h : Host σ, (host h).patterns = h.patterns
  respond : ∀ (d : Driver σ ε) c, c ≠ .quit →
    Procedure.Mirrors view Entered (d.respond c) ((driver d).respond c)
  enter : ∀ (h : Host σ) library routine args, Procedure.Mirrors view Entered
    (h.enter library routine args) ((host h).enter library routine args)

/-- Whether a call is made on an element. -/
def Call.isOnElement {ε : Type} : Call ε → Bool
  | .find .. | .sleep _ | .quit => false
  | _ => true

theorem Driver.call?_isOnElement {ε : Type} {g : Gesture} {x : ε} {call : Call ε}
    (h : g.call? x = .ok (some call)) : call.isOnElement := by
  unfold Gesture.call? at h
  split at h
  · cases h; rfl
  · obtain ⟨ns, -, h⟩ := Outcome.bind_eq_ok.mp h
    split at h <;> cases h
    rfl
  · obtain ⟨ns, -, h⟩ := Outcome.bind_eq_ok.mp h
    split at h <;> cases h
    rfl
  · cases hp : g.params.head? <;> rw [hp] at h <;> cases h
    rfl
  · cases hp : g.params.head? <;> rw [hp] at h <;> cases h
    rfl
  · cases hp : g.params.head? <;> rw [hp] at h <;> cases h
    rfl
  · cases h

/-- A routine does nothing with the current driver but pause. -/
theorem Routine.mirrors_perform {σ σ' ε κ : Type} {view : World σ → List κ → World σ'}
    {P : κ → Prop} {driver : Driver σ ε → Driver σ' ε}
    (hsleep : ∀ d ms, Procedure.Mirrors view P (d.sleep ms) ((driver d).sleep ms))
    (current : Option (Driver σ ε)) (steps : List Routine.Step) :
    Procedure.Mirrors view P (perform current steps) (perform (current.map driver) steps) := by
  induction steps with
  | nil => exact .pure ()
  | cons step steps ih =>
    unfold perform
    cases current with
    | none => exact .throw_bind _
    | some d =>
      cases step with
      | askDriver => exact (Mirrors.pure ()).bind fun _ => ih
      | sleep ms => exact (hsleep d ms).bind fun _ => ih

namespace Mirror

variable {σ σ' ε κ α : Type} (M : Mirror σ σ' ε κ)

def setup (e : Setup σ ε) : Setup σ' ε :=
  ⟨M.driver e.driver, M.host e.host, e.resolver, e.execution⟩

def state (s : RunState σ ε) (log : List κ) : RunState σ' ε :=
  { s with world := M.view s.world log, current := s.current.map M.driver }

/-- Whether an act with a log is that act without one. -/
abbrev OfAct (a : Act σ α) (a' : Act σ' α) : Prop :=
  Procedure.Mirrors M.view M.Entered a a'

/-- Whether a part of a run with a log is that part without one. -/
abbrev OfRun (m : Engine σ ε α) (m' : Engine σ' ε α) : Prop :=
  Procedure.Mirrors M.state M.Entered m m'

section Acts

variable (d : Driver σ ε)

theorem find (s : Strategy) (locator : String) :
    M.OfAct (d.find s locator) ((M.driver d).find s locator) :=
  M.respond d _ nofun

theorem sleep (ms : Float) : M.OfAct (d.sleep ms) ((M.driver d).sleep ms) :=
  M.respond d _ nofun

theorem poll (s : Strategy) (locator : String) (p : Polling) (remaining : Nat) :
    M.OfAct (d.poll s locator p remaining) ((M.driver d).poll s locator p remaining) := by
  induction remaining using Nat.strongRecOn with
  | _ n ih =>
    rw [Driver.poll, Driver.poll]
    refine (M.find d s locator).tryCatch fun f => ?_
    split
    · exact .throw f
    · split
      · exact .throw _
      · have := p.interval_pos
        exact (M.sleep d _).bind fun _ => ih _ (by omega)

theorem locate (locator : String) (wait : Option Polling) :
    M.OfAct (d.locate locator wait) ((M.driver d).locate locator wait) := by
  cases wait with
  | none => exact M.find d _ locator
  | some p => exact M.poll d _ locator p _

theorem runElement (r : Resolver) (wait : Option Polling) (c : Command) :
    M.OfAct (d.runElement r wait c) ((M.driver d).runElement r wait c) := by
  unfold Driver.runElement
  split
  · exact .throw _
  · next name rest _ =>
    refine (Mirrors.lift _).bind fun locator => ?_
    refine (M.locate d locator wait).bind fun element => ?_
    cases (Gesture.ofArgs rest).lack? with
    | some p => exact .throw_bind _
    | none =>
      cases h : (Gesture.ofArgs rest).call? element with
      | error p => exact .throw _
      | ok call =>
        cases call with
        | none => exact .pure element
        | some call =>
          have hq : call ≠ .quit := by
            rintro rfl
            cases Driver.call?_isOnElement h
          exact ((M.respond d call hq).bind fun _ => .pure ()).bind fun _ => .pure element

theorem runAssert (h : Regex.Host) (r : Resolver) (labelName : String) (c : Command) :
    M.OfAct (d.runAssert h r labelName c) ((M.driver d).runAssert h r labelName c) := by
  unfold Driver.runAssert
  split
  · refine (Mirrors.lift _).bind fun locator => ?_
    split
    · exact .throw _
    · refine (M.find d _ locator).bind fun element => ?_
      refine (M.respond d (.readAttribute element labelName) nofun).bind fun label => ?_
      exact (Mirrors.lift _).bind fun _ => .pure label
  · exact .throw _

theorem call (h : Host σ) (current : Option (Driver σ ε)) (origin : List String) (r : Routine)
    (args : List Value) : M.OfAct (r.call h current origin args)
      (r.call (M.host h) (current.map M.driver) origin args) := by
  unfold Routine.call
  split
  · exact .throw _
  · refine (M.enter h _ _ _).bind fun _ => ?_
    exact (Routine.mirrors_perform M.sleep current r.steps).bind fun _ => .lift r.outcome

theorem invoke (h : Host σ) (current : Option (Driver σ ε)) (l : Library) (command : String)
    (args : List Value) : M.OfAct (l.invoke h current command args)
      (l.invoke (M.host h) (current.map M.driver) command args) := by
  unfold Library.invoke
  refine (Mirrors.lift _).bind fun r => ?_
  split
  · exact .throw _
  · exact M.call h current l.origin r _

end Acts

section Runs

open Engine

theorem run_act_mirrored {a : Act σ α} {a' : Act σ' α} {s : RunState σ ε} {log more : List κ}
    (h : a'.run (M.view s.world log) =
      ((a.run s.world).1, M.view (a.run s.world).2 (log ++ more))) :
    (Engine.act a').run (M.state s log) =
      (((Engine.act a).run s).1, M.state ((Engine.act a).run s).2 (log ++ more)) := by
  rw [run_act, run_act, show a'.run (M.state s log).world = _ from h]
  rfl

theorem act {a : Act σ α} {a' : Act σ' α} (h : M.OfAct a a') :
    M.OfRun (Engine.act a) (Engine.act a') := by
  intro s log
  obtain ⟨more, hp, h⟩ := h s.world log
  exact ⟨more, hp, M.run_act_mirrored h⟩

variable {M} in
theorem OfRun.attempt {m : Engine σ ε α} {m' : Engine σ' ε α} (h : M.OfRun m m') :
    M.OfRun (Engine.attempt m) (Engine.attempt m') := by
  intro s log
  obtain ⟨more, hp, h⟩ := h s log
  exact ⟨more, hp, by rw [run_attempt, run_attempt, h]⟩

theorem note (n : Notice) : M.OfRun (Engine.note n) (Engine.note n) :=
  .of_run fun _ _ => rfl

theorem update (f : Session → Session) : M.OfRun (Engine.update f) (Engine.update f) :=
  .of_run fun _ _ => rfl

theorem state_files (s : RunState σ ε) (log : List κ) :
    (M.state s log).world.files = s.world.files :=
  M.files s.world log

theorem time (h : Host σ) : M.OfRun (Engine.now h) (Engine.now (M.host h)) :=
  .of_run fun s log => by
    rw [run_now, run_now, state, M.now]

theorem loadLibrary (segments : List String) :
    M.OfRun (Engine.loadLibrary segments) (Engine.loadLibrary segments) :=
  .of_run fun s log => by
    rw [run_loadLibrary, run_loadLibrary, state_files]
    rfl

theorem prepare (cs : List Command) : M.OfRun (Engine.prepare cs) (Engine.prepare cs) :=
  .of_run fun s log => by
    rw [run_prepare, run_prepare, state_files]
    rfl

variable (e : Setup σ ε)

theorem runSleep (c : Command) : M.OfRun (e.runSleep c) ((M.setup e).runSleep c) := by
  unfold Setup.runSleep
  split
  · exact .throw _
  · refine (Mirrors.lift _).bind fun value => ?_
    refine (Mirrors.lift _).bind fun written => ?_
    split
    · exact M.act (M.sleep e.driver _)
    · exact .throw _

theorem runLog (c : Command) : M.OfRun (Setup.runLog c) (Setup.runLog c) :=
  .forM fun _ => M.note _

theorem callLibrary (c : Command) : M.OfRun (e.callLibrary c) ((M.setup e).callLibrary c) := by
  unfold Setup.callLibrary
  split
  · exact .throw_bind _
  · refine (M.loadLibrary _).bind fun l => ?_
    refine (Mirrors.lift _).bind fun _ => ?_
    refine (Mirrors.lift _).bind fun args => ?_
    refine (Mirrors.lift _).bind fun _ => ?_
    refine (M.act (M.sleep e.driver _)).bind fun _ => ?_
    refine Mirrors.get_bind fun s log => ?_
    exact M.act (M.invoke _ _ l _ _)

theorem runScript {n d : Nat} (h : ∀ k < n, ∀ d cs,
      M.OfRun (e.execute k d cs) ((M.setup e).execute k d cs)) (c : Command) :
    M.OfRun (e.runScript (e.nested n d) c) ((M.setup e).runScript ((M.setup e).nested n d) c) := by
  cases n with
  | zero =>
    unfold Setup.runScript
    cases c.args <;> exact .throw _
  | succ n =>
    unfold Setup.runScript
    cases c.args with
    | nil => exact .throw _
    | cons name rest =>
      refine Mirrors.get_bind fun s log => ?_
      rw [state_files]
      refine (Mirrors.lift _).bind fun path => ?_
      refine (Mirrors.lift _).bind fun found => ?_
      split
      · refine Mirrors.get_bind fun s log => ?_
        rw [state_files]
        refine (Mirrors.lift _).bind fun sc => ?_
        exact (M.prepare _).bind fun _ => h n (Nat.lt_succ_self n) (d + 1) _
      · exact .throw _

theorem dispatch {n d : Nat} (h : ∀ k < n, ∀ d cs,
      M.OfRun (e.execute k d cs) ((M.setup e).execute k d cs)) (c : Command) :
    M.OfRun (e.dispatch (e.nested n d) c) ((M.setup e).dispatch ((M.setup e).nested n d) c) := by
  unfold Setup.dispatch
  split
  · exact M.runSleep e c
  · exact M.runLog c
  · exact M.runScript e h c
  · show M.OfRun _ (Engine.act ((M.driver e.driver).runAssert (M.host e.host).patterns _ _ c) >>= _)
    rw [M.patterns]
    exact (M.act (M.runAssert e.driver _ _ _ c)).bind fun _ => .pure ()
  · exact (M.act (M.runElement e.driver _ _ c)).bind fun _ => .pure ()
  · exact (M.act (M.runElement e.driver _ _ c)).bind fun _ => .pure ()
  · exact (M.callLibrary e c).bind fun _ => .pure ()

/-- Commands that run with a log do what they do without one. -/
theorem execute (n d : Nat) (cs : List Command) :
    M.OfRun (e.execute n d cs) ((M.setup e).execute n d cs) := by
  induction n using Nat.strongRecOn generalizing d cs with
  | _ n ih =>
    rw [Setup.execute_eq_forM, Setup.execute_eq_forM]
    refine .forM fun c => ?_
    unfold Setup.perform
    refine (M.note _).bind fun _ => ?_
    refine (M.time _).bind fun start => ?_
    refine (M.dispatch e ih c).attempt.bind fun r => ?_
    refine (M.time _).bind fun stop => ?_
    refine (M.update _).bind fun _ => ?_
    exact (M.note _).bind fun _ => .lift _

end Runs

end Mirror

end TapScript
