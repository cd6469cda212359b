import TapScript.Proofs.Lookup.Walk
import TapScript.Proofs.Run.Inclusion

/-! # Calling a library command

A library command is prepared before it is called: its library is loaded, its routine is looked
up, its arguments are resolved, and the run pauses. What is then called sees the current driver.
-/

namespace TapScript

variable {σ ε : Type}

/-- A library command on the point of being called: its library and arguments, and the driver
that it is going to see. -/
structure Invocation (σ ε : Type) where
  library : Library
  args : List Value
  driver : Option (Driver σ ε)

/-- A routine that is called without a receiver gets all the other arguments. -/
theorem Library.invoke_unbound {l : Library} {command : String} {r : Routine}
    (hr : l.routine command = .ok r) (h : Host σ) (current : Option (Driver σ ε))
    (vs : List Value) :
    l.invoke h current command (.none :: vs) = r.call h current l.origin vs := by
  rw [invoke, hr]
  rfl

namespace Setup

open Engine Procedure

variable (e : Setup σ ε)

/-- How long a run pauses before it calls a library command, in milliseconds. -/
abbrev delay : Float :=
  Float.ofInt e.execution.commandDelay

/-- Prepares a library command for its call. -/
def invocation (c : Command) : Engine σ ε (Invocation σ ε) := do
  if c.library = [] then throw (c.fault (.unknownCommand c.verb))
  let l ← loadLibrary c.library
  let _ ← l.routine c.verb
  let args ← e.resolver.arguments c.args
  let _ ← Value.displayed args
  act (e.driver.sleep (Float.ofInt e.execution.commandDelay))
  return ⟨l, args, (← get).current⟩

/-- Calls a library command that is prepared. -/
def invoke (c : Command) (i : Invocation σ ε) : Engine σ ε Unit := do
  let _ ← act (i.library.invoke e.host i.driver c.verb i.args)

variable {e} {c : Command} {i : Invocation σ ε} {s s' : RunState σ ε}

theorem callLibrary_eq : e.callLibrary c =
    e.invocation c >>= fun i => act (i.library.invoke e.host i.driver c.verb i.args) := by
  unfold callLibrary invocation
  split
  · rfl
  · simp only [bind_assoc, pure_bind]

theorem dispatch_library {nested : Nested σ ε} (h : c.builtin? = none) :
    e.dispatch nested c = e.invocation c >>= e.invoke c := by
  simp only [dispatch, h, callLibrary_eq, bind_assoc]
  rfl

section Prepared

variable {l : Library} {g : Registry} {r : Routine} {vs : List Value} {w : World σ} {f : Fault}

theorem run_loadLibrary_of (hl : s.registry.load s.world.files c.library = (.ok l, g)) :
    c.library ≠ [] ∧ (loadLibrary c.library : Engine σ ε Library).run s =
      (.ok l, { s with registry := g }) := by
  refine ⟨fun hn => ?_, by rw [run_loadLibrary, hl]⟩
  rw [Registry.load, if_pos hn] at hl
  cases hl

theorem invocation_unlisted (hl : s.registry.load s.world.files c.library = (.ok l, g))
    (hr : l.routine c.verb = .error f) :
    (e.invocation c).run s = (.error f, { s with registry := g }) := by
  obtain ⟨hn, hload⟩ := run_loadLibrary_of hl
  unfold invocation
  rw [if_neg hn, run_bind_ok hload, hr]
  rfl

theorem invocation_unresolved (hl : s.registry.load s.world.files c.library = (.ok l, g))
    (hr : l.routine c.verb = .ok r) (ha : e.resolver.arguments c.args = .error f) :
    (e.invocation c).run s = (.error f, { s with registry := g }) := by
  obtain ⟨hn, hload⟩ := run_loadLibrary_of hl
  unfold invocation
  rw [if_neg hn, run_bind_ok hload, hr, ha]
  rfl

/-- With a routine and arguments, all that is left to do before the call is to pause. -/
theorem invocation_pause (hl : s.registry.load s.world.files c.library = (.ok l, g))
    (hr : l.routine c.verb = .ok r) (ha : e.resolver.arguments c.args = .ok vs) :
    (e.invocation c).run s = (act (e.driver.sleep e.delay) >>=
      fun _ => return ⟨l, vs, (← get).current⟩).run { s with registry := g } := by
  obtain ⟨hn, hload⟩ := run_loadLibrary_of hl
  obtain ⟨ss, hs⟩ := e.resolver.displayed_of_arguments ha
  unfold invocation
  rw [if_neg hn, run_bind_ok hload, hr, ha]
  show (liftM (Value.displayed vs) >>= _ : Engine σ ε _).run _ = _
  rw [hs]
  rfl

theorem invocation_interrupted (hl : s.registry.load s.world.files c.library = (.ok l, g))
    (hr : l.routine c.verb = .ok r) (ha : e.resolver.arguments c.args = .ok vs)
    (hp : (e.driver.sleep e.delay).run s.world = (.error f, w)) :
    (e.invocation c).run s = (.error f, { s with world := w, registry := g }) := by
  rw [invocation_pause hl hr ha]
  exact run_bind_error (by rw [run_act, hp])

theorem invocation_ready (hl : s.registry.load s.world.files c.library = (.ok l, g))
    (hr : l.routine c.verb = .ok r) (ha : e.resolver.arguments c.args = .ok vs)
    (hp : (e.driver.sleep e.delay).run s.world = (.ok (), w)) :
    (e.invocation c).run s =
      (.ok ⟨l, vs, s.current⟩, { s with world := w, registry := g }) := by
  have hpause : (act (e.driver.sleep e.delay)).run
      { s with registry := g } = (.ok (), { s with world := w, registry := g }) := by
    rw [run_act, hp]
  rw [invocation_pause hl hr ha, run_bind_ok hpause]
  rfl

end Prepared

theorem isCalm_invocation (e : Setup σ ε) (c : Command) : IsCalm (e.invocation c) := by
  unfold invocation
  split
  · exact isCalm_throw _
  · refine (isCalm_loadLibrary _).bind fun l => ?_
    refine (isCalm_lift _).bind fun _ => ?_
    refine (isCalm_lift _).bind fun args => ?_
    refine (isCalm_lift _).bind fun _ => ?_
    refine (isCalm_act _).bind fun _ => ?_
    exact isCalm_get.bind fun s => isCalm_pure _

/-- A library command sees the driver that is the current one as the command is dispatched. -/
theorem driver_of_invocation (h : (e.invocation c).run s = (.ok i, s')) :
    i.driver = s.current := by
  rw [← ((e.isCalm_invocation c).of_run h).current]
  unfold invocation at h
  split at h
  · cases h
  · obtain ⟨l, s₁, -, h⟩ := run_bind_eq_ok.mp h
    obtain ⟨_, s₂, -, h⟩ := run_bind_eq_ok.mp h
    obtain ⟨args, s₃, -, h⟩ := run_bind_eq_ok.mp h
    obtain ⟨_, s₄, -, h⟩ := run_bind_eq_ok.mp h
    obtain ⟨_, s₅, -, h⟩ := run_bind_eq_ok.mp h
    cases h
    rfl

end Setup

end TapScript
