import TapScript.Proofs.Run.Mirror

/-! # The journal of a run

A driver can be made to enter its calls in a journal before it makes them. A run with such a
driver does what the run without a journal does, and all that its commands enter are calls other
than the end of the automation session.
-/

namespace TapScript

variable {σ ε α : Type}

/-- Devices together with the calls that were made on them. -/
structure Journaled (σ ε : Type) where
  devices : σ
  calls : List (Call ε)

/-- The world with a journal. -/
def World.journaled (w : World σ) (calls : List (Call ε)) : World (Journaled σ ε) :=
  ⟨w.files, w.devices, calls⟩

/-- The world without its journal. -/
def World.plain (w : World (Journaled σ ε)) : World σ :=
  ⟨w.files, w.devices.devices⟩

/-- Enters a call in the journal. -/
def World.enter (c : Call ε) (w : World (Journaled σ ε)) : World (Journaled σ ε) :=
  w.plain.journaled (w.devices.calls ++ [c])

/-- An act that leaves the journal as it is. -/
def Act.journaled (a : Act σ α) : Act (Journaled σ ε) α := fun w =>
  ((a.run w.plain).1, (a.run w.plain).2.journaled w.devices.calls)

/-- The driver that enters each call in the journal. -/
def Driver.journaled (d : Driver σ ε) : Driver (Journaled σ ε) ε where
  respond c := do
    modify (World.enter c)
    Act.journaled (d.respond c)

/-- The host beside a journal. -/
def Host.journaled (h : Host σ) : Host (Journaled σ ε) where
  enter library routine args := Act.journaled (h.enter library routine args)
  now j := h.now j.devices
  patterns := h.patterns

/-- The setup of a run whose driver keeps a journal. -/
def Setup.journaled (e : Setup σ ε) : Setup (Journaled σ ε) ε :=
  ⟨e.driver.journaled, e.host.journaled, e.resolver, e.execution⟩

/-- The state of a run with a journal. -/
def RunState.journaled (s : RunState σ ε) (calls : List (Call ε)) :
    RunState (Journaled σ ε) ε :=
  { s with world := s.world.journaled calls, current := s.current.map Driver.journaled }

open Procedure

/-- Whether a driver with a journal makes the same calls, none of which ends the session. -/
abbrev Act.Mirrors (a : Act σ α) (a' : Act (Journaled σ ε) α) : Prop :=
  Procedure.Mirrors World.journaled (fun c : Call ε => c ≠ .quit) a a'

/-- Whether a part of a run with a journal is that part without one, and does not end the
session. -/
abbrev Engine.Mirrors (m : Engine σ ε α) (m' : Engine (Journaled σ ε) ε α) : Prop :=
  Procedure.Mirrors RunState.journaled (fun c : Call ε => c ≠ .quit) m m'

/-- Worlds with a journal, as worlds with a log of calls. -/
@[reducible]
def journal (σ ε : Type) : Mirror σ (Journaled σ ε) ε (Call ε) where
  Entered c := c ≠ .quit
  view := World.journaled
  driver := Driver.journaled
  host := Host.journaled
  files _ _ := rfl
  now _ _ _ := rfl
  patterns _ := rfl
  respond _ c h := fun _ _ => ⟨[c], by simpa using h, rfl⟩
  enter _ _ _ _ := .of_run fun _ _ => rfl

theorem Library.mirrors_invoke (h : Host σ) (current : Option (Driver σ ε)) (l : Library)
    (command : String) (args : List Value) : Act.Mirrors (l.invoke h current command args)
      (l.invoke h.journaled (current.map Driver.journaled) command args) :=
  (journal σ ε).invoke h current l command args

namespace Driver

variable (d : Driver σ ε) (call : Call ε) (w : World σ) (calls : List (Call ε))

theorem run_respond_journaled : (d.journaled.respond call).run (w.journaled calls) =
    (((d.respond call).run w).1, ((d.respond call).run w).2.journaled (calls ++ [call])) := rfl

theorem run_find_journaled {w w' : World σ} {st : Strategy} {locator : String} {element : ε}
    (h : (d.find st locator).run w = (.ok element, w')) (calls : List (Call ε)) :
    (d.journaled.find st locator).run (w.journaled calls) =
      (.ok element, w'.journaled (calls ++ [.find st locator])) := by
  rw [find] at h ⊢
  rw [run_respond_journaled, h]

theorem run_perform_journaled : (d.journaled.perform call).run (w.journaled calls) =
    (((d.perform call).run w).1, ((d.perform call).run w).2.journaled (calls ++ [call])) := by
  unfold perform
  rw [run_bind, run_bind, run_respond_journaled]
  rcases (d.respond call).run w with ⟨x | a, w'⟩
  · rfl
  · rfl

end Driver

/-- How an act goes from a world, without a journal and with one: the calls that it makes, how it
ends, and the world that it leaves. -/
structure Act.Traced (a : Act σ α) (a' : Act (Journaled σ ε) α) (w : World σ)
    (calls : List (Call ε)) (r : Except Fault α) (w' : World σ) : Prop where
  plain : a.run w = (r, w')
  journaled : ∀ log, a'.run (w.journaled log) = (r, w'.journaled (log ++ calls))

namespace Act.Traced

variable {β : Type} {a : Act σ α} {a' : Act (Journaled σ ε) α} {f : α → Act σ β}
  {f' : α → Act (Journaled σ ε) β} {w w₁ w' : World σ} {calls more : List (Call ε)} {x : α}
  {r : Except Fault β} {y : Fault}

theorem iff_goes {r : Except Fault α} :
    Traced a a' w calls r w' ↔ Goes World.journaled a a' w calls r w' :=
  ⟨fun h => ⟨h.plain, h.journaled⟩, fun h => ⟨h.plain, h.viewed⟩⟩

theorem respond {d : Driver σ ε} {c : Call ε} {r : Except Fault c.Reply}
    (h : (d.respond c).run w = (r, w')) :
    Traced (d.respond c) (d.journaled.respond c) w [c] r w' :=
  ⟨h, fun log => by rw [Driver.run_respond_journaled, h]⟩

theorem pure (x : α) : Traced (Pure.pure x : Act σ α) (Pure.pure x) w
    ([] : List (Call ε)) (.ok x) w :=
  iff_goes.mpr (.pure x)

theorem throw (y : Fault) : Traced (MonadExcept.throw y : Act σ α) (MonadExcept.throw y) w
    ([] : List (Call ε)) (.error y) w :=
  iff_goes.mpr (.throw y)

theorem bind (h : Traced a a' w calls (.ok x) w₁) (h' : Traced (f x) (f' x) w₁ more r w') :
    Traced (a >>= f) (a' >>= f') w (calls ++ more) r w' :=
  iff_goes.mpr ((iff_goes.mp h).bind (iff_goes.mp h'))

theorem bind_error (h : Traced a a' w calls (.error y) w') :
    Traced (a >>= f) (a' >>= f') w calls (.error y) w' :=
  iff_goes.mpr (iff_goes.mp h).bind_error

theorem lift_bind {v : Except Fault α} (hv : v = .ok x) (h : Traced (f x) (f' x) w calls r w') :
    Traced (liftM v >>= f) (liftM v >>= f') w calls r w' :=
  iff_goes.mpr (.lift_bind hv (iff_goes.mp h))

theorem lift_bind_error {v : Except Fault α} (hv : v = .error y) :
    Traced (liftM v >>= f) (liftM v >>= f') w ([] : List (Call ε)) (.error y) w :=
  iff_goes.mpr (.lift_bind_error hv)

theorem tryCatch {g : Fault → Act σ α} {g' : Fault → Act (Journaled σ ε) α}
    (h : Traced a a' w calls (.ok x) w') :
    Traced (MonadExcept.tryCatch a g) (MonadExcept.tryCatch a' g') w calls (.ok x) w' :=
  iff_goes.mpr (iff_goes.mp h).tryCatch

theorem tryCatch_error {g : Fault → Act σ α} {g' : Fault → Act (Journaled σ ε) α}
    {r : Except Fault α} (h : Traced a a' w calls (.error y) w₁)
    (h' : Traced (g y) (g' y) w₁ more r w') :
    Traced (MonadExcept.tryCatch a g) (MonadExcept.tryCatch a' g') w (calls ++ more) r w' :=
  iff_goes.mpr ((iff_goes.mp h).tryCatch_error (iff_goes.mp h'))

end Act.Traced

namespace Engine

theorem mirrors_act {a : Act σ α} {a' : Act (Journaled σ ε) α} (h : a.Mirrors a') :
    Engine.Mirrors (act a) (act a') :=
  (journal σ ε).act h

end Engine

namespace Setup

variable (e : Setup σ ε)

theorem mirrors_dispatch {n d : Nat} (h : ∀ k < n, ∀ d cs,
      Engine.Mirrors (e.execute k d cs) (e.journaled.execute k d cs)) (c : Command) :
    Engine.Mirrors (e.dispatch (e.nested n d) c)
      (e.journaled.dispatch (e.journaled.nested n d) c) :=
  (journal σ ε).dispatch e h c

end Setup

end TapScript
