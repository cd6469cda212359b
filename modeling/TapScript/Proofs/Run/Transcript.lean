import TapScript.Proofs.Run.Mirror

/-! # The transcript of a run

A driver and a host can be made to enter in a transcript what a run asks of them: the calls on the
driver, and those of library routines. A run with a transcript does what the run without one does.
-/

namespace TapScript

variable {σ ε α : Type}

/-- Something that commands do: a call on the driver, or one of a library routine. -/
inductive Deed (ε : Type)
  | call (c : Call ε)
  | enter (library : List String) (routine : String) (args : List Value)

/-- Devices together with all that was done, in order. -/
structure Transcribed (σ ε : Type) where
  devices : σ
  deeds : List (Deed ε)

/-- An act that is entered as a deed. -/
def Act.transcribed (deed : Deed ε) (a : Act σ α) : Act (Transcribed σ ε) α := fun w =>
  let (r, v) := a.run ⟨w.files, w.devices.devices⟩
  (r, ⟨v.files, v.devices, w.devices.deeds ++ [deed]⟩)

/-- The driver that enters each of its calls. -/
def Driver.transcribed (d : Driver σ ε) : Driver (Transcribed σ ε) ε where
  respond c := (d.respond c).transcribed (.call c)

/-- The host that enters each call of a library routine. -/
def Host.transcribed (h : Host σ) : Host (Transcribed σ ε) where
  enter library routine args :=
    (h.enter library routine args).transcribed (.enter library routine args)
  now w := h.now w.devices
  patterns := h.patterns

/-- The setup in which all deeds are entered. -/
def Setup.transcribed (e : Setup σ ε) : Setup (Transcribed σ ε) ε :=
  ⟨e.driver.transcribed, e.host.transcribed, e.resolver, e.execution⟩

/-- The world with a transcript. -/
def World.transcribed (w : World σ) (deeds : List (Deed ε)) : World (Transcribed σ ε) :=
  ⟨w.files, w.devices, deeds⟩

/-- Worlds with a transcript, as worlds with a log of deeds. -/
@[reducible]
def transcript (σ ε : Type) : Mirror σ (Transcribed σ ε) ε (Deed ε) where
  Entered _ := True
  view := World.transcribed
  driver := Driver.transcribed
  host := Host.transcribed
  files _ _ := rfl
  now _ _ _ := rfl
  patterns _ := rfl
  respond _ c _ := fun _ _ => ⟨[.call c], by simp, rfl⟩
  enter _ library routine args := fun _ _ => ⟨[.enter library routine args], by simp, rfl⟩

/-- The state of a run with a transcript. -/
def RunState.transcribed (s : RunState σ ε) (deeds : List (Deed ε)) :
    RunState (Transcribed σ ε) ε :=
  { s with world := s.world.transcribed deeds, current := s.current.map Driver.transcribed }

end TapScript
