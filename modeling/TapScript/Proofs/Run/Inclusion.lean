import TapScript.Proofs.Run.Frame

/-! # Including another script

A command that runs another script first opens it: it finds the file, reads it, and loads the
libraries that the script names. Only then do the commands of that script run, one level deeper.
-/

namespace TapScript

variable {σ ε : Type}

/-- Whether a command leads to a script, as the files stand. -/
def Command.LeadsTo (c : Command) (t : FileTree) (s : Script) : Prop :=
  ∃ name rest path, c.args = name :: rest ∧ scriptPath t name.text c.source = .ok path ∧
    t.isFile path = .ok true ∧ Script.load t path = .ok s

namespace Setup

open Engine Procedure

variable (e : Setup σ ε)

/-- How a command runs another script, with so many levels of them allowed below its own. -/
def nested : (levels depth : Nat) → Nested σ ε
  | 0, _ => none
  | n + 1, d => some fun path => do
    let s ← Script.load (← get).world.files path
    prepare s.commands
    e.execute n (d + 1) s.commands

theorem execute_eq_forM (n d : Nat) (cs : List Command) :
    e.execute n d cs = cs.forM (e.perform (e.nested n d) d) := by
  cases n <;> rfl

/-- Finds and reads the script that a command names, and loads its libraries. -/
def opening (levels : Nat) (c : Command) : Engine σ ε Script :=
  match c.args, levels with
  | [], _ => throw (c.fault .noScript)
  | _, 0 => throw (c.fault (.nestedTooDeep e.execution.maxDepth))
  | name :: _, _ + 1 => do
    let files := (← get).world.files
    let path ← scriptPath files name.text c.source
    if ← (files.isFile path).mapError Fault.ofFile then
      let s ← Script.load files path
      prepare s.commands
      return s
    else throw (c.fault (.scriptNotFound path.text))

theorem isCalm_opening (levels : Nat) (c : Command) : IsCalm (e.opening levels c) := by
  unfold opening
  split
  · exact isCalm_throw _
  · exact isCalm_throw _
  · refine isCalm_get.bind fun s => ?_
    refine (isCalm_lift _).bind fun path => ?_
    refine (isCalm_lift _).bind fun found => ?_
    split
    · refine (isCalm_lift _).bind fun s => ?_
      exact (isCalm_prepare _).bind fun _ => isCalm_pure _
    · exact isCalm_throw _

variable {e} {n d : Nat} {c : Command} {s s' : RunState σ ε} {sc : Script}

/-- A command runs another script by opening it and then running its commands. -/
theorem dispatch_runScript (h : c.builtin? = some .runScript) :
    (e.dispatch (e.nested n d) c).run s =
      (e.opening n c >>= fun sc => e.execute (n - 1) (d + 1) sc.commands).run s := by
  unfold dispatch
  rw [h]
  change (e.runScript (e.nested n d) c).run s = _
  unfold runScript opening
  cases hc : c.args with
  | nil => rfl
  | cons name rest =>
    cases n with
    | zero => rfl
    | succ n =>
      simp only [nested, run_bind, run_get, run_lift]
      cases scriptPath s.world.files name.text c.source with
      | error f => rfl
      | ok path =>
        simp only
        cases (s.world.files.isFile path).mapError Fault.ofFile with
        | error f => rfl
        | ok found =>
          cases found with
          | false => rfl
          | true =>
            simp only [if_true, run_bind, run_get, run_lift]
            cases Script.load s.world.files path with
            | error f => rfl
            | ok sc =>
              simp only [run_prepare]
              cases (s.registry.prepare s.world.files sc.commands).1 <;> rfl

/-- Without the name of a script there is nothing to run. -/
theorem dispatch_noScript {nested : Nested σ ε} (h : c.builtin? = some .runScript)
    (hc : c.args = []) : e.dispatch nested c = throw (c.fault .noScript) := by
  simp only [dispatch, h, runScript, hc]

/-- At the deepest level a command refuses to run another script, and does nothing else. -/
theorem dispatch_tooDeep (h : c.builtin? = some .runScript) (hc : c.args ≠ []) :
    e.dispatch none c = throw (c.fault (.nestedTooDeep e.execution.maxDepth)) := by
  simp only [dispatch, h, runScript]

/-- Opening a script that is there loads its libraries and does nothing else. -/
theorem opening_of_leadsTo (h : c.LeadsTo s.world.files sc) :
    (e.opening (n + 1) c).run s = (prepare sc.commands >>= fun _ => pure sc).run s := by
  obtain ⟨name, rest, path, hc, hp, hf, hl⟩ := h
  simp only [opening, hc, run_bind, run_get, run_lift, hp, hf, hl, Outcome.mapError_ok, if_true]

/-- A script is opened only below the deepest level, and if it is there. -/
theorem leadsTo_of_opening (h : (e.opening n c).run s = (.ok sc, s')) :
    n ≠ 0 ∧ c.LeadsTo s.world.files sc := by
  unfold opening at h
  split at h
  · cases h
  · cases h
  · next name rest n hc =>
    refine ⟨Nat.succ_ne_zero n, ?_⟩
    simp only [run_bind, run_get, run_lift] at h
    cases hp : scriptPath s.world.files name.text c.source with
    | error f => rw [hp] at h; cases h
    | ok path =>
      simp only [hp] at h
      cases hf : s.world.files.isFile path with
      | error f => rw [hf] at h; cases h
      | ok found =>
        rw [hf] at h
        cases found with
        | false => cases h
        | true =>
          simp only [Outcome.mapError_ok, if_true, run_bind, run_lift, run_prepare] at h
          cases hl : Script.load s.world.files path with
          | error f => rw [hl] at h; cases h
          | ok sc' =>
            simp only [hl] at h
            cases hr : (s.registry.prepare s.world.files sc'.commands).1 with
            | error f => rw [hr] at h; cases h
            | ok ls =>
              rw [hr] at h
              cases h
              exact ⟨name, rest, path, hc, hp, hf, hl⟩

theorem prepare_of_opening (h : (e.opening n c).run s = (.ok sc, s')) :
    (prepare sc.commands).run s = (.ok (), s') := by
  obtain ⟨hn, hl⟩ := leadsTo_of_opening h
  obtain ⟨n, rfl⟩ := Nat.exists_eq_succ_of_ne_zero hn
  rw [opening_of_leadsTo hl] at h
  obtain ⟨_, s₁, hp, h⟩ := run_bind_eq_ok.mp h
  cases h
  exact hp

end Setup

end TapScript
