import TapScript.Proofs.Run.Journal
import TapScript.Proofs.Run.Saving

/-! # Closing a run

At its end a run saves its results and then ends the automation session. Neither of these changes
its outcome, and ending the session is the one call on the driver.
-/

namespace TapScript

variable {σ ε : Type}

/-- The second state differs from the first in the world, in the session, and in warnings. -/
structure Settled (s s' : RunState σ ε) : Prop where
  current : s'.current = s.current
  registry : s'.registry = s.registry
  notices : ∃ warnings : List String, s'.notices = s.notices ++ warnings.map .warned

theorem Settled.trans {s s' s'' : RunState σ ε} (h : Settled s s') (h' : Settled s' s'') :
    Settled s s'' := by
  obtain ⟨lines, hl⟩ := h.notices
  obtain ⟨lines', hl'⟩ := h'.notices
  exact ⟨h'.current.trans h.current, h'.registry.trans h.registry,
    lines ++ lines', by rw [hl', hl, List.map_append, List.append_assoc]⟩

namespace Setup

open Engine Procedure

variable (e : Setup σ ε)

/-- The end of a run, with the outcome of its commands: saves the results, and ends the automation
session however that goes. -/
def close (r : Except Fault Unit) : Engine σ ε Unit := do
  let saved ← attempt saveResults
  e.endSession
  saved
  r

variable {e}

theorem saveResults_ok {s : RunState σ ε} {p : Option Path × FileTree}
    (h : s.session.save s.world.files = .ok p) :
    saveResults.run s = (.ok (), { s with world := { s.world with files := p.2 } }) := by
  unfold saveResults
  rw [run_bind_ok run_get]
  simp only [h]
  rfl

theorem saveResults_error {s : RunState σ ε} {f : FileError}
    (h : s.session.save s.world.files = .error (.file f)) :
    saveResults.run s = (.ok (), { s with
      notices := s.notices ++ [.warned s!"Failed to save results: {f.message}"] }) := by
  unfold saveResults
  rw [run_bind_ok run_get]
  simp only [h]
  rfl

/-- Saving the results is no fault of the run if only the file system can refuse it. -/
theorem saveResults_run {s : RunState σ ε}
    (hs : ∀ m, s.session.save s.world.files = .error m → ∃ f, m = .file f) :
    ∃ s', saveResults.run s = (.ok (), s') ∧ Settled s s' ∧ s'.session = s.session ∧
      ∀ calls, saveResults.run (s.journaled calls) = (.ok (), s'.journaled calls) := by
  cases h : s.session.save s.world.files with
  | ok p => exact ⟨_, saveResults_ok h, ⟨rfl, rfl, [], by simp⟩, rfl, fun _ => saveResults_ok h⟩
  | error m =>
    obtain ⟨f, rfl⟩ := hs m h
    exact ⟨_, saveResults_error h, ⟨rfl, rfl, [_], rfl⟩, rfl, fun _ => saveResults_error h⟩

theorem endSession_ok {s : RunState σ ε} {w : World σ} (hs : s.session.closed = false)
    (h : e.driver.quit.run s.world = (.ok (), w)) :
    e.endSession.run s =
      (.ok (), { s with world := w, session := { s.session with closed := true } }) := by
  unfold endSession
  rw [run_bind_ok run_get]
  simp only [hs, Bool.false_eq_true, if_false, run_bind, run_update, run_attempt, run_act, h]
  rfl

theorem endSession_error {s : RunState σ ε} {w : World σ} {f : Fault}
    (hs : s.session.closed = false) (h : e.driver.quit.run s.world = (.error f, w)) :
    e.endSession.run s = (.ok (), { s with
      world := w
      session := { s.session with closed := true }
      notices := s.notices ++ [.warned s!"Failed to end automation session: {f.message}"] }) := by
  unfold endSession
  rw [run_bind_ok run_get]
  simp only [hs, Bool.false_eq_true, if_false, run_bind, run_update, run_attempt, run_act, h]
  rfl

theorem quit_journaled (d : Driver σ ε) (w : World σ) (calls : List (Call ε)) :
    d.journaled.quit.run (w.journaled calls) =
      ((d.quit.run w).1, (d.quit.run w).2.journaled (calls ++ [.quit])) := rfl

/-- Ending an open session is no fault of the run, and is one call. -/
theorem endSession_run {s : RunState σ ε} (hs : s.session.closed = false) :
    ∃ s', e.endSession.run s = (.ok (), s') ∧ Settled s s' ∧
      s'.session = { s.session with closed := true } ∧
      ∀ calls, e.journaled.endSession.run (s.journaled calls) =
        (.ok (), s'.journaled (calls ++ [.quit])) := by
  rcases h : e.driver.quit.run s.world with ⟨f | ⟨⟩, w⟩
  · refine ⟨_, endSession_error hs h, ⟨rfl, rfl, [_], rfl⟩, rfl, fun calls => ?_⟩
    exact endSession_error hs ((quit_journaled _ _ _).trans (by rw [h]))
  · refine ⟨_, endSession_ok hs h, ⟨rfl, rfl, [], by simp⟩, rfl, fun calls => ?_⟩
    exact endSession_ok hs ((quit_journaled _ _ _).trans (by rw [h]))

/-- A mishap in saving that is no refusal of the file system is a fault of the run. -/
theorem saveResults_mishap {s : RunState σ ε} {m : Mishap}
    (h : s.session.save s.world.files = .error m) (hm : ∀ f, m ≠ .file f) :
    saveResults.run s = (.error (.mishap m), s) := by
  unfold saveResults
  rw [run_bind_ok run_get]
  cases m <;> simp only [h] <;> first | rfl | exact absurd rfl (hm _)

theorem saveResults_settled (s : RunState σ ε) :
    Settled s (saveResults.run s).2 ∧ (saveResults.run s).2.session = s.session := by
  cases h : s.session.save s.world.files with
  | ok p => rw [saveResults_ok h]; exact ⟨⟨rfl, rfl, [], by simp⟩, rfl⟩
  | error m =>
    by_cases hm : ∃ f, m = .file f
    · obtain ⟨f, rfl⟩ := hm
      rw [saveResults_error h]
      exact ⟨⟨rfl, rfl, [_], rfl⟩, rfl⟩
    · rw [saveResults_mishap h fun f hf => hm ⟨f, hf⟩]
      exact ⟨⟨rfl, rfl, [], by simp⟩, rfl⟩

theorem endSession_settled (s : RunState σ ε) :
    Settled s (e.endSession.run s).2 ∧
      (e.endSession.run s).2.session.record = s.session.record := by
  cases hc : s.session.closed with
  | true =>
    have hr : e.endSession.run s = (.ok (), s) := by
      unfold endSession
      rw [run_bind_ok run_get]
      simp only [hc, if_true]
      rfl
    rw [hr]
    exact ⟨⟨rfl, rfl, [], by simp⟩, rfl⟩
  | false =>
    obtain ⟨s', hr, hl, hs, -⟩ := e.endSession_run hc
    rw [hr, hs]
    exact ⟨hl, rfl⟩

theorem close_state (r : Except Fault Unit) (s : RunState σ ε) :
    ((e.close r).run s).2 = (e.endSession.run (saveResults.run s).2).2 := by
  unfold close
  simp only [run_bind, run_attempt]
  rcases e.endSession.run (saveResults.run s).2 with ⟨f | ⟨⟩, s'⟩
  · rfl
  · rcases (saveResults.run s).1 with f | ⟨⟩ <;> rfl

/-- However a run closes, its record stays, and nothing is given notice of but warnings. -/
theorem close_settled (r : Except Fault Unit) (s : RunState σ ε) :
    Settled s ((e.close r).run s).2 ∧
      ((e.close r).run s).2.session.record = s.session.record := by
  obtain ⟨hl₁, he₁⟩ := saveResults_settled s
  obtain ⟨hl₂, he₂⟩ := e.endSession_settled (saveResults.run s).2
  rw [close_state]
  exact ⟨hl₁.trans hl₂, by rw [he₂, he₁]⟩

theorem endSession_world {s : RunState σ ε} (hs : s.session.closed = false) :
    (e.endSession.run s).2.world = (e.driver.quit.run s.world).2 := by
  rcases h : e.driver.quit.run s.world with ⟨f | ⟨⟩, w⟩
  · rw [endSession_error hs h]
  · rw [endSession_ok hs h]

/-- What is saved is there when the automation session is ended, which is the last thing done. -/
theorem close_world {s : RunState σ ε} {p : Option Path × FileTree} (r : Except Fault Unit)
    (hs : s.session.closed = false) (h : s.session.save s.world.files = .ok p) :
    ((e.close r).run s).2.world = (e.driver.quit.run { s.world with files := p.2 }).2 := by
  rw [close_state, saveResults_ok h]
  exact e.endSession_world hs

/-- The end of a run keeps its outcome, and the end of the automation session is its one call. -/
theorem close_run {s : RunState σ ε} (r : Except Fault Unit) (hc : s.session.closed = false)
    (hs : ∀ m, s.session.save s.world.files = .error m → ∃ f, m = .file f) :
    ∃ s', (e.close r).run s = (r, s') ∧ Settled s s' ∧
      s'.session = { s.session with closed := true } ∧
      ∀ calls, (e.journaled.close r).run (s.journaled calls) =
        (r, s'.journaled (calls ++ [.quit])) := by
  obtain ⟨s₁, h₁, hl₁, he₁, hj₁⟩ := saveResults_run hs
  obtain ⟨s₂, h₂, hl₂, he₂, hj₂⟩ := e.endSession_run (he₁ ▸ hc)
  refine ⟨s₂, ?_, hl₁.trans hl₂, by rw [he₂, he₁], fun calls => ?_⟩
  · unfold close
    simp only [run_bind, run_attempt, h₁, h₂, run_lift]
  · unfold close
    simp only [run_bind, run_attempt, hj₁, hj₂, run_lift]

end Setup

end TapScript
