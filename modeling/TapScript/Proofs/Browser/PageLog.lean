import TapScript.Proofs.Browser.Log
import TapScript.Proofs.Run.Lifecycle

/-! # Runs on a page with a log

A run on a page that enters its calls in a log does what it does on the page without one. Its
commands enter calls of the page that neither navigate nor close anything, and after them the run
enters one call more, which closes what the page shares its data with.
-/

namespace TapScript

/-- Whether a call on a page is one that commands make. -/
def PageCall.isScripted : PageCall → Bool
  | .visit _ | .close | .closeContext => false
  | _ => true

def LogEntry.isScripted (x : LogEntry) : Bool :=
  match x.call with
  | .page c => c.isScripted
  | .browser _ => false

variable {σ ε : Type}

def Driver.silent (d : Driver σ ε) : Driver (Logged σ) ε where
  respond c := (d.respond c).silent

open Procedure

/-- Whether an act with a log is that act without one, entering calls that commands make. -/
abbrev Act.Scripted {α : Type} (a : Act σ α) (a' : Act (Logged σ) α) : Prop :=
  Procedure.Mirrors World.logged (fun x : LogEntry => x.isScripted = true) a a'

namespace Page

variable (p : Page σ)

theorem scripted_respond {c : PageCall} (h : c.isScripted = true) :
    (p.respond c).Scripted (p.logged.respond c) := fun w _ =>
  ⟨[⟨.page c, fault? ((p.respond c).run w).1⟩], by simpa [LogEntry.isScripted] using h, rfl⟩

theorem scripted_during (action : String) {c : PageCall} (h : c.isScripted = true) :
    (p.during action c).Scripted (p.logged.during action c) :=
  (p.scripted_respond h).tryCatch fun _ => .throw _

theorem scripted_find (s : Strategy) (locator : String) :
    (p.find s locator).Scripted (p.logged.find s locator) := by
  unfold find
  refine (p.scripted_respond rfl).bind fun _ => ?_
  refine (p.scripted_respond rfl).bind fun n => ?_
  split
  · exact .throw_bind _
  · exact .pure _

theorem scripted_swipe (selector : String) (startX startY endX endY duration : Float) :
    (p.swipe selector startX startY endX endY duration).Scripted
      (p.logged.swipe selector startX startY endX endY duration) := by
  unfold swipe
  refine (p.scripted_respond rfl).bind fun box => ?_
  split
  · exact .throw _
  · refine (Mirrors.lift _).bind fun steps => ?_
    refine (p.scripted_respond rfl).bind fun _ => ?_
    refine (p.scripted_respond rfl).bind fun _ => ?_
    refine (p.scripted_respond rfl).bind fun _ => ?_
    exact p.scripted_respond rfl

theorem scripted_driver (closesContext : Bool) {c : Call String} (h : c ≠ .quit) :
    ((p.driver closesContext).respond c).Scripted ((p.logged.driver closesContext).respond c) := by
  cases c with
  | find s l => exact p.scripted_find s l
  | click e => exact p.scripted_during _ rfl
  | tap e x y => exact p.scripted_during _ rfl
  | swipe e sx sy ex ey ms => exact p.scripted_swipe e sx sy ex ey ms
  | type e s => exact p.scripted_during _ rfl
  | keys e s => exact (p.scripted_during _ rfl).bind fun _ => p.scripted_during _ rfl
  | setValue e s => exact p.scripted_during _ rfl
  | readAttribute e n => exact p.scripted_during _ rfl
  | sleep ms => exact p.scripted_respond rfl
  | quit => exact absurd rfl h

open Classical in
/-- Worlds with a log of the calls on a page. A driver of anything else enters nothing. -/
noncomputable def mirror : Mirror σ (Logged σ) String LogEntry where
  Entered x := x.isScripted = true
  view := World.logged
  driver d := if d = p.driver true then p.logged.driver true else d.silent
  host := Host.logged
  files _ _ := rfl
  now _ _ _ := rfl
  patterns _ := rfl
  respond d c h := by
    split
    · next hd => exact hd ▸ p.scripted_driver true h
    · exact .of_run fun _ _ => rfl
  enter _ _ _ _ := .of_run fun _ _ => rfl

theorem mirror_driver : p.mirror.driver (p.driver true) = p.logged.driver true :=
  if_pos rfl

def setup (h : Host σ) (r : Resolver) (x : Execution) : Setup σ String :=
  ⟨p.driver true, h, r, x⟩

theorem mirror_setup (h : Host σ) (r : Resolver) (x : Execution) :
    p.mirror.setup (p.setup h r x) = p.logged.setup h.logged r x := by
  rw [Mirror.setup, setup, mirror_driver]
  rfl

/-- The entry that the end of the automation session is. -/
def ending (w : World σ) : LogEntry :=
  ⟨.page .closeContext, fault? ((p.respond .closeContext).run w).1⟩

theorem quit_logged (w : World σ) (log : List LogEntry) :
    (p.logged.driver true).quit.run (w.logged log) =
      (((p.driver true).quit.run w).1,
        ((p.driver true).quit.run w).2.logged (log ++ [p.ending w])) :=
  Act.run_logged rfl (.page .closeContext) log

open Engine

variable {p} {h : Host σ} {x : Execution} {r : Except Fault Unit} {s st : RunState σ String}
  {log : List LogEntry}

theorem saveResults_logged : Setup.saveResults.run (p.mirror.state s log) =
    ((Setup.saveResults.run s).1, p.mirror.state (Setup.saveResults.run s).2 log) := by
  cases hs : s.session.save s.world.files with
  | ok q =>
    rw [Setup.saveResults_ok hs, Setup.saveResults_ok (s := p.mirror.state s log) hs]
    rfl
  | error m =>
    by_cases hm : ∃ f, m = .file f
    · obtain ⟨f, rfl⟩ := hm
      rw [Setup.saveResults_error hs, Setup.saveResults_error (s := p.mirror.state s log) hs]
      rfl
    · have hn : ∀ f, m ≠ .file f := fun f hf => hm ⟨f, hf⟩
      rw [Setup.saveResults_mishap hs hn,
        Setup.saveResults_mishap (s := p.mirror.state s log) hs hn]

theorem endSession_logged {v : Resolver} (hc : s.session.closed = false) :
    (p.logged.setup h.logged v x).endSession.run (p.mirror.state s log) =
      (((p.setup h v x).endSession.run s).1,
        p.mirror.state ((p.setup h v x).endSession.run s).2 (log ++ [p.ending s.world])) := by
  have hl := p.quit_logged s.world log
  rcases hq : (p.driver true).quit.run s.world with ⟨f | ⟨⟩, w⟩
  · rw [hq] at hl
    rw [Setup.endSession_error (e := p.setup h v x) hc hq,
      Setup.endSession_error (e := p.logged.setup h.logged v x) (s := p.mirror.state s log) hc hl]
    rfl
  · rw [hq] at hl
    rw [Setup.endSession_ok (e := p.setup h v x) hc hq,
      Setup.endSession_ok (e := p.logged.setup h.logged v x) (s := p.mirror.state s log) hc hl]
    rfl

theorem close_logged {v : Resolver} (hc : s.session.closed = false) :
    ∃ y : LogEntry, y.call = .page .closeContext ∧
      ((p.logged.setup h.logged v x).close r).run (p.mirror.state s log) =
        ((((p.setup h v x).close r).run s).1,
          p.mirror.state (((p.setup h v x).close r).run s).2 (log ++ [y])) := by
  have hc' : (Setup.saveResults.run s).2.session.closed = false := by
    rw [(Setup.saveResults_settled s).2, hc]
  refine ⟨p.ending (Setup.saveResults.run s).2.world, rfl, ?_⟩
  unfold Setup.close
  simp only [run_bind, run_attempt, saveResults_logged, endSession_logged hc']
  rcases (p.setup h v x).endSession.run (Setup.saveResults.run s).2 with ⟨f | u, s₁⟩
  · rfl
  · cases (Setup.saveResults.run s).1 <;> rfl

/-- A run on a page with a log does what it does without one. Its commands enter what they do on
the page, and its last entry is the end of the automation session. -/
theorem run_logged (p : Page σ) (h : Host σ) (v : Resolver) (x : Execution) (main : Script)
    (log : List LogEntry) {t t' : FileTree} {script : Path} {dir : Option Path}
    (fresh : Session.create t script dir = .ok (st.session, t')) :
    ∃ more, ∃ y : LogEntry, (∀ z ∈ more, z.isScripted = true) ∧ y.call = .page .closeContext ∧
      ((p.logged.setup h.logged v x).run main).run (p.mirror.state st log) =
        ((((p.setup h v x).run main).run st).1,
          p.mirror.state (((p.setup h v x).run main).run st).2 (log ++ (more ++ [y]))) := by
  obtain ⟨F, r, s₂, hh⟩ := (p.setup h v x).exists_history main st
  obtain ⟨more, hm, hb⟩ := (p.setup h v x).body_mirror p.mirror main
    ((p.setup h v x).begun st) log
  rw [hh.body_run, ← Setup.begun_mirror, mirror_setup] at hb
  have hc : ((p.setup h v x).concluded st r s₂).session.closed = false := (hh.finished fresh).1
  obtain ⟨y, hy, hl⟩ := close_logged (x := x) (r := r) (h := h) (v := v) hc
  have hcon := (p.setup h v x).concluded_mirror p.mirror st s₂ r log (log ++ more)
  rw [mirror_setup] at hcon
  refine ⟨more, y, hm, hy, ?_⟩
  rw [Setup.run_eq_close hb, hcon, hl, Setup.run_eq_close hh.body_run, List.append_assoc]

end Page

end TapScript
