import TapScript.Proofs.Procedure
import TapScript.Run.Launch

/-! # The log of a machine

A machine can be made to enter all calls on its launcher and on its page in a log, each with the
fault that it ends with. Reaching a browser and leaving it make few calls, in a fixed order: what
they enter, and which faults they end with, is listed here case by case.
-/

namespace TapScript

inductive MachineCall
  | browser (c : BrowserCall)
  | page (c : PageCall)

/-- A call that was made, with the fault that it ended with, if there is one. -/
structure LogEntry where
  call : MachineCall
  fault : Option Fault := none

structure Logged (σ : Type) where
  devices : σ
  log : List LogEntry

variable {σ α : Type}

def World.logged (w : World σ) (log : List LogEntry) : World (Logged σ) :=
  ⟨w.files, w.devices, log⟩

def World.bare (w : World (Logged σ)) : World σ :=
  ⟨w.files, w.devices.devices⟩

def fault? : Except Fault α → Option Fault
  | .ok _ => none
  | .error f => some f

namespace Act

/-- An act that leaves the log as it is. -/
def silent (a : Act σ α) : Act (Logged σ) α := fun w =>
  ((a.run w.bare).1, (a.run w.bare).2.logged w.devices.log)

/-- An act that is entered in the log as a call. -/
def logged (c : MachineCall) (a : Act σ α) : Act (Logged σ) α := fun w =>
  ((a.run w.bare).1,
    (a.run w.bare).2.logged (w.devices.log ++ [⟨c, fault? (a.run w.bare).1⟩]))

theorem run_logged {a : Act σ α} {w w' : World σ} {r : Except Fault α} (h : a.run w = (r, w'))
    (c : MachineCall) (log : List LogEntry) :
    (a.logged c).run (w.logged log) = (r, w'.logged (log ++ [⟨c, fault? r⟩])) := by
  change ((a.run w).1, (a.run w).2.logged (log ++ [⟨c, fault? (a.run w).1⟩])) = _
  rw [h]

end Act

def Launcher.logged (l : Launcher σ) : Launcher (Logged σ) where
  respond c := (l.respond c).logged (.browser c)

def Page.logged (p : Page σ) : Page (Logged σ) where
  respond c := (p.respond c).logged (.page c)

def Host.logged (h : Host σ) : Host (Logged σ) where
  enter library routine args := (h.enter library routine args).silent
  now d := h.now d.devices
  patterns := h.patterns

/-- The machine that enters each call in the log. -/
def Machine.logged (m : Machine σ) : Machine (Logged σ) :=
  ⟨m.launcher.logged, m.page.logged, m.host.logged⟩

/-- The call that opens a browser. -/
def BrowserSettings.opening (b : BrowserSettings) : BrowserCall :=
  match b.remote with
  | none | some "" => .launch b.headless
  | some url => .connect url

/-- What reaching a browser enters, how it ends, and what is started and connected by it. -/
inductive Reaches (b : BrowserSettings) :
    List LogEntry → Except Fault Unit → Bool → Bool → Prop
  | unstarted (f) : Reaches b [⟨.browser .start, some f⟩] (.error f) false false
  | unchosen (f) : Reaches b
      [⟨.browser .start, none⟩, ⟨.browser (.choose b.kind), some f⟩] (.error f) true false
  | unopened (f) : Reaches b
      [⟨.browser .start, none⟩, ⟨.browser (.choose b.kind), none⟩, ⟨.browser b.opening, some f⟩]
      (.error f) true false
  | opened : Reaches b
      [⟨.browser .start, none⟩, ⟨.browser (.choose b.kind), none⟩, ⟨.browser b.opening, none⟩]
      (.ok ()) true true

/-- What stopping the launcher enters, if it is started, how it ends, and whether it is started
from then on. -/
inductive Stops : Bool → List LogEntry → Except Fault Unit → Bool → Prop
  | idle : Stops false [] (.ok ()) false
  | stopped : Stops true [⟨.browser .stop, none⟩] (.ok ()) false
  | refused (f) : Stops true [⟨.browser .stop, some f⟩] (.error f) true

/-- What leaving a browser enters, how it ends, and what is started and connected then. -/
inductive Leaves (started : Bool) :
    Bool → List LogEntry → Except Fault Unit → Bool → Bool → Prop
  | unconnected {log r y} (stops : Stops started log r y) : Leaves started false log r y false
  | closed {log r y} (stops : Stops started log r y) :
      Leaves started true (⟨.browser .close, none⟩ :: log) r y false
  | unclosed (f) : Leaves started true [⟨.browser .close, some f⟩] (.error f) started true

theorem Browsing.run_act {a : Act (Logged σ) α} {r : Except Fault α} {w w' : World (Logged σ)}
    {x y : Bool} (h : a.run w = (r, w')) : (act a).run ⟨w, x, y⟩ = (r, ⟨w', x, y⟩) := by
  change ((a.run w).1, Browser.mk (a.run w).2 x y) = _
  rw [h]

namespace Launcher

open Procedure

variable (l : Launcher σ) (b : BrowserSettings) {w : World σ} {log : List LogEntry} {x y : Bool}

variable {l} {c : BrowserCall} {w' : World σ}

theorem call_run {r : Except Fault Unit} (h : (l.respond c).run w = (r, w'))
    (log : List LogEntry) (x y : Bool) : (l.logged.call c).run ⟨w.logged log, x, y⟩ =
      (r, ⟨w'.logged (log ++ [⟨.browser c, fault? r⟩]), x, y⟩) :=
  Browsing.run_act (Act.run_logged h _ log)

variable (l)

theorem connect_connected {s : Browser σ} (h : s.connected = true) :
    (l.connect b).run s = (.ok (), s) := by
  unfold connect
  rw [run_bind_ok run_get]
  simp only [h, if_true]
  rfl

theorem connect_unconnected {s : Browser σ} (h : s.connected = false) :
    (l.connect b).run s = (do
      l.call .start
      modify fun s => { s with started := true }
      l.call (.choose b.kind)
      l.call b.opening
      modify fun s => { s with connected := true } : Browsing σ Unit).run s := by
  unfold connect BrowserSettings.opening
  rw [run_bind_ok run_get]
  simp only [h, Bool.false_eq_true, if_false]
  -- an empty address is none
  rcases b.remote with _ | url
  · rfl
  · by_cases hu : url = ""
    · subst hu
      rfl
    · simp only

theorem connect_run (w : World σ) (log : List LogEntry) (x : Bool) :
    ∃ more r x' y', ∃ w' : World σ, Reaches b more r x' y' ∧
      (l.logged.connect b).run ⟨w.logged log, x, false⟩ =
        (r, ⟨w'.logged (log ++ more), x || x', y'⟩) := by
  rw [connect_unconnected _ _ rfl]
  rcases h₁ : (l.respond .start).run w with ⟨f | ⟨⟩, w₁⟩
  · exact ⟨_, _, _, _, w₁, .unstarted f, by simp [run_bind, fault?, call_run h₁]⟩
  rcases h₂ : (l.respond (.choose b.kind)).run w₁ with ⟨f | ⟨⟩, w₂⟩
  · exact ⟨_, _, _, _, w₂, .unchosen f, by simp [run_bind, fault?, call_run h₁, call_run h₂]⟩
  rcases h₃ : (l.respond b.opening).run w₂ with ⟨f | ⟨⟩, w₃⟩
  · exact ⟨_, _, _, _, w₃, .unopened f, by
      simp [run_bind, fault?, call_run h₁, call_run h₂, call_run h₃]⟩
  · exact ⟨_, _, _, _, w₃, .opened, by
      simp [run_bind, fault?, call_run h₁, call_run h₂, call_run h₃]⟩

def halt : Browsing σ Unit := do
  if (← get).started then
    l.call .stop
    modify fun s => { s with started := false }

theorem halt_run (w : World σ) (log : List LogEntry) (x y : Bool) :
    ∃ more r x', ∃ w' : World σ, Stops x more r x' ∧
      l.logged.halt.run ⟨w.logged log, x, y⟩ = (r, ⟨w'.logged (log ++ more), x', y⟩) := by
  unfold halt
  rw [run_bind_ok run_get]
  cases x with
  | false => exact ⟨_, _, _, w, .idle, by simp⟩
  | true =>
    rcases h : (l.respond .stop).run w with ⟨f | ⟨⟩, w₁⟩
    · exact ⟨_, _, _, w₁, .refused f, by simp [run_bind, fault?, call_run h]⟩
    · exact ⟨_, _, _, w₁, .stopped, by simp [run_bind, fault?, call_run h]⟩

theorem disconnect_run (w : World σ) (log : List LogEntry) (x y : Bool) :
    ∃ more r x' y', ∃ w' : World σ, Leaves x y more r x' y' ∧
      l.logged.disconnect.run ⟨w.logged log, x, y⟩ =
        (r, ⟨w'.logged (log ++ more), x', y'⟩) := by
  cases y with
  | false =>
    -- without a browser, leaving is no more than stopping the launcher
    obtain ⟨more, r, x', w', hs, h⟩ := l.halt_run w log x false
    refine ⟨more, r, x', false, w', .unconnected hs, ?_⟩
    rw [← h]
    rfl
  | true =>
    unfold disconnect
    rw [run_bind_ok run_get]
    rcases h : (l.respond .close).run w with ⟨f | ⟨⟩, w₁⟩
    · exact ⟨_, _, _, _, w₁, .unclosed f, by simp [run_bind, fault?, call_run h]⟩
    · obtain ⟨more, r, x', w', hs, h'⟩ := l.halt_run w₁ (log ++ [⟨.browser .close, none⟩]) x false
      refine ⟨_, r, x', false, w', .closed hs, ?_⟩
      rw [List.append_cons, ← h']
      simp only [if_true, run_bind, call_run h, run_modify, fault?]
      rfl

theorem enter_connected {s : Browser σ} (h : s.connected = true) :
    (l.enter b).run s = (.ok (), s) := by
  unfold enter
  rw [run_tryCatch, connect_connected l b h]

/-- Entering reaches the browser, or fails to and then stops the launcher. -/
theorem enter_run (w : World σ) (log : List LogEntry) (x : Bool) :
    (∃ more, ∃ w' : World σ, Reaches b more (.ok ()) true true ∧
      (l.logged.enter b).run ⟨w.logged log, x, false⟩ =
        (.ok (), ⟨w'.logged (log ++ more), true, true⟩)) ∨
    ∃ more f x' more' r z, ∃ w' : World σ, Reaches b more (.error f) x' false ∧
      Stops (x || x') more' r z ∧ (l.logged.enter b).run ⟨w.logged log, x, false⟩ =
        (r.bind fun _ => .error f, ⟨w'.logged (log ++ (more ++ more')), z, false⟩) := by
  obtain ⟨more, r, x', y', w₁, hr, h⟩ := l.connect_run b w log x
  unfold enter
  cases r with
  | ok u =>
    cases hr
    refine Or.inl ⟨_, w₁, .opened, ?_⟩
    rw [run_tryCatch, h, Bool.or_true]
  | error f =>
    obtain rfl : y' = false := by cases hr <;> rfl
    obtain ⟨more', r', z, y', w₂, hl, h'⟩ := l.disconnect_run w₁ (log ++ more) (x || x') false
    cases hl with
    | unconnected hs =>
      refine Or.inr ⟨more, f, x', more', r', z, w₂, hr, hs, ?_⟩
      rw [run_tryCatch, h]
      simp only [run_bind, h', List.append_assoc]
      cases r' <;> rfl

end Launcher

/-- What a list of calls enters, each made if the one before succeeds, and how it ends. -/
inductive Attempted : List MachineCall → List LogEntry → Except Fault Unit → Prop
  | nil : Attempted [] [] (.ok ())
  | failed {c cs} (f) : Attempted (c :: cs) [⟨c, some f⟩] (.error f)
  | cons {c cs log r} (rest : Attempted cs log r) : Attempted (c :: cs) (⟨c, none⟩ :: log) r

section

variable {cs cs' : List MachineCall}

theorem Attempted.append {more more' : List LogEntry} {r : Except Fault Unit}
    (h : Attempted cs more (.ok ())) (h' : Attempted cs' more' r) :
    Attempted (cs ++ cs') (more ++ more') r := by
  generalize hr : (Except.ok () : Except Fault Unit) = r₀ at h
  induction h with
  | nil => exact h'
  | failed f => cases hr
  | cons rest ih => exact .cons (ih hr)

theorem Attempted.fail {more : List LogEntry} {f : Fault} (h : Attempted cs more (.error f))
    (cs' : List MachineCall) : Attempted (cs ++ cs') more (.error f) := by
  generalize hr : (Except.error f : Except Fault Unit) = r₀ at h
  induction h with
  | nil => cases hr
  | failed g => exact .failed g
  | cons rest ih => exact .cons (ih hr)

end

/-- A dealing with a browser that is reached, which makes a list of calls up to the first that
fails, and does not leave the browser. -/
def Browsing.Makes (cs : List MachineCall) (m : Browsing (Logged σ) Unit) : Prop :=
  ∀ (w : World σ) (log : List LogEntry) (x : Bool), ∃ more r, ∃ w' : World σ,
    Attempted cs more r ∧
      m.run ⟨w.logged log, x, true⟩ = (r, ⟨w'.logged (log ++ more), x, true⟩)

namespace Browsing

open Procedure

variable {cs cs' : List MachineCall} {m m' : Browsing (Logged σ) Unit}

theorem Makes.bind (h : Makes cs m) (h' : Makes cs' m') :
    Makes (cs ++ cs') (m >>= fun _ => m') := by
  intro w log x
  obtain ⟨more, r, w₁, ha, hr⟩ := h w log x
  cases r with
  | error f => exact ⟨more, .error f, w₁, ha.fail cs', run_bind_error hr⟩
  | ok u =>
    obtain ⟨more', r', w₂, ha', hr'⟩ := h' w₁ (log ++ more) x
    refine ⟨more ++ more', r', w₂, ha.append ha', ?_⟩
    rw [run_bind_ok hr, hr', List.append_assoc]

theorem makes_pure : Makes [] (pure () : Browsing (Logged σ) Unit) := fun w log x =>
  ⟨[], .ok (), w, .nil, by rw [List.append_nil]; rfl⟩

theorem makes_act (c : MachineCall) (a : Act σ Unit) : Makes [c] (act (a.logged c)) := by
  intro w log x
  rcases h : a.run w with ⟨f | ⟨⟩, w'⟩
  · exact ⟨_, _, w', .failed f, run_act (Act.run_logged h c log)⟩
  · exact ⟨_, _, w', .cons .nil, run_act (Act.run_logged h c log)⟩

end Browsing

/-- The calls that open a page in a browser that is reached. -/
def BrowserSettings.paging (b : BrowserSettings) : List MachineCall :=
  [.browser (.newContext b.width b.height), .browser .newPage]

theorem Launcher.newPage_eq (l : Launcher σ) (b : BrowserSettings) :
    l.newPage b = l.connect b >>= fun _ =>
      l.call (.newContext b.width b.height) >>= fun _ => l.call .newPage := rfl

theorem Launcher.makes_paging (l : Launcher σ) (b : BrowserSettings) :
    Browsing.Makes b.paging
      (l.logged.call (.newContext b.width b.height) >>= fun _ => l.logged.call .newPage) :=
  (Browsing.makes_act _ _).bind (Browsing.makes_act _ _)

theorem Launcher.makes_newPage (l : Launcher σ) (b : BrowserSettings) :
    Browsing.Makes b.paging (l.logged.newPage b) := by
  intro w log x
  obtain ⟨more, r, w', ha, h⟩ := l.makes_paging b w log x
  refine ⟨more, r, w', ha, ?_⟩
  rw [newPage_eq, Procedure.run_bind_ok (connect_connected _ b rfl), h]

def Browser.logged (s : Browser σ) (log : List LogEntry) : Browser (Logged σ) :=
  ⟨s.world.logged log, s.started, s.connected⟩

/-- Whether a dealing with a log is that dealing without one. -/
abbrev Browsing.Mirrors (m : Browsing σ α) (m' : Browsing (Logged σ) α) : Prop :=
  Procedure.Mirrors Browser.logged (fun _ : LogEntry => True) m m'

namespace Launcher

open Procedure

variable (l : Launcher σ) (b : BrowserSettings)

theorem mirrors_call (c : BrowserCall) : Browsing.Mirrors (l.call c) (l.logged.call c) :=
  fun s _ => ⟨[⟨.browser c, fault? ((l.respond c).run s.world).1⟩], fun _ _ => trivial, rfl⟩

theorem mirrors_modify {g : Browser σ → Browser σ} {g' : Browser (Logged σ) → Browser (Logged σ)}
    (h : ∀ s log, g' (s.logged log) = (g s).logged log) :
    Browsing.Mirrors (modify g) (modify g') :=
  .of_run fun s log => by rw [run_modify, run_modify, h]

theorem mirrors_connect : Browsing.Mirrors (l.connect b) (l.logged.connect b) := by
  unfold connect
  refine Mirrors.get_bind fun s log => ?_
  change Browsing.Mirrors (ite (s.connected = true) _ _) (ite (s.connected = true) _ _)
  split
  · exact .pure ()
  · refine (l.mirrors_call _).bind fun _ => ?_
    refine (mirrors_modify fun _ _ => rfl).bind fun _ => ?_
    refine (l.mirrors_call _).bind fun _ => ?_
    split
    all_goals exact (l.mirrors_call _).bind fun _ => mirrors_modify fun _ _ => rfl

theorem mirrors_halt : Browsing.Mirrors l.halt l.logged.halt := by
  unfold halt
  refine Mirrors.get_bind fun s log => ?_
  change Browsing.Mirrors (ite (s.started = true) _ _) (ite (s.started = true) _ _)
  split
  · exact (l.mirrors_call _).bind fun _ => mirrors_modify fun _ _ => rfl
  · exact .pure ()

theorem mirrors_disconnect : Browsing.Mirrors l.disconnect l.logged.disconnect := by
  unfold disconnect
  refine Mirrors.get_bind fun s log => ?_
  change Browsing.Mirrors (ite (s.connected = true) _ _) (ite (s.connected = true) _ _)
  split
  · refine (l.mirrors_call _).bind fun _ => ?_
    exact (mirrors_modify fun _ _ => rfl).bind fun _ => l.mirrors_halt
  · exact l.mirrors_halt

theorem mirrors_newPage : Browsing.Mirrors (l.newPage b) (l.logged.newPage b) :=
  (l.mirrors_connect b).bind fun _ => (l.mirrors_call _).bind fun _ => l.mirrors_call _

theorem mirrors_enter : Browsing.Mirrors (l.enter b) (l.logged.enter b) :=
  (l.mirrors_connect b).tryCatch fun f => l.mirrors_disconnect.bind fun _ => .throw f

end Launcher

end TapScript
