import TapScript.Proofs.Run.Calling
import TapScript.Proofs.Run.Closing
import TapScript.Proofs.Run.Shape
import TapScript.Simulation.Device

/-! # The life cycle of a run

A run makes its driver the current one, loads the libraries of its script, and runs the commands.
It then records how that went, gives the former driver back, and closes. Its history is what it
ran, and how, up to there.
-/

namespace TapScript

variable {σ ε : Type}

namespace Setup

open Engine Procedure

variable (e : Setup σ ε)

/-- The state in which a run begins with its commands. -/
def begun (st : RunState σ ε) : RunState σ ε :=
  { st with
    current := some e.driver
    session := st.session.start (e.host.now st.world.devices) }

/-- Loads the libraries of a script and runs its commands. -/
def body (s : Script) : Engine σ ε Unit := do
  prepare s.commands
  e.execute e.levels 0 s.commands

/-- The session of a run once its commands have ended. -/
def finished (r : Except Fault Unit) (s : RunState σ ε) : Session :=
  let now := e.host.now s.world.devices
  match r with
  | .ok _ => s.session.pass now
  | .error f =>
    let message := failureOf s.session.record f
    s.session.fail now (if message = "" then f.message else message)

/-- The state of a run once the end of its commands is recorded and the driver given back. -/
def concluded (st : RunState σ ε) (r : Except Fault Unit) (s : RunState σ ε) : RunState σ ε :=
  { s with
    current := st.current
    session := e.finished r s
    notices := s.notices ++ match r with
      | .ok _ => []
      | .error f => [.failed (failureOf s.session.record f)] }

/-- What a run does after its attempt. -/
def conclude (before : Option (Driver σ ε)) (r : Except Fault Unit) : Engine σ ε Unit := do
  if let .error f := r then
    let message := failureOf (← get).session.record f
    note (.failed message)
    update (Session.fail (← now e.host) (if message = "" then f.message else message))
  modify fun st => { st with current := before }
  e.close r

/-- The history of a run: what it runs, how that ends, and in which state. Without its libraries
no command of the script is run. -/
inductive History (s : Script) (st : RunState σ ε) :
    Forest (Visit σ ε) → Except Fault Unit → RunState σ ε → Prop
  | unprepared {f s₁} (failed : (prepare s.commands).run (e.begun st) = (.error f, s₁)) :
      History s st .nil (.error f) s₁
  | prepared {s₁ F r s₂} (loaded : (prepare s.commands).run (e.begun st) = (.ok (), s₁))
      (runs : e.Runs e.levels 0 s.commands s.commands s₁ F r s₂) : History s st F r s₂

variable {s : Script} {st : RunState σ ε} {F : Forest (Visit σ ε)} {r : Except Fault Unit}
  {s₁ s₂ : RunState σ ε}

theorem exists_history (s : Script) (st : RunState σ ε) :
    ∃ F r s₂, e.History s st F r s₂ := by
  rcases h : (prepare s.commands : Engine σ ε Unit).run (e.begun st) with ⟨f | ⟨⟩, s₁⟩
  · exact ⟨.nil, .error f, s₁, .unprepared h⟩
  · obtain ⟨F, hF⟩ := e.exists_runs e.levels 0 s.commands s.commands s₁
    exact ⟨F, _, _, .prepared h hF⟩

variable {e}

theorem History.body_run (h : e.History s st F r s₂) : (e.body s).run (e.begun st) = (r, s₂) := by
  cases h with
  | unprepared failed => exact run_bind_error failed
  | prepared loaded runs => exact (run_bind_ok loaded).trans runs.execute_run

theorem attemptAll_eq (e : Setup σ ε) (s : Script) : e.attemptAll s =
    e.body s >>= fun _ => now e.host >>= fun t => update (Session.pass t) := by
  rw [body, bind_assoc]
  rfl

theorem run_eq_conclude (e : Setup σ ε) (s : Script) (st : RunState σ ε) : (e.run s).run st =
    (e.conclude st.current ((e.attemptAll s).run (e.begun st)).1).run
      ((e.attemptAll s).run (e.begun st)).2 := by
  unfold run
  simp only [run_bind, run_get, run_modify, run_update, run_now, run_attempt]
  rfl

theorem run_eq_close (h : (e.body s).run (e.begun st) = (r, s₂)) :
    (e.run s).run st = (e.close r).run (e.concluded st r s₂) := by
  rw [run_eq_conclude, attemptAll_eq]
  cases r with
  | error f => rw [run_bind_error h]; rfl
  | ok u => rw [run_bind_ok h, concluded, List.append_nil]; rfl

/-- The commands of a run add their records to the session, and change nothing else in it. -/
theorem History.session (h : e.History s st F r s₂) :
    s₂.session = (e.begun st).session.addAll (F.postorder.map (Visit.record e)) := by
  cases h with
  | unprepared failed =>
    exact ((isCalm_prepare _).of_run failed).session.trans (Session.addAll_nil _).symm
  | prepared loaded runs => rw [runs.session, ((isCalm_prepare _).of_run loaded).session]

theorem History.later (h : e.History s st F r s₂) : Later (e.begun st) s₂ ∧
    ∀ v ∈ F.preorder, Later (e.begun st) v.before := by
  cases h with
  | unprepared failed =>
    exact ⟨((isCalm_prepare _).of_run failed).later, by simp [Forest.preorder]⟩
  | prepared loaded runs =>
    have hc := (isCalm_prepare _).of_run loaded
    obtain ⟨hl, hv⟩ := runs.later
    exact ⟨hc.later.trans hl, fun v hm => hc.later.trans (hv v hm)⟩

theorem History.exists_visit (h : e.History s st F r s₂) :
    ∀ v ∈ F.preorder, ∃ s, e.visit v.levels v.depth v.script v.command s = v := by
  cases h with
  | unprepared failed => simp [Forest.preorder]
  | prepared loaded runs => exact runs.exists_visit

variable {t t' : FileTree} {script : Path} {dir : Option Path}

/-- After its commands a run gives notice of nothing but its failure, and warns. -/
theorem notices_of_settled {st' : RunState σ ε} (h : Settled (e.concluded st r s₂) st') :
    ∃ last, st'.notices = s₂.notices ++ last ∧
      ∀ x ∈ last, ∃ message, x = .failed message ∨ x = .warned message := by
  obtain ⟨warnings, hw⟩ := h.notices
  have warned : ∀ x ∈ warnings.map Notice.warned, ∃ message, x = .failed message ∨
      x = .warned message := by
    intro x hx
    obtain ⟨message, -, rfl⟩ := List.mem_map.mp hx
    exact ⟨message, Or.inr rfl⟩
  cases r with
  | ok u => exact ⟨_, by rw [hw, concluded, List.append_nil], warned⟩
  | error f =>
    refine ⟨_ :: warnings.map .warned, by rw [hw, concluded, List.append_assoc]; rfl, ?_⟩
    exact List.forall_mem_cons.mpr ⟨⟨_, Or.inl rfl⟩, warned⟩

section Mirrored

variable {σ' κ : Type} (M : Mirror σ σ' ε κ) (e : Setup σ ε)

theorem begun_mirror (st : RunState σ ε) (log : List κ) :
    (M.setup e).begun (M.state st log) = M.state (e.begun st) log := by
  simp [begun, Mirror.state, Mirror.setup, M.now]

theorem body_mirror (s : Script) : M.OfRun (e.body s) ((M.setup e).body s) :=
  (M.prepare s.commands).bind fun _ => M.execute e e.levels 0 s.commands

theorem concluded_mirror (st s : RunState σ ε) (r : Except Fault Unit) (log log' : List κ) :
    (M.setup e).concluded (M.state st log) r (M.state s log') =
      M.state (e.concluded st r s) log' := by
  simp only [concluded, finished, Mirror.state, Mirror.setup, M.now]
  cases r <;> rfl

end Mirrored

/-- A session that was created is still open once its commands have ended. -/
theorem History.finished (fresh : Session.create t script dir = .ok (st.session, t'))
    (h : e.History s st F r s₂) : (e.finished r s₂).closed = false ∧
      (e.finished r s₂).outputDir = st.session.outputDir := by
  have hn := (Session.create_ok fresh).1
  have hs := h.session
  unfold Setup.finished
  cases r <;> simp [hs, hn, Session.pass, Session.fail, Session.addAll, begun, Session.start]

/-- A run of a new session ends as its commands do, and is settled from then on. A driver with a
journal adds one end of the automation session to the calls that the commands enter. -/
theorem History.run (fresh : Session.create t script dir = .ok (st.session, t'))
    (h : e.History s st F r s₂) :
    ∃ st', (e.run s).run st = (r, st') ∧ Settled (e.concluded st r s₂) st' ∧
      st'.session = { e.finished r s₂ with closed := true } ∧
      ∀ calls all, (e.journaled.body s).run ((e.begun st).journaled calls) =
        (r, s₂.journaled all) →
        (e.journaled.run s).run (st.journaled calls) = (r, st'.journaled (all ++ [.quit])) := by
  have hf := h.finished fresh
  obtain ⟨st', hr, hl, he, hj⟩ := close_run (e := e) (s := e.concluded st r s₂) r hf.1 fun m hm =>
    Session.save_error fresh hf.2 hm
  refine ⟨st', (run_eq_close h.body_run).trans hr, hl, he, fun calls all hc => ?_⟩
  refine (run_eq_close hc).trans ?_
  cases r <;> exact hj all

variable (e s st F r) in
/-- What every run keeps to, whatever its script and its devices do: how its driver is called and
to whom it is shown, and how it ends. -/
structure Lifecycle (st' : RunState σ ε) : Prop where
  run : (e.run s).run st = (r, st')
  outcome : r = ((e.body s).run (e.begun st)).1
  calls : ∀ calls, ∃ more, (∀ c ∈ more, c ≠ .quit) ∧
    (e.journaled.run s).run (st.journaled calls) = (r, st'.journaled (calls ++ more ++ [.quit]))
  current : st'.current = st.current
  bound : ∀ v ∈ F.preorder, v.before.current = some e.driver
  invoked : ∀ v ∈ F.preorder, v.command.builtin? = none → ∀ i s',
    (e.invocation v.command).run v.before = (.ok i, s') →
      i.driver = some e.driver ∧ (e.invoke v.command i).run s' = (v.outcome, v.after)
  status : st'.session.record.status = match r with | .ok _ => .passed | .error _ => .failed
  completed : st'.session.record.completedAt.isSome = true

theorem History.invoke_run (h : e.History s st F r s₂) {v : Visit σ ε} (hv : v ∈ F.preorder)
    (hb : v.command.builtin? = none) {i : Invocation σ ε} {s' : RunState σ ε}
    (hi : (e.invocation v.command).run v.before = (.ok i, s')) :
    (e.invoke v.command i).run s' = (v.outcome, v.after) := by
  obtain ⟨s₀, h₀⟩ := h.exists_visit v hv
  have hd : (e.dispatch (e.nested v.levels v.depth) v.command).run v.before =
      (v.outcome, v.after) := by
    rw [← h₀]
    rfl
  rw [dispatch_library hb, run_bind_ok hi] at hd
  exact hd

/-- Every run of a new session ends the automation session once, and last of all its calls; shows
its driver to the library commands that it calls, and to nothing after it; and ends as its
commands do, with that recorded. -/
theorem run_lifecycle (e : Setup σ ε) (s : Script)
    (fresh : Session.create t script dir = .ok (st.session, t')) :
    ∃ F r s₂ st', e.History s st F r s₂ ∧ e.Lifecycle s st F r st' := by
  obtain ⟨F, r, s₂, h⟩ := e.exists_history s st
  obtain ⟨st', hr, hl, he, hj⟩ := h.run fresh
  have hb : ∀ v ∈ F.preorder, v.before.current = some e.driver := fun v hv =>
    (h.later.2 v hv).current
  have hc : ∀ calls, ∃ more, (∀ c ∈ more, c ≠ .quit) ∧ (e.journaled.run s).run
      (st.journaled calls) = (r, st'.journaled (calls ++ more ++ [.quit])) := by
    intro calls
    obtain ⟨more, hm, hc⟩ := e.body_mirror (journal σ ε) s (e.begun st) calls
    rw [h.body_run] at hc
    exact ⟨more, hm, hj calls _ hc⟩
  refine ⟨F, r, s₂, st', h, ?_⟩
  exact {
    run := hr
    outcome := by rw [h.body_run]
    calls := hc
    current := hl.current
    bound := hb
    invoked := fun v hv hn i s' hi =>
      ⟨(driver_of_invocation hi).trans (hb v hv), h.invoke_run hv hn hi⟩
    status := by rw [he]; cases r <;> rfl
    completed := by rw [he]; cases r <;> rfl }

end Setup

namespace Simulation

/-- A setup on a simulated device, with nothing to look up. -/
def rehearsal : Setup Simulation Handle :=
  ⟨device, host, ⟨.map true [], .map true []⟩, {}⟩

/-- A new session on a simulated device, about to run. -/
def ready (t : FileTree) (g : Registry) (dir : Option Path) (devices : Simulation) :
    RunState Simulation Handle where
  world := ⟨t, devices⟩
  registry := g
  session := ⟨"main", dir, { script := "main", status := .pending, outputDir := dir }, false⟩

theorem create_ready {t : FileTree} {g : Registry} {devices : Simulation} :
    Session.create t "main" none = .ok ((ready t g none devices).session, t) := rfl

/-- A script that logs one line. -/
def logging : Script :=
  ⟨[⟨"log hi", "log", [], "log", [⟨"hi", false⟩], 1, none⟩], none⟩

/-- A script that logs one line and then runs another script. -/
def including : Script :=
  ⟨logging.commands ++
    [⟨"runScript sub", "runScript", [], "runScript", [⟨"sub", false⟩], 2, none⟩], none⟩

/-- The file of that script, which holds nothing but the unknown command `nonsense`. -/
def nonsense : FileTree :=
  ⟨[(["sub"], .file (.bytes [110, 111, 110, 115, 101, 110, 115, 101]))], [], []⟩

/-- A refusal to save the results and one to end the session leave the fault of the run. -/
theorem run_lifecycle_refused :
    let st := ready nonsense ⟨none, .path, []⟩ (some "out")
      { plans := [⟨"quit", none, .ofProblem .noSession⟩] }
    ∃ st', (rehearsal.run including).run st =
        (.error (.problem (.unknownCommand "nonsense") ⟨some 1, some "sub"⟩), st') ∧
      st'.session.record.status = .failed ∧ st'.current.isNone := by
  intro st
  have fresh : Session.create nonsense "main" (some "out") =
    .ok (st.session, nonsense.put ["out"] .dir) := rfl
  obtain ⟨F, r, s₂, st', h, hl⟩ := rehearsal.run_lifecycle including fresh
  have hr : r = .error (.problem (.unknownCommand "nonsense") ⟨some 1, some "sub"⟩) :=
    hl.outcome.trans rfl
  subst hr
  exact ⟨st', hl.run, hl.status, by rw [hl.current]; rfl⟩

end Simulation

end TapScript
