import TapScript.Proofs.Run.Inclusion

/-! # The history of a run

The commands that a run comes to form a forest: below a command that runs another script stand
the commands of that script. Each is kept as a visit, with the states in which it begins and
ends. Every run of commands has such a forest, and induction on it follows a run through all
scripts that it includes.
-/

namespace TapScript

/-- An ordered forest: the root of its first tree, the forest below that, and the other trees. -/
inductive Forest (α : Type) where
  | nil
  | cons (root : α) (below rest : Forest α)

namespace Forest

variable {α : Type}

/-- The roots, in order. -/
def roots : Forest α → List α
  | nil => []
  | cons a _ rest => a :: rest.roots

/-- All labels, each before those below it. -/
def preorder : Forest α → List α
  | nil => []
  | cons a below rest => a :: (below.preorder ++ rest.preorder)

/-- All labels, each right after those below it. -/
def postorder : Forest α → List α
  | nil => []
  | cons a below rest => below.postorder ++ a :: rest.postorder

/-- All labels with the forests below them. -/
def trees : Forest α → List (α × Forest α)
  | nil => []
  | cons a below rest => (a, below) :: (below.trees ++ rest.trees)

theorem mem_postorder_iff {F : Forest α} {a : α} : a ∈ F.postorder ↔ a ∈ F.preorder := by
  induction F with
  | nil => rfl
  | cons b below rest ihb ihr =>
    simp only [postorder, preorder, List.mem_append, List.mem_cons, ihb, ihr, or_left_comm]

theorem mem_preorder_of_trees {F G : Forest α} {a : α} (h : (a, G) ∈ F.trees) :
    a ∈ F.preorder := by
  induction F with
  | nil => cases h
  | cons b below rest ihb ihr =>
    simp only [trees, List.mem_cons, Prod.mk.injEq, List.mem_append] at h
    simp only [preorder, List.mem_cons, List.mem_append]
    obtain ⟨rfl, -⟩ | h | h := h
    · exact Or.inl rfl
    · exact Or.inr (Or.inl (ihb h))
    · exact Or.inr (Or.inr (ihr h))

end Forest

/-- A command as a run comes to it: with how many levels of other scripts allowed below its own,
at which depth, in which script, and how it is dispatched, from a state to another. -/
structure Visit (σ ε : Type) where
  levels : Nat
  depth : Nat
  script : List Command
  command : Command
  before : RunState σ ε
  outcome : Except Fault Unit
  after : RunState σ ε

variable {σ ε : Type}

/-- The state in which a command is dispatched, once its start is known. -/
def RunState.starting (c : Command) (depth : Nat) (s : RunState σ ε) : RunState σ ε :=
  { s with notices := s.notices ++ [.started c depth] }

namespace Visit

/-- How the command ends: a fault without a place has got that of the command. -/
def result (v : Visit σ ε) : Except Fault Unit :=
  v.outcome.mapError (Fault.placed v.command.place)

/-- The record of the command. -/
def record (e : Setup σ ε) (v : Visit σ ε) : CommandRecord where
  line := v.command.line
  text := v.command.text
  status := match v.result with | .ok _ => .passed | .error _ => .failed
  source := v.command.source
  depth := v.depth
  durationMs := (e.host.now v.before.world.devices).millisFrom (e.host.now v.after.world.devices)
  error := match v.result with | .ok _ => none | .error f => some (Setup.failureText v.command f)

/-- The state once the command is recorded. -/
def ended (e : Setup σ ε) (v : Visit σ ε) : RunState σ ε :=
  { v.after with
    session := v.after.session.add (v.record e)
    notices := v.after.notices ++ [.completed v.command (v.record e)] }

end Visit

namespace Setup

open Engine Procedure

variable (e : Setup σ ε)

/-- The visit of a command of a script from a state. -/
def visit (levels depth : Nat) (script : List Command) (c : Command) (s : RunState σ ε) :
    Visit σ ε :=
  let p := (e.dispatch (e.nested levels depth) c).run (s.starting c depth)
  ⟨levels, depth, script, c, s.starting c depth, p.1, p.2⟩

/-- Whether a command comes to run no other script. -/
def Alone (levels : Nat) (c : Command) (s : RunState σ ε) : Prop :=
  c.builtin? = some .runScript → ∃ f s', (e.opening levels c).run s = (.error f, s')

/-- How the rest of a script is run from a state: the visits, the outcome and the last state. -/
inductive Runs : (levels depth : Nat) → (script rest : List Command) → RunState σ ε →
    Forest (Visit σ ε) → Except Fault Unit → RunState σ ε → Prop
  | done {n d script s} : Runs n d script [] s .nil (.ok ()) s
  | passed {n d script c cs s v F r s'} (visit : e.visit n d script c s = v)
      (alone : e.Alone n c v.before) (outcome : v.outcome = .ok ())
      (rest : Runs n d script cs (v.ended e) F r s') :
      Runs n d script (c :: cs) s (.cons v .nil F) r s'
  | failed {n d script c cs s v f} (visit : e.visit n d script c s = v)
      (alone : e.Alone n c v.before) (outcome : v.outcome = .error f) :
      Runs n d script (c :: cs) s (.cons v .nil .nil) (.error (f.placed c.place)) (v.ended e)
  | included {n d script c cs s v sc s₁ G F r s'} (visit : e.visit (n + 1) d script c s = v)
      (builtin : c.builtin? = some .runScript)
      (opening : (e.opening (n + 1) c).run v.before = (.ok sc, s₁))
      (below : Runs n (d + 1) sc.commands sc.commands s₁ G v.outcome v.after)
      (outcome : v.outcome = .ok ()) (rest : Runs (n + 1) d script cs (v.ended e) F r s') :
      Runs (n + 1) d script (c :: cs) s (.cons v G F) r s'
  | interrupted {n d script c cs s v sc s₁ G f} (visit : e.visit (n + 1) d script c s = v)
      (builtin : c.builtin? = some .runScript)
      (opening : (e.opening (n + 1) c).run v.before = (.ok sc, s₁))
      (below : Runs n (d + 1) sc.commands sc.commands s₁ G v.outcome v.after)
      (outcome : v.outcome = .error f) :
      Runs (n + 1) d script (c :: cs) s (.cons v G .nil) (.error (f.placed c.place)) (v.ended e)

variable {e} {n d : Nat} {script cs : List Command} {c : Command} {s s' : RunState σ ε}
  {F : Forest (Visit σ ε)} {r : Except Fault Unit} {f : Fault}

theorem perform_run (script : List Command) : (e.perform (e.nested n d) d c).run s =
    ((e.visit n d script c s).result, (e.visit n d script c s).ended e) := rfl

theorem execute_cons (n d : Nat) (c : Command) (cs : List Command) :
    e.execute n d (c :: cs) = e.perform (e.nested n d) d c >>= fun _ => e.execute n d cs := by
  rw [execute_eq_forM, execute_eq_forM]
  rfl

theorem execute_cons_ok (h : (e.visit n d script c s).outcome = .ok ()) :
    (e.execute n d (c :: cs)).run s =
      (e.execute n d cs).run ((e.visit n d script c s).ended e) := by
  rw [execute_cons]
  exact run_bind_ok (by rw [perform_run script, Visit.result, h]; rfl)

theorem execute_cons_error (h : (e.visit n d script c s).outcome = .error f) :
    (e.execute n d (c :: cs)).run s =
      (.error (f.placed c.place), (e.visit n d script c s).ended e) := by
  rw [execute_cons]
  exact run_bind_error (by rw [perform_run script, Visit.result, h]; rfl)

/-- What a command does that runs another script is what the commands of that script do. -/
theorem visit_of_opening {sc : Script} (hc : c.builtin? = some .runScript)
    (h : (e.opening (n + 1) c).run (s.starting c d) = (.ok sc, s')) :
    (e.execute n (d + 1) sc.commands).run s' =
      ((e.visit (n + 1) d script c s).outcome, (e.visit (n + 1) d script c s).after) := by
  simp only [visit, dispatch_runScript hc, run_bind_ok h, Nat.add_sub_cancel]
  rfl

/-- The rules of a run are kept by every run of commands. -/
theorem exists_runs (n d : Nat) (script cs : List Command) (s : RunState σ ε) :
    ∃ F, e.Runs n d script cs s F ((e.execute n d cs).run s).1 ((e.execute n d cs).run s).2 := by
  -- An included script is run with a level less, and the commands after it with as many as before.
  induction n using Nat.strongRecOn generalizing d script cs s with
  | _ n ihn =>
    induction cs generalizing s with
    | nil => exact ⟨.nil, by rw [execute_eq_forM]; exact .done⟩
    | cons c cs ihc =>
      obtain ⟨v, hv⟩ : ∃ v, e.visit n d script c s = v := ⟨_, rfl⟩
      obtain ⟨F, hF⟩ := ihc (v.ended e)
      by_cases ha : e.Alone n c v.before
      · cases ho : v.outcome with
        | ok u =>
          rw [execute_cons_ok (hv ▸ ho), hv]
          exact ⟨_, .passed hv ha ho hF⟩
        | error f =>
          rw [execute_cons_error (hv ▸ ho), hv]
          exact ⟨_, .failed hv ha ho⟩
      · obtain ⟨hb, hn⟩ := Classical.not_imp.mp ha
        obtain ⟨sc, s₁, hs⟩ : ∃ sc s₁, (e.opening n c).run v.before = (.ok sc, s₁) := by
          rcases h : (e.opening n c).run v.before with ⟨f | sc, s₁⟩
          · exact absurd ⟨f, s₁, h⟩ hn
          · exact ⟨sc, s₁, rfl⟩
        obtain ⟨n, rfl⟩ := Nat.exists_eq_succ_of_ne_zero (leadsTo_of_opening hs).1
        obtain ⟨G, hG⟩ := ihn n (Nat.lt_succ_self n) (d + 1) sc.commands sc.commands s₁
        have hb' : (e.execute n (d + 1) sc.commands).run s₁ = (v.outcome, v.after) := by
          subst hv
          exact visit_of_opening hb hs
        rw [hb'] at hG
        cases ho : v.outcome with
        | ok u =>
          rw [execute_cons_ok (hv ▸ ho), hv]
          exact ⟨_, .included hv hb hs hG ho hF⟩
        | error f =>
          rw [execute_cons_error (hv ▸ ho), hv]
          exact ⟨_, .interrupted hv hb hs hG ho⟩

theorem visit_eq_self {v : Visit σ ε} (hv : e.visit n d script c s = v) :
    e.visit v.levels v.depth v.script v.command s = v := by
  subst hv
  rfl

/-- Each visit is that of its command from some state. -/
theorem Runs.exists_visit (h : e.Runs n d script cs s F r s') :
    ∀ v ∈ F.preorder, ∃ s, e.visit v.levels v.depth v.script v.command s = v := by
  induction h with
  | done => simp [Forest.preorder]
  | passed hv ha ho _ ih => exact List.forall_mem_cons.mpr ⟨⟨_, visit_eq_self hv⟩, ih⟩
  | failed hv ha ho => exact List.forall_mem_singleton.mpr ⟨_, visit_eq_self hv⟩
  | included hv hb hs _ ho _ ihG ih =>
    exact List.forall_mem_cons.mpr ⟨⟨_, visit_eq_self hv⟩, List.forall_mem_append.mpr ⟨ihG, ih⟩⟩
  | interrupted hv hb hs _ ho ihG =>
    refine List.forall_mem_cons.mpr ⟨⟨_, visit_eq_self hv⟩, ?_⟩
    exact List.forall_mem_append.mpr ⟨ihG, by simp [Forest.preorder]⟩

/-- The rules of a run say how the commands are run. -/
theorem Runs.execute_run (h : e.Runs n d script cs s F r s') :
    (e.execute n d cs).run s = (r, s') := by
  induction h with
  | done => rw [execute_eq_forM]; rfl
  | passed hv ha ho hr ih => subst hv; rw [execute_cons_ok ho, ih]
  | failed hv ha ho => subst hv; rw [execute_cons_error ho]
  | included hv hb hs hG ho hr ihG ih => subst hv; rw [execute_cons_ok ho, ih]
  | interrupted hv hb hs hG ho ihG => subst hv; rw [execute_cons_error ho]

end Setup

end TapScript
