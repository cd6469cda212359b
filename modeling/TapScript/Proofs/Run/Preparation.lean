import TapScript.Proofs.Run.Records

/-! # The preparation of scripts

The libraries of a script are loaded before any of its commands is run, or none of them is. So
every library command finds its library loaded as it is called, whatever became of the files
since.
-/

namespace TapScript

variable {σ ε : Type}

/-- Whether the libraries that some commands name are all loaded. -/
def RunState.Equipped (s : RunState σ ε) (cs : List Command) : Prop :=
  ∀ c ∈ cs, c.library ≠ [] → s.registry.Holds c.library

theorem RunState.Equipped.mono {s s' : RunState σ ε} {cs : List Command} (h : Later s s')
    (hs : s.Equipped cs) : s'.Equipped cs := fun c hc hn =>
  (hs c hc hn).mono h.registry

namespace Setup

open Engine Procedure

variable {e : Setup σ ε}

section Commands

variable {n d : Nat} {script cs : List Command} {c : Command}
  {s s' : RunState σ ε} {F : Forest (Visit σ ε)} {r : Except Fault Unit} {v : Visit σ ε}
  {f : Fault} {sc : Script}

theorem equipped_of_prepare (h : (prepare cs).run s = (.ok (), s')) : s'.Equipped cs := by
  obtain ⟨f, g, -, hr⟩ | ⟨ls, g, hp, hr⟩ := prepare_run_cases cs s
  · rw [hr] at h
    cases h
  · rw [hr] at h
    cases h
    exact Registry.holds_of_prepare hp

theorem equipped_of_opening (h : (e.opening n c).run s = (.ok sc, s')) :
    s'.Equipped sc.commands :=
  equipped_of_prepare (prepare_of_opening h)

/-- With the libraries of a script loaded, every command that is run has those of its script. -/
theorem Runs.equipped (h : e.Runs n d script cs s F r s') (hs : s.Equipped script)
    (hc : ∀ c ∈ cs, c ∈ script) :
    ∀ v ∈ F.preorder, v.command ∈ v.script ∧ v.before.Equipped v.script := by
  induction h with
  | done => simp [Forest.preorder]
  | passed hv ha ho _ ih =>
    obtain ⟨hm, hc⟩ := List.forall_mem_cons.mp hc
    have hl := later_of_alone hv ha
    refine List.forall_mem_cons.mpr ⟨?_, ih (hs.mono hl) hc⟩
    subst hv
    exact ⟨hm, hs.mono (later_before rfl)⟩
  | failed hv ha ho =>
    refine List.forall_mem_singleton.mpr ?_
    subst hv
    exact ⟨(List.forall_mem_cons.mp hc).1, hs.mono (later_before rfl)⟩
  | included hv hb ho' hG ho _ ihG ih =>
    obtain ⟨hm, hc⟩ := List.forall_mem_cons.mp hc
    have hl := ((later_of_opening hv ho').trans hG.later.1).trans (later_ended e _)
    refine List.forall_mem_cons.mpr ⟨?_, List.forall_mem_append.mpr ⟨?_, ih (hs.mono hl) hc⟩⟩
    · subst hv
      exact ⟨hm, hs.mono (later_before rfl)⟩
    · exact ihG (equipped_of_opening ho') fun _ => id
  | interrupted hv hb ho' hG ho ihG =>
    refine List.forall_mem_cons.mpr ⟨?_, List.forall_mem_append.mpr ⟨?_, by simp [Forest.preorder]⟩⟩
    · subst hv
      exact ⟨(List.forall_mem_cons.mp hc).1, hs.mono (later_before rfl)⟩
    · exact ihG (equipped_of_opening ho') fun _ => id

/-- A command whose script lacks a library fails with that, and does nothing else but load those
libraries that come before. -/
theorem visit_of_prepare_error {g : Registry} (hv : e.visit (n + 1) d script c s = v)
    (hb : c.builtin? = some .runScript) (hl : c.LeadsTo v.before.world.files sc)
    (hp : v.before.registry.prepare v.before.world.files sc.commands = (.error f, g)) :
    (e.opening (n + 1) c).run v.before = (.error f, { v.before with registry := g }) ∧
      v.outcome = .error f ∧ v.after = { v.before with registry := g } := by
  have ho : (e.opening (n + 1) c).run v.before = (.error f, { v.before with registry := g }) :=
    (opening_of_leadsTo hl).trans (run_bind_error (prepare_run_error hp))
  exact ⟨ho, visit_of_opening_error hv hb ho⟩

end Commands

variable {s : Script} {st s₂ : RunState σ ε} {F : Forest (Visit σ ε)} {r : Except Fault Unit}
  {st' : RunState σ ε} {v : Visit σ ε} {f : Fault} {sc : Script}

theorem History.equipped (h : e.History s st F r s₂) :
    ∀ v ∈ F.preorder, v.command ∈ v.script ∧ v.before.Equipped v.script := by
  cases h with
  | unprepared failed => simp [Forest.preorder]
  | prepared loaded runs => exact runs.equipped (equipped_of_prepare loaded) fun _ => id

theorem History.script_of_roots (h : e.History s st F r s₂) :
    ∀ v ∈ F.roots, v.script = s.commands := by
  cases h with
  | unprepared failed => simp [Forest.roots]
  | prepared loaded runs => exact runs.script_of_roots

theorem History.script_of_included (h : e.History s st F r s₂) {G : Forest (Visit σ ε)}
    (hG : (v, G) ∈ F.trees) : ∀ u ∈ G.roots, ∃ sc,
      v.command.LeadsTo v.before.world.files sc ∧ u.script = sc.commands := by
  cases h.trees_below _ hG with
  | alone _ => simp [Forest.roots]
  | opened _ _ opening runs =>
    exact fun u hu => ⟨_, (leadsTo_of_opening opening).2, runs.script_of_roots u hu⟩

/-- The library of a command that is called is there, and is looked for in no file. -/
theorem History.load_eq (h : e.History s st F r s₂) (hv : v ∈ F.preorder)
    (hn : v.command.library ≠ []) :
    ∃ l, ∀ t, v.before.registry.load t v.command.library = (.ok l, v.before.registry) := by
  obtain ⟨hm, he⟩ := h.equipped v hv
  exact (he _ hm hn).load

theorem History.included_unprepared (h : e.History s st F r s₂) {G : Forest (Visit σ ε)}
    {g : Registry} (hG : (v, G) ∈ F.trees) (hb : v.command.builtin? = some .runScript)
    (hn : v.levels ≠ 0) (hl : v.command.LeadsTo v.before.world.files sc)
    (hp : v.before.registry.prepare v.before.world.files sc.commands = (.error f, g)) :
    G = .nil ∧ v.outcome = .error f ∧ v.after = { v.before with registry := g } := by
  obtain ⟨s₀, hv⟩ := h.exists_visit v (Forest.mem_preorder_of_trees hG)
  obtain ⟨n, hn⟩ := Nat.exists_eq_succ_of_ne_zero hn
  rw [hn] at hv
  obtain ⟨ho, ha⟩ := visit_of_prepare_error hv hb hl hp
  refine ⟨?_, ha⟩
  cases h.trees_below _ hG with
  | alone _ => rfl
  | opened levels _ opening _ =>
    obtain rfl := Nat.succ.inj (hn.symm.trans levels)
    rw [ho] at opening
    cases opening

variable {t t' : FileTree} {script : Path} {dir : Option Path}

/-- A script that lacks a library runs no command. -/
theorem History.of_prepare_error {g : Registry} (h : e.History s st F r s₂)
    (hp : st.registry.prepare st.world.files s.commands = (.error f, g)) :
    r = .error f ∧ F = .nil ∧ s₂ = { e.begun st with registry := g } := by
  have hf := prepare_run_error (s := e.begun st) hp
  cases h with
  | unprepared failed =>
    rw [hf] at failed
    cases failed
    exact ⟨rfl, rfl, rfl⟩
  | prepared loaded runs =>
    rw [hf] at loaded
    cases loaded

variable (e s st F r st') in
/-- How the libraries of scripts are loaded in a run: those of a script before its commands, which
are not run without them, so that each is there as it is called. -/
structure Prepared : Prop where
  equipped : ∀ v ∈ F.preorder, v.command ∈ v.script ∧ v.before.Equipped v.script
  main : ∀ v ∈ F.roots, v.script = s.commands
  included : ∀ v G, (v, G) ∈ F.trees → ∀ u ∈ G.roots, ∃ sc,
    v.command.LeadsTo v.before.world.files sc ∧ u.script = sc.commands
  unprepared : ∀ f g, st.registry.prepare st.world.files s.commands = (.error f, g) →
    Registry.FailsAt st.world.files st.registry s.commands f ∧ r = .error f ∧ F = .nil ∧
      st'.session.record.commands = [] ∧
      (∃ last, st'.notices = st.notices ++ last ∧
        ∀ x ∈ last, ∃ message, x = .failed message ∨ x = .warned message) ∧
      ∀ calls, (e.journaled.run s).run (st.journaled calls) =
        (r, st'.journaled (calls ++ [.quit]))
  includedUnprepared : ∀ v G, (v, G) ∈ F.trees → v.command.builtin? = some .runScript →
    v.levels ≠ 0 → ∀ sc f g, v.command.LeadsTo v.before.world.files sc →
    v.before.registry.prepare v.before.world.files sc.commands = (.error f, g) →
      Registry.FailsAt v.before.world.files v.before.registry sc.commands f ∧ G = .nil ∧
        v.outcome = .error f ∧ v.after = { v.before with registry := g }
  called : ∀ v ∈ F.preorder, v.command.builtin? = none → v.command.library ≠ [] →
    ∃ l, ∀ t, v.before.registry.load t v.command.library = (.ok l, v.before.registry)

/-- In every run of a new session the libraries of each script are loaded before any of its
commands is run, or else none is; and each library that is called is held by then. -/
theorem run_prepared (e : Setup σ ε) (s : Script)
    (fresh : Session.create t script dir = .ok (st.session, t')) :
    ∃ F r s₂ st', e.History s st F r s₂ ∧ (e.run s).run st = (r, st') ∧
      e.Prepared s st F r st' := by
  obtain ⟨F, r, s₂, h⟩ := e.exists_history s st
  obtain ⟨st', hr, hl, hs, hj⟩ := h.run fresh
  refine ⟨F, r, s₂, st', h, hr, ?_⟩
  exact {
    equipped := h.equipped
    main := h.script_of_roots
    included := fun v G hG => h.script_of_included hG
    unprepared := fun f g hp => by
      obtain ⟨last, hn, hx⟩ := notices_of_settled hl
      have hc := h.records fresh
      obtain ⟨rfl, rfl, rfl⟩ := h.of_prepare_error hp
      refine ⟨Registry.failsAt_of_prepare hp, rfl, rfl, ?_, ⟨last, hn, hx⟩, fun calls => ?_⟩
      · rw [hs]
        exact hc
      · exact hj calls calls (run_bind_error (prepare_run_error hp))
    includedUnprepared := fun v G hG hb hn sc f g hl hp =>
      ⟨Registry.failsAt_of_prepare hp, h.included_unprepared hG hb hn hl hp⟩
    called := fun v hv _ hn => h.load_eq hv hn }

end Setup

namespace Simulation

/-- A script that names a library where there are none ends at once, at the line of that name. -/
theorem run_prepared_without_libraries :
    let st := ready ⟨[], [], []⟩ ⟨none, .leaf, []⟩ none {}
    let buying : Command := ⟨"shop.buy", "shop.buy", ["shop"], "buy", [], 2, none⟩
    let s : Script := ⟨logging.commands ++ [buying], none⟩
    ∃ st' : RunState Simulation Handle, st'.session.record.commands = [] ∧
      (rehearsal.journaled.run s).run (st.journaled []) =
        (.error (buying.fault (.noLibraries "shop")), st'.journaled [.quit]) := by
  intro st buying s
  obtain ⟨F, r, s₂, st', h, hr, hl⟩ := rehearsal.run_prepared s
    (create_ready : Session.create ⟨[], [], []⟩ "main" none = .ok (st.session, _))
  obtain ⟨-, rfl, -, hc, -, hj⟩ := hl.unprepared _ _ rfl
  exact ⟨st', hc, hj []⟩

end Simulation

end TapScript
