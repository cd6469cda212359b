import TapScript.Proofs.Run.Lifecycle

/-! # The records of a run

A run records its commands in postorder: those of an included script right before the command that
includes it. They are the commands of each script in order, up to the first that fails. The failed
ones come last, one at each depth from the innermost out.
-/

namespace TapScript

theorem RunRecord.length_eq_counts {r : RunRecord}
    (h : ∀ x ∈ r.commands, x.status = .passed ∨ x.status = .failed) :
    r.commands.length = r.count .passed + r.count .failed := by
  rw [List.length_eq_countP_add_countP (fun x : CommandRecord => x.status = .passed), count, count]
  congr 1
  refine List.countP_congr fun x hx => ?_
  rcases h x hx with hs | hs <;> simp [hs]

namespace Setup

open Engine

variable {σ ε : Type} {e : Setup σ ε} {s : Script} {st s₂ : RunState σ ε}
  {F : Forest (Visit σ ε)} {r : Except Fault Unit} {st' : RunState σ ε} {v : Visit σ ε}

theorem History.follows (h : e.History s st F r s₂) : Follows 0 s.commands r F := by
  cases h with
  | unprepared failed => exact Follows.stop
  | prepared loaded runs => exact runs.follows

theorem History.trees_below (h : e.History s st F r s₂) : ∀ p ∈ F.trees, e.Below p.1 p.2 := by
  cases h with
  | unprepared failed => simp [Forest.trees]
  | prepared loaded runs => exact runs.trees_below

theorem History.filter_depth (h : e.History s st F r s₂) :
    F.postorder.filter (·.depth = 0) = F.roots := by
  cases h with
  | unprepared failed => rfl
  | prepared loaded runs => exact runs.filter_depth

/-- A run ends with the libraries of its script, before any command, or on one branch. -/
theorem History.ends (h : e.History s st F r s₂) :
    (∃ f, r = .error f ∧ F = .nil ∧ (prepare s.commands).run (e.begun st) = (.error f, s₂)) ∨
    ∃ done vs, F.postorder = done ++ vs ∧ (∀ v ∈ done, v.outcome = .ok ()) ∧ e.Ends 0 r vs := by
  cases h with
  | unprepared failed => exact Or.inl ⟨_, rfl, rfl, failed⟩
  | prepared loaded runs => exact Or.inr runs.ends

theorem prepare_state {cs : List Command} {x : Except Fault Unit} {s s' : RunState σ ε}
    (h : (prepare cs).run s = (x, s')) : s' = { s with registry := s'.registry } := by
  rw [run_prepare] at h
  cases h
  rfl

theorem History.notices (h : e.History s st F r s₂) :
    ∃ new rest, s₂.notices = st.notices ++ (new ++ rest) ∧ Announces F r new rest := by
  cases h with
  | unprepared failed =>
    refine ⟨[], [], ?_, rfl, by simp, by simp, fun _ => rfl⟩
    rw [prepare_state failed]
    exact (List.append_nil _).symm
  | prepared loaded runs =>
    obtain ⟨new, rest, hn, ha⟩ := runs.notices
    rw [prepare_state loaded] at hn
    exact ⟨new, rest, hn, ha⟩

theorem status_cases (e : Setup σ ε) (v : Visit σ ε) :
    (v.record e).status = .passed ∨ (v.record e).status = .failed := by
  cases ho : v.outcome with
  | ok u => exact Or.inl (status_of_ok ho)
  | error f => exact Or.inr (status_of_error ho)

variable (e s st F r st') in
/-- How the records of a run are laid out, and how they end. The notices `new` announce all
commands that are dispatched. -/
structure Recorded : Prop where
  records : st'.session.record.commands = F.postorder.map (Visit.record e)
  main : Follows 0 s.commands r F
  alone : ∀ v G, (v, G) ∈ F.trees → v.command.builtin? ≠ some .runScript → G = .nil
  included : ∀ v G, (v, G) ∈ F.trees → v.command.builtin? = some .runScript →
    (G = .nil ∧ ∃ f, v.outcome = .error f) ∨ ∃ sc, v.command.LeadsTo v.before.world.files sc ∧
      Follows (v.depth + 1) sc.commands v.outcome G
  passed : r = .ok () → (∀ x ∈ st'.session.record.commands, x.status = .passed) ∧
    (st'.session.record.commands.filter (·.depth = 0)).map (fun x => (x.line, x.text, x.source)) =
      s.commands.map fun c => (c.line, c.text, c.source)
  failed : ∀ f, r = .error f →
    (F = .nil ∧ st'.session.record.commands = [] ∧
      ((prepare s.commands).run (e.begun st)).1 = .error f) ∨
    ∃ done failed, st'.session.record.commands = done ++ failed ∧
      (∀ x ∈ done, x.status = .passed) ∧ (∀ x ∈ failed, x.status = .failed) ∧ failed ≠ [] ∧
      failed.map CommandRecord.depth = (List.range failed.length).reverse
  notices : ∃ new rest, st'.notices = st.notices ++ (new ++ rest) ∧
    new.filterMap Notice.start? = F.preorder.map (fun v => (v.command, v.depth)) ∧
    (∀ x ∈ new, x.isFailure = false) ∧ ∀ x ∈ rest, x.start? = none
  total : st'.session.record.commands.length =
    st'.session.record.count .passed + st'.session.record.count .failed

theorem History.alone (h : e.History s st F r s₂) {G : Forest (Visit σ ε)}
    (hG : (v, G) ∈ F.trees) (hb : v.command.builtin? ≠ some .runScript) : G = .nil := by
  cases h.trees_below _ hG with
  | alone _ => rfl
  | opened _ builtin _ _ => exact absurd builtin hb

theorem History.included (h : e.History s st F r s₂) {G : Forest (Visit σ ε)}
    (hG : (v, G) ∈ F.trees) (hb : v.command.builtin? = some .runScript) :
    (G = .nil ∧ ∃ f, v.outcome = .error f) ∨ ∃ sc, v.command.LeadsTo v.before.world.files sc ∧
      Follows (v.depth + 1) sc.commands v.outcome G := by
  cases h.trees_below _ hG with
  | alone alone =>
    obtain ⟨f, s', ho⟩ := alone hb
    obtain ⟨s₀, hv⟩ := h.exists_visit v (Forest.mem_preorder_of_trees hG)
    exact Or.inl ⟨rfl, f, (visit_of_opening_error hv hb ho).1⟩
  | opened _ _ opening runs => exact Or.inr ⟨_, (leadsTo_of_opening opening).2, runs.follows⟩

variable {t t' : FileTree} {script : Path} {dir : Option Path}

/-- The records of a run of a new session are those of its visits, in postorder. -/
theorem History.records (h : e.History s st F r s₂)
    (fresh : Session.create t script dir = .ok (st.session, t')) :
    (e.finished r s₂).record.commands = F.postorder.map (Visit.record e) := by
  have hf : (e.finished r s₂).record.commands = s₂.session.record.commands := by
    cases r <;> rfl
  have hn : (e.begun st).session.record.commands = [] := by
    change st.session.record.commands = []
    rw [(Session.create_ok fresh).1]
  rw [hf, h.session]
  change (e.begun st).session.record.commands ++ _ = _
  rw [hn, List.nil_append]

/-- A run that passes has passed all commands, and those of the script itself are all there. -/
theorem History.passed (h : e.History s st F (.ok ()) s₂) :
    (∀ x ∈ F.postorder.map (Visit.record e), x.status = .passed) ∧
      ((F.postorder.map (Visit.record e)).filter (·.depth = 0)).map
        (fun x => (x.line, x.text, x.source)) =
        s.commands.map fun c => (c.line, c.text, c.source) := by
  constructor
  · obtain ⟨f, hf, -⟩ | ⟨done, vs, hp, hd, he⟩ := h.ends
    · cases hf
    · cases he
      rw [hp, List.append_nil]
      intro x hx
      obtain ⟨v, hv, rfl⟩ := List.mem_map.mp hx
      exact status_of_ok (hd v hv)
  · rw [List.filter_map]
    change List.map _ (List.map _ (F.postorder.filter fun v => v.depth = 0)) = _
    rw [h.filter_depth, ← h.follows.complete rfl, List.map_map, List.map_map]
    rfl

theorem History.failed {f : Fault} (h : e.History s st F (.error f) s₂) :
    (F = .nil ∧ ((prepare s.commands).run (e.begun st)).1 = .error f) ∨
    ∃ done failed, F.postorder.map (Visit.record e) = done ++ failed ∧
      (∀ x ∈ done, x.status = .passed) ∧ (∀ x ∈ failed, x.status = .failed) ∧ failed ≠ [] ∧
      failed.map CommandRecord.depth = (List.range failed.length).reverse := by
  obtain ⟨g, hg, hF, hp⟩ | ⟨done, vs, hp, hd, he⟩ := h.ends
  · cases hg
    exact Or.inl ⟨hF, by rw [hp]⟩
  · refine Or.inr ⟨done.map (Visit.record e), vs.map (Visit.record e), ?_, ?_, ?_, ?_, ?_⟩
    · rw [hp, List.map_append]
    · intro x hx
      obtain ⟨v, hv, rfl⟩ := List.mem_map.mp hx
      exact status_of_ok (hd v hv)
    · intro x hx
      obtain ⟨v, hv, rfl⟩ := List.mem_map.mp hx
      obtain ⟨g, hg⟩ := he.failed v hv
      exact status_of_error hg
    · simpa using he.ne_nil
    · rw [List.map_map, List.length_map, List.range_eq_range']
      exact he.depths

/-- Every run of a new session records the commands that it ran in postorder, and the failed ones
among them come last, one for each depth down to that of the script itself. -/
theorem run_recorded (e : Setup σ ε) (s : Script)
    (fresh : Session.create t script dir = .ok (st.session, t')) :
    ∃ F r s₂ st', e.History s st F r s₂ ∧ (e.run s).run st = (r, st') ∧
      e.Recorded s st F r st' := by
  obtain ⟨F, r, s₂, h⟩ := e.exists_history s st
  obtain ⟨st', hr, hl, he, -⟩ := h.run fresh
  have hc : st'.session.record.commands = F.postorder.map (Visit.record e) := by
    rw [he]
    exact h.records fresh
  refine ⟨F, r, s₂, st', h, hr, ?_⟩
  exact {
    records := hc
    main := h.follows
    alone := fun v G hG hb => h.alone hG hb
    included := fun v G hG hb => h.included hG hb
    passed := by rintro rfl; rw [hc]; exact h.passed
    failed := by
      rintro f rfl
      rw [hc]
      obtain ⟨rfl, hp⟩ | hx := h.failed
      · exact Or.inl ⟨rfl, rfl, hp⟩
      · exact Or.inr hx
    notices := by
      obtain ⟨new, rest, hn, ha⟩ := h.notices
      obtain ⟨last, hw, hx⟩ := notices_of_settled hl
      refine ⟨new, rest ++ last, ?_, ha.starts, ha.passed, ?_⟩
      · rw [hw, hn, List.append_assoc, List.append_assoc]
      · refine List.forall_mem_append.mpr ⟨ha.stopped, fun x hm => ?_⟩
        obtain ⟨message, rfl | rfl⟩ := hx x hm <;> rfl
    total := by
      refine RunRecord.length_eq_counts ?_
      rw [hc]
      intro x hx
      obtain ⟨v, -, rfl⟩ := List.mem_map.mp hx
      exact e.status_cases v }

end Setup

namespace Simulation

/-- The unknown command of an included script fails, and so does the command that includes it. -/
theorem run_recorded_nonsense :
    let st := ready nonsense ⟨none, .path, []⟩ none {}
    ∃ f st' done failed, (rehearsal.run including).run st = (.error f, st') ∧
      st'.session.record.commands = done ++ failed ∧ failed ≠ [] ∧
      failed.map CommandRecord.depth = (List.range failed.length).reverse := by
  intro st
  obtain ⟨F, r, s₂, st', h, hr, hl⟩ := rehearsal.run_recorded including
    (create_ready : Session.create nonsense "main" none = .ok (st.session, _))
  obtain ⟨f, hf⟩ : ∃ f, ((rehearsal.body including).run (rehearsal.begun st)).1 = .error f :=
    ⟨_, rfl⟩
  rw [h.body_run] at hf
  obtain ⟨-, -, hp⟩ | ⟨done, failed, hc, -, -, hn, hd⟩ := hl.failed f hf
  · cases hp
  · exact ⟨f, st', done, failed, hf ▸ hr, hc, hn, hd⟩

end Simulation

end TapScript
