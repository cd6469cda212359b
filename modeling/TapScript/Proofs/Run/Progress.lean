import TapScript.Proofs.Run.History

/-! # What commands add to a run

Running commands adds their records to the session, each after those of the scripts that the
command includes, and announces each of them before those. The current driver stays, and no
library is given up. When a command fails, so do the commands that include it, and nothing else
is run.
-/

namespace TapScript

/-- The session with more commands ended. -/
def Session.addAll (rs : List CommandRecord) (s : Session) : Session :=
  { s with record := { s.record with commands := s.record.commands ++ rs } }

theorem Session.addAll_nil (s : Session) : s.addAll [] = s := by
  simp [addAll]

theorem Session.addAll_addAll (rs rs' : List CommandRecord) (s : Session) :
    (s.addAll rs).addAll rs' = s.addAll (rs ++ rs') := by
  simp [addAll]

theorem Session.add_eq_addAll (r : CommandRecord) (s : Session) : s.add r = s.addAll [r] := rfl

/-- The command that a notice announces, with its depth. -/
def Notice.start? : Notice → Option (Command × Nat)
  | .started c depth => some (c, depth)
  | _ => none

/-- Whether a notice says that a command has failed. -/
def Notice.isFailure : Notice → Bool
  | .completed _ r => r.status = .failed
  | _ => false

variable {σ ε : Type}

/-- A state that parts of a run can lead to. -/
structure Later (s s' : RunState σ ε) : Prop where
  current : s'.current = s.current
  registry : s.registry.Extends s'.registry

theorem Later.refl (s : RunState σ ε) : Later s s :=
  ⟨rfl, .refl _⟩

theorem Later.trans {s s' s'' : RunState σ ε} (h : Later s s') (h' : Later s' s'') :
    Later s s'' :=
  ⟨h'.current.trans h.current, h.registry.trans h'.registry⟩

theorem Calm.later {s s' : RunState σ ε} (h : Calm s s') : Later s s' :=
  ⟨h.current, h.registry⟩

namespace Setup

open Engine Procedure

variable {e : Setup σ ε} {n d : Nat} {script cs : List Command} {c : Command}
  {s s' : RunState σ ε} {F : Forest (Visit σ ε)} {r : Except Fault Unit} {v : Visit σ ε}
  {f : Fault} {sc : Script}

theorem later_before (hv : e.visit n d script c s = v) : Later s v.before := by
  subst hv
  exact ⟨rfl, .refl _⟩

theorem later_ended (e : Setup σ ε) (v : Visit σ ε) : Later v.after (v.ended e) :=
  ⟨rfl, .refl _⟩

theorem calm_opening (h : (e.opening n c).run v.before = (.ok sc, s')) : Calm v.before s' :=
  (e.isCalm_opening n c).of_run h

/-- A command that fails to open a script ends as the opening does. -/
theorem visit_of_opening_error (hv : e.visit n d script c s = v)
    (hb : c.builtin? = some .runScript) (h : (e.opening n c).run v.before = (.error f, s')) :
    v.outcome = .error f ∧ v.after = s' := by
  subst hv
  have hd := (dispatch_runScript (d := d) hb).trans (run_bind_error h)
  exact ⟨congrArg Prod.fst hd, congrArg Prod.snd hd⟩

/-- A visit that comes to run no other script is calm. -/
theorem visit_calm (hv : e.visit n d script c s = v) (ha : e.Alone n c v.before) :
    Calm v.before v.after := by
  by_cases hb : c.builtin? = some .runScript
  · obtain ⟨f, s₁, h⟩ := ha hb
    rw [(visit_of_opening_error hv hb h).2]
    exact (e.isCalm_opening n c).of_run h
  · subst hv
    exact e.isCalm_dispatch hb _ _

theorem later_of_alone (hv : e.visit n d script c s = v) (ha : e.Alone n c v.before) :
    Later s (v.ended e) :=
  ((later_before hv).trans (visit_calm hv ha).later).trans (later_ended e v)

theorem later_of_opening (hv : e.visit n d script c s = v)
    (ho : (e.opening n c).run v.before = (.ok sc, s')) : Later s s' :=
  (later_before hv).trans (calm_opening ho).later

theorem Runs.later (h : e.Runs n d script cs s F r s') :
    Later s s' ∧ ∀ v ∈ F.preorder, Later s v.before := by
  induction h with
  | done => exact ⟨.refl _, by simp [Forest.preorder]⟩
  | passed hv ha ho _ ih =>
    have hl := later_of_alone hv ha
    refine ⟨hl.trans ih.1, List.forall_mem_cons.mpr ⟨later_before hv, ?_⟩⟩
    exact fun u hu => hl.trans (ih.2 u hu)
  | failed hv ha ho =>
    exact ⟨later_of_alone hv ha, List.forall_mem_singleton.mpr (later_before hv)⟩
  | included hv hb hs _ ho _ ihG ih =>
    have hs := later_of_opening hv hs
    have hl := (hs.trans ihG.1).trans (later_ended e _)
    refine ⟨hl.trans ih.1, List.forall_mem_cons.mpr ⟨later_before hv, ?_⟩⟩
    refine List.forall_mem_append.mpr ⟨fun u hu => hs.trans (ihG.2 u hu), ?_⟩
    exact fun u hu => hl.trans (ih.2 u hu)
  | interrupted hv hb hs _ ho ihG =>
    have hs := later_of_opening hv hs
    refine ⟨(hs.trans ihG.1).trans (later_ended e _), ?_⟩
    refine List.forall_mem_cons.mpr ⟨later_before hv, ?_⟩
    exact List.forall_mem_append.mpr ⟨fun u hu => hs.trans (ihG.2 u hu), by simp [Forest.preorder]⟩

theorem session_of_alone (hv : e.visit n d script c s = v) (ha : e.Alone n c v.before) :
    v.after.session = s.session := by
  rw [(visit_calm hv ha).session, ← hv]
  rfl

theorem session_of_opening (hv : e.visit n d script c s = v)
    (ho : (e.opening n c).run v.before = (.ok sc, s')) : s'.session = s.session := by
  rw [(calm_opening ho).session, ← hv]
  rfl

/-- Running commands adds the records of all visits, in postorder, and changes nothing else in
the session. -/
theorem Runs.session (h : e.Runs n d script cs s F r s') :
    s'.session = s.session.addAll (F.postorder.map (Visit.record e)) := by
  induction h with
  | done => exact (Session.addAll_nil _).symm
  | passed hv ha ho _ ih =>
    rw [ih, Visit.ended, session_of_alone hv ha, Session.add_eq_addAll, Session.addAll_addAll]
    rfl
  | failed hv ha ho =>
    rw [Visit.ended, session_of_alone hv ha]
    rfl
  | included hv hb hs _ ho _ ihG ih =>
    rw [ih, Visit.ended, ihG, session_of_opening hv hs, Session.add_eq_addAll,
      Session.addAll_addAll, Session.addAll_addAll, Forest.postorder, List.map_append]
    rfl
  | interrupted hv hb hs _ ho ihG =>
    rw [Visit.ended, ihG, session_of_opening hv hs, Session.add_eq_addAll,
      Session.addAll_addAll, Forest.postorder, List.map_append]
    rfl

theorem status_of_ok (h : v.outcome = .ok ()) : (v.record e).status = .passed := by
  simp [Visit.record, Visit.result, h]

theorem status_of_error (h : v.outcome = .error f) : (v.record e).status = .failed := by
  simp [Visit.record, Visit.result, h]

/-- Notices of running commands: they announce each visit, and a failure only after the last. -/
structure Announces (F : Forest (Visit σ ε)) (r : Except Fault Unit) (new rest : List Notice) :
    Prop where
  starts : new.filterMap Notice.start? = F.preorder.map fun v => (v.command, v.depth)
  passed : ∀ x ∈ new, x.isFailure = false
  stopped : ∀ x ∈ rest, x.start? = none
  outcome : r = .ok () → rest = []

variable {G : Forest (Visit σ ε)} {new rest new' rest' : List Notice}

theorem starts_said (lines : List String) :
    (lines.map Notice.said).filterMap Notice.start? = [] := by
  rw [List.filterMap_eq_nil_iff]
  intro x hx
  obtain ⟨line, -, rfl⟩ := List.mem_map.mp hx
  rfl

theorem Announces.nil : Announces (.nil : Forest (Visit σ ε)) (.ok ()) [] [] :=
  ⟨rfl, by simp, by simp, fun _ => rfl⟩

/-- The notices of a command that passes, and of those after it. -/
theorem Announces.passing (e : Setup σ ε) (lines : List String)
    (hG : Announces G (.ok ()) new []) (ho : v.outcome = .ok ()) (hF : Announces F r new' rest') :
    Announces (.cons v G F) r (.started v.command v.depth :: lines.map .said ++ new ++
      .completed v.command (v.record e) :: new') rest' where
  starts := by
    simp only [List.cons_append, List.filterMap_cons, Notice.start?, List.filterMap_append,
      starts_said, hG.starts, hF.starts, List.nil_append, Forest.preorder, List.map_cons,
      List.map_append]
  passed x hx := by
    simp only [List.cons_append, List.append_assoc, List.mem_cons, List.mem_append,
      List.mem_map] at hx
    obtain rfl | ⟨line, -, rfl⟩ | hx | rfl | hx := hx
    · rfl
    · rfl
    · exact hG.passed x hx
    · simp [Notice.isFailure, status_of_ok ho]
    · exact hF.passed x hx
  stopped := hF.stopped
  outcome := hF.outcome

/-- The notices of a command that fails. -/
theorem Announces.failing (e : Setup σ ε) (lines : List String) {g : Except Fault Unit}
    (hG : Announces G g new rest) (hr : r ≠ .ok ()) :
    Announces (.cons v G .nil) r (.started v.command v.depth :: lines.map .said ++ new)
      (rest ++ [.completed v.command (v.record e)]) where
  starts := by
    simp only [List.cons_append, List.filterMap_cons, Notice.start?, List.filterMap_append,
      starts_said, hG.starts, List.nil_append, Forest.preorder, List.map_cons, List.append_nil]
  passed x hx := by
    simp only [List.cons_append, List.mem_cons, List.mem_append, List.mem_map] at hx
    obtain rfl | ⟨line, -, rfl⟩ | hx := hx
    · rfl
    · rfl
    · exact hG.passed x hx
  stopped x hx := by
    rcases List.mem_append.mp hx with hx | hx
    · exact hG.stopped x hx
    · rw [List.mem_singleton.mp hx]
      rfl
  outcome h := absurd h hr

theorem notices_of_calm (hv : e.visit n d script c s = v) (h : Calm v.before s') :
    ∃ lines : List String, s'.notices =
      s.notices ++ .started v.command v.depth :: lines.map .said := by
  obtain ⟨lines, hl⟩ := h.notices
  refine ⟨lines, ?_⟩
  subst hv
  rw [hl]
  exact List.append_assoc _ _ _

theorem Runs.notices (h : e.Runs n d script cs s F r s') :
    ∃ new rest, s'.notices = s.notices ++ (new ++ rest) ∧ Announces F r new rest := by
  induction h with
  | done => exact ⟨[], [], by simp, .nil⟩
  | passed hv ha ho _ ih =>
    obtain ⟨new, rest, hn, h⟩ := ih
    obtain ⟨lines, hl⟩ := notices_of_calm hv (visit_calm hv ha)
    refine ⟨_, rest, ?_, .passing e lines .nil ho h⟩
    rw [hn, Visit.ended, hl]
    simp
  | failed hv ha ho =>
    obtain ⟨lines, hl⟩ := notices_of_calm hv (visit_calm hv ha)
    refine ⟨_, _, ?_, .failing e lines .nil (by simp)⟩
    rw [Visit.ended, hl]
    simp
  | included hv hb hs _ ho _ ihG ih =>
    obtain ⟨new, rest, hn, h⟩ := ih
    obtain ⟨newG, restG, hnG, hG⟩ := ihG
    obtain ⟨lines, hl⟩ := notices_of_calm hv (calm_opening hs)
    obtain rfl := hG.outcome ho
    refine ⟨_, rest, ?_, .passing e lines (ho ▸ hG) ho h⟩
    rw [hn, Visit.ended, hnG, hl]
    simp
  | interrupted hv hb hs _ ho ihG =>
    obtain ⟨newG, restG, hnG, hG⟩ := ihG
    obtain ⟨lines, hl⟩ := notices_of_calm hv (calm_opening hs)
    refine ⟨_, _, ?_, .failing e lines hG (by simp)⟩
    rw [Visit.ended, hnG, hl]
    simp

end Setup

end TapScript
