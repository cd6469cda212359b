import TapScript.Proofs.Run.Records

/-! # The progress of a run

A run gives notice of each command as it starts and again as it ends. These notices are bracketed:
a command ends before the one that was open when it started, and only a command that runs another
script is open while another starts. The records that they report are those of the session.
-/

namespace TapScript

namespace Notice

/-- Whether a notice says that a command starts or ends. -/
def isProgress : Notice → Bool
  | started .. | completed .. => true
  | said _ | failed _ | warned _ => false

def record? : Notice → Option CommandRecord
  | completed _ r => some r
  | _ => none

/-- The commands that are open after a notice, the innermost first. -/
def opened (os : List Command) : Notice → List Command
  | started c _ => c :: os
  | completed .. => os.tail
  | said _ | failed _ | warned _ => os

end Notice

/-- Notices of progress while some commands are open. Each command that starts has its own end,
and what is between starts and ends in the same way. -/
inductive Bracketed : List Command → List Notice → Prop
  | nil {os} : Bracketed os []
  | cons {os c r inner rest} (included : ∀ o ∈ os, o.builtin? = some .runScript)
      (ended : r.status = .passed ∨ r.status = .failed) (below : Bracketed (c :: os) inner)
      (after : Bracketed os rest) :
      Bracketed os (.started c os.length :: (inner ++ .completed c r :: rest))

/-- How a command starts while some commands are open, and what follows: its end comes after
notices that are bracketed. -/
structure StartsIn (os : List Command) (c : Command) (depth : Nat) (post : List Notice) : Prop where
  depth : depth = os.length
  included : ∀ o ∈ os, o.builtin? = some .runScript
  ends : ∃ inner r rest, post = inner ++ .completed c r :: rest ∧ Bracketed (c :: os) inner ∧
    (r.status = .passed ∨ r.status = .failed)

namespace Bracketed

variable {os : List Command} {ns pre post : List Notice} {c : Command} {d : Nat}

/-- Bracketed notices leave those commands open that were open before. -/
theorem opened_eq (h : Bracketed os ns) : ns.foldl Notice.opened os = os := by
  induction h with
  | nil => rfl
  | cons _ _ _ _ ihb iha =>
    rw [List.foldl_cons, List.foldl_append, Notice.opened, ihb, List.foldl_cons]
    exact iha

/-- Wherever a command starts, its depth is the number of the commands that are open by then. -/
theorem startsIn (h : Bracketed os ns) (hn : ns = pre ++ .started c d :: post) :
    StartsIn (pre.foldl Notice.opened os) c d post := by
  induction h generalizing pre post with
  | nil => simp at hn
  | @cons os c₀ r₀ inner rest included ended below after ihb iha =>
    cases pre with
    | nil =>
      cases hn
      exact ⟨rfl, included, inner, r₀, rest, rfl, below, ended⟩
    | cons x pre =>
      rw [List.cons_append, List.cons.injEq] at hn
      obtain ⟨rfl, hn⟩ := hn
      rw [List.foldl_cons, Notice.opened]
      -- The command starts below this one, or after it.
      obtain ⟨mid, rfl, hm⟩ | ⟨mid, rfl, hm⟩ := List.append_eq_append_iff.mp hn
      · cases mid with
        | nil => cases hm
        | cons y mid =>
          rw [List.cons_append, List.cons.injEq] at hm
          obtain ⟨rfl, hm⟩ := hm
          rw [List.foldl_append, below.opened_eq, List.foldl_cons, Notice.opened, List.tail_cons]
          exact iha hm
      · cases mid with
        | nil => cases hm
        | cons y mid =>
          rw [List.cons_append, List.cons.injEq] at hm
          obtain ⟨rfl, rfl⟩ := hm
          obtain ⟨hd, hi, inner', r, rest', rfl, hb, he⟩ := ihb rfl
          refine ⟨hd, hi, inner', r, rest' ++ .completed c₀ r₀ :: rest, ?_, hb, he⟩
          rw [List.append_assoc, List.cons_append]

end Bracketed

variable {σ ε : Type}

theorem Calm.progress {s s' : RunState σ ε} (h : Calm s s') :
    s'.notices.filter Notice.isProgress = s.notices.filter Notice.isProgress := by
  obtain ⟨lines, hl⟩ := h.notices
  have said : (lines.map Notice.said).filter Notice.isProgress = [] := by
    rw [List.filter_eq_nil_iff]
    intro x hx
    obtain ⟨line, -, rfl⟩ := List.mem_map.mp hx
    exact Bool.false_ne_true
  rw [hl, List.filter_append, said, List.append_nil]

namespace Setup

open Engine Procedure

/-- The notices of the progress of some visits. -/
def progress (e : Setup σ ε) : Forest (Visit σ ε) → List Notice
  | .nil => []
  | .cons v below rest => .started v.command v.depth ::
    (e.progress below ++ .completed v.command (v.record e) :: e.progress rest)

variable {e : Setup σ ε} {n d : Nat} {script cs : List Command} {c : Command}
  {s s' : RunState σ ε} {F : Forest (Visit σ ε)} {r : Except Fault Unit} {v : Visit σ ε}

theorem records_of_progress (e : Setup σ ε) (F : Forest (Visit σ ε)) :
    (e.progress F).filterMap Notice.record? = F.postorder.map (Visit.record e) := by
  induction F with
  | nil => rfl
  | cons v below rest ihb ihr =>
    rw [progress, Forest.postorder, List.map_append, List.map_cons, ← ihb, ← ihr]
    exact List.filterMap_append

theorem progress_before (hv : e.visit n d script c s = v) :
    v.before.notices.filter Notice.isProgress =
      s.notices.filter Notice.isProgress ++ [.started v.command v.depth] := by
  subst hv
  exact List.filter_append ..

theorem progress_ended (e : Setup σ ε) (v : Visit σ ε) :
    (v.ended e).notices.filter Notice.isProgress =
      v.after.notices.filter Notice.isProgress ++ [.completed v.command (v.record e)] :=
  List.filter_append ..

/-- Running commands gives notice of the progress of all visits, and of no other. -/
theorem Runs.progress (h : e.Runs n d script cs s F r s') :
    s'.notices.filter Notice.isProgress =
      s.notices.filter Notice.isProgress ++ e.progress F := by
  induction h with
  | done => exact (List.append_nil _).symm
  | passed hv ha ho _ ih =>
    rw [ih, progress_ended, (visit_calm hv ha).progress, progress_before hv]
    simp [Setup.progress]
  | failed hv ha ho =>
    rw [progress_ended, (visit_calm hv ha).progress, progress_before hv]
    simp [Setup.progress]
  | included hv hb hs _ ho _ ihG ih =>
    rw [ih, progress_ended, ihG, (calm_opening hs).progress, progress_before hv]
    simp [Setup.progress]
  | interrupted hv hb hs _ ho ihG =>
    rw [progress_ended, ihG, (calm_opening hs).progress, progress_before hv]
    simp [Setup.progress]

/-- A visit stands between the notices of its start and its end, if the depth is the number of
the commands that are open. -/
theorem bracketed_cons {G F : Forest (Visit σ ε)} {os : List Command}
    (hv : e.visit n os.length script c s = v) (ho : ∀ o ∈ os, o.builtin? = some .runScript)
    (hG : Bracketed (c :: os) (e.progress G)) (hF : Bracketed os (e.progress F)) :
    Bracketed os (e.progress (.cons v G F)) := by
  subst hv
  exact .cons ho (e.status_cases _) hG hF

theorem Runs.bracketed (h : e.Runs n d script cs s F r s') :
    ∀ os : List Command, os.length = d → (∀ o ∈ os, o.builtin? = some .runScript) →
      Bracketed os (e.progress F) := by
  induction h with
  | done => exact fun _ _ _ => .nil
  | passed hv ha ho _ ih =>
    rintro os rfl hi
    exact bracketed_cons hv hi .nil (ih os rfl hi)
  | failed hv ha ho =>
    rintro os rfl hi
    exact bracketed_cons hv hi .nil .nil
  | included hv hb hs _ ho _ ihG ih =>
    rintro os rfl hi
    exact bracketed_cons hv hi (ihG _ rfl (List.forall_mem_cons.mpr ⟨hb, hi⟩)) (ih os rfl hi)
  | interrupted hv hb hs _ ho ihG =>
    rintro os rfl hi
    exact bracketed_cons hv hi (ihG _ rfl (List.forall_mem_cons.mpr ⟨hb, hi⟩)) .nil

variable {main : Script} {st s₂ st' : RunState σ ε}

theorem History.progress (h : e.History main st F r s₂) :
    s₂.notices.filter Notice.isProgress =
      st.notices.filter Notice.isProgress ++ e.progress F := by
  cases h with
  | unprepared failed =>
    rw [((isCalm_prepare _).of_run failed).progress]
    exact (List.append_nil _).symm
  | prepared loaded runs => rw [runs.progress, ((isCalm_prepare _).of_run loaded).progress]; rfl

theorem History.bracketed (h : e.History main st F r s₂) : Bracketed [] (e.progress F) := by
  cases h with
  | unprepared failed => exact .nil
  | prepared loaded runs => exact runs.bracketed [] rfl (by simp)

/-- After its commands a run gives notice of no progress. -/
theorem progress_of_settled (h : Settled (e.concluded st r s₂) st') :
    st'.notices.filter Notice.isProgress = s₂.notices.filter Notice.isProgress := by
  obtain ⟨last, hn, hx⟩ := notices_of_settled h
  have ended : last.filter Notice.isProgress = [] := by
    rw [List.filter_eq_nil_iff]
    intro x hm
    obtain ⟨message, rfl | rfl⟩ := hx x hm <;> exact Bool.false_ne_true
  rw [hn, List.filter_append, ended, List.append_nil]

/-- However a run ends, its notices of progress are bracketed. The records that they report are
those that the run adds to the session, in order. -/
theorem run_bracketed (e : Setup σ ε) (main : Script) (st : RunState σ ε) :
    ∃ r st' events, (e.run main).run st = (r, st') ∧
      st'.notices.filter Notice.isProgress = st.notices.filter Notice.isProgress ++ events ∧
      Bracketed [] events ∧
      (∀ pre c d post, events = pre ++ .started c d :: post →
        StartsIn (pre.foldl Notice.opened []) c d post) ∧
      st'.session.record.commands =
        st.session.record.commands ++ events.filterMap Notice.record? := by
  obtain ⟨F, r, s₂, h⟩ := e.exists_history main st
  obtain ⟨hl, he⟩ := close_settled (e := e) r (e.concluded st r s₂)
  rcases hr : (e.close r).run (e.concluded st r s₂) with ⟨r', st'⟩
  rw [hr] at hl he
  refine ⟨r', st', e.progress F, (run_eq_close h.body_run).trans hr, ?_, h.bracketed,
    fun _ _ _ _ => h.bracketed.startsIn, ?_⟩
  · rw [progress_of_settled hl, h.progress]
  · have hc : (e.finished r s₂).record.commands = s₂.session.record.commands := by
      cases r <;> rfl
    rw [he, records_of_progress]
    exact hc.trans (congrArg (·.record.commands) h.session)

end Setup

end TapScript
