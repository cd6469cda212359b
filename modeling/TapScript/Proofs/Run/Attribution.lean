import TapScript.Proofs.Run.Records

/-! # The attribution of faults

The innermost command that was running gives its place to a fault without a line. From then on the
fault stays as it is, through all commands that include that one, and all of their records say the
same of it. A mishap has no place, so that each record says its own line instead.
-/

namespace TapScript

namespace Fault

variable {p q : Place} {f : Fault}

theorem placed_of_line (h : ∀ p, f.place? = some p → p.line.isSome) : f.placed q = f := by
  cases f with
  | problem x p => exact congrArg (problem x) (if_pos (h p rfl))
  | mismatch x p => exact congrArg (mismatch x) (if_pos (h p rfl))
  | mishap m => rfl

theorem line_of_placed (h : q.line.isSome) :
    ∀ p, (f.placed q).place? = some p → p.line.isSome := by
  intro p hp
  rw [place?_placed] at hp
  obtain ⟨p₀, -, rfl⟩ := Option.map_eq_some_iff.mp hp
  unfold Place.orElse
  split <;> assumption

/-- The text of a fault in the record of a command that stands in a line. -/
def recorded (line : Int) : Fault → String
  | mishap m => s!"line {line}: {m.message}"
  | f => f.message

theorem locate_ne {p : Place} (h : p.line.isSome) (message : String) : p.locate message ≠ "" := by
  obtain ⟨line, source⟩ := p
  cases line with
  | none => cases h
  | some n => cases source <;> simp [Place.locate, toString]

/-- The text of a fault that has no place, or a line, is not empty. -/
theorem recorded_ne (h : ∀ p, f.place? = some p → p.line.isSome) (line : Int) :
    f.recorded line ≠ "" := by
  cases f with
  | problem x p => exact locate_ne (h p rfl) x.message
  | mismatch x p => exact locate_ne (h p rfl) x.message
  | mishap m => simp [recorded, toString]

end Fault

namespace Setup

open Engine

variable {σ ε : Type} {e : Setup σ ε} {s : Script} {st s₂ : RunState σ ε} {d : Nat}
  {F : Forest (Visit σ ε)} {f : Fault} {st' : RunState σ ε} {v : Visit σ ε}
  {vs : List (Visit σ ε)}

theorem failureText_eq (c : Command) (f : Fault) : failureText c f = f.recorded c.line := by
  cases f <;> rfl

/-- A fault on a branch is raised at its innermost command, gets a line there, and is the outcome
of all others. -/
theorem Ends.raised_at (h : e.Ends d (.error f) vs) : ∃ v outer raised, vs = v :: outer ∧
    e.Alone v.levels v.command v.before ∧ v.outcome = .error raised ∧
    f = raised.placed v.command.place ∧ ∀ u ∈ outer, u.outcome = .error f := by
  generalize hr : Except.error f = r at h
  induction h generalizing f with
  | passed => cases hr
  | raised _ ha ho =>
    cases hr
    exact ⟨_, [], _, rfl, ha, ho, rfl, by simp⟩
  | @passedOn d v g vs _ _ ho ih =>
    cases hr
    obtain ⟨u, outer, raised, rfl, ha, hu, hg, hall⟩ := ih rfl
    -- The innermost command has given the fault a line, so that this one leaves it as it is.
    have hf : g.placed v.command.place = g :=
      Fault.placed_of_line (hg ▸ Fault.line_of_placed rfl)
    rw [hf]
    refine ⟨u, outer ++ [v], raised, rfl, ha, hu, hg, ?_⟩
    exact List.forall_mem_append.mpr ⟨hall, List.forall_mem_singleton.mpr ho⟩

theorem error_of_result (h : v.result = .error f) :
    (v.record e).error = some (f.recorded v.command.line) := by
  simp only [Visit.record, h, failureText_eq]

/-- The text that a run reports is that of its first failed record. -/
theorem failureOf_eq {r : RunRecord} {done rest : List CommandRecord} {x : CommandRecord}
    {text : String} (hr : r.commands = done ++ x :: rest) (hd : ∀ y ∈ done, y.status = .passed)
    (hx : x.status = .failed) (he : x.error = some text) (hn : text ≠ "") :
    failureOf r f = text := by
  have hf : r.commands.find? (fun c => c.status = .failed && c.error.any (· != "")) = some x := by
    rw [hr, List.find?_append, List.find?_eq_none.mpr, Option.none_or, List.find?_cons_of_pos]
    · simpa [hx, he] using hn
    · intro y hy
      simp [hd y hy]
  rw [failureOf, hf]
  exact congrArg (Option.getD · f.message) he

variable (e F f st') in
/-- How a fault that a command raises is attributed to it, once the run has ended. -/
structure Attributed (v : Visit σ ε) (raised : Fault) : Prop where
  visited : v ∈ F.preorder
  innermost : e.Alone v.levels v.command v.before
  raises : (e.dispatch (e.nested v.levels v.depth) v.command).run v.before =
    (.error raised, v.after)
  placed : f = raised.placed v.command.place
  found : ∀ p, raised.place? = some p → p.line = none → f.place? = some v.command.place
  kept : ∀ p, raised.place? = some p → p.line.isSome → f = raised
  line : ∀ p, f.place? = some p → p.line.isSome
  mishap : ∀ m, raised = .mishap m → f = raised
  enclosing : ∀ u ∈ F.preorder, u ≠ v → ∀ g, u.outcome = .error g → g = f ∧ u.result = .error f
  first : ∃ done rest, st'.session.record.commands = done ++ v.record e :: rest ∧
    (∀ x ∈ done, x.status = .passed) ∧ (v.record e).status = .failed
  texts : ∀ x ∈ st'.session.record.commands, x.status = .failed →
    x.error = some (f.recorded x.line)
  reported : st'.session.record.error = some (f.recorded v.command.line)

/-- The fault of a script whose libraries cannot be loaded has a line, or no place at all. -/
theorem line_of_prepare {cs : List Command} {s s' : RunState σ ε}
    (h : (prepare cs).run s = (.error f, s')) : ∀ p, f.place? = some p → p.line.isSome := by
  obtain ⟨f₁, g, hp, hr⟩ | ⟨ls, g, -, hr⟩ := prepare_run_cases cs s
  · rw [hr] at h
    cases h
    obtain ⟨_, c, _, _, _, -, -, -, -, -, ⟨x, -, -, rfl⟩ | ⟨m, rfl, rfl⟩⟩ :=
      Registry.failsAt_of_prepare hp
    · rintro p ⟨⟩
      rfl
    · rintro p ⟨⟩
  · rw [hr] at h
    cases h

variable {t t' : FileTree} {script : Path} {dir : Option Path}

theorem History.attributed (h : e.History s st F (.error f) s₂)
    (fresh : Session.create t script dir = .ok (st.session, t'))
    (hs : st'.session = { e.finished (.error f) s₂ with closed := true })
    {done vs : List (Visit σ ε)} (hp : F.postorder = done ++ vs)
    (hd : ∀ v ∈ done, v.outcome = .ok ()) (he : e.Ends 0 (.error f) vs) :
    ∃ v raised, e.Attributed F f st' v raised := by
  obtain ⟨v, outer, raised, rfl, ha, ho, hf, hall⟩ := he.raised_at
  have line := Fault.line_of_placed (f := raised) (q := v.command.place) rfl
  rw [← hf] at line
  have mem : ∀ u, u ∈ F.preorder ↔ u ∈ done ++ v :: outer := fun u => by
    rw [← hp, Forest.mem_postorder_iff]
  have visited : v ∈ F.preorder := (mem v).mpr (by simp)
  have enclosing : ∀ u ∈ outer, u.result = .error f := fun u hu => by
    rw [Visit.result, hall u hu]
    exact congrArg Except.error (Fault.placed_of_line line)
  have result : v.result = .error f := by
    rw [Visit.result, ho, hf]
    rfl
  have records : st'.session.record.commands =
      done.map (Visit.record e) ++ v.record e :: outer.map (Visit.record e) := by
    rw [hs]
    change (e.finished (.error f) s₂).record.commands = _
    rw [h.records fresh, hp, List.map_append, List.map_cons]
  have passed : ∀ x ∈ done.map (Visit.record e), x.status = .passed := fun x hx => by
    obtain ⟨u, hu, rfl⟩ := List.mem_map.mp hx
    exact status_of_ok (hd u hu)
  refine ⟨v, raised, ?_⟩
  exact {
    visited := visited
    innermost := ha
    raises := by
      obtain ⟨s₀, hv⟩ := h.exists_visit v visited
      rw [← ho, ← hv]
      rfl
    placed := hf
    found := fun p hp hn => by
      rw [hf, Fault.place?_placed, hp]
      simp [Place.orElse, hn]
    kept := fun p hp hn => by
      rw [hf]
      refine Fault.placed_of_line fun q hq => ?_
      rw [hp] at hq
      cases hq
      exact hn
    line := line
    mishap := by
      rintro m rfl
      exact hf
    enclosing := fun u hu hne g hg => by
      rcases List.mem_append.mp ((mem u).mp hu) with hm | hm
      · rw [hd u hm] at hg
        cases hg
      · rcases List.mem_cons.mp hm with rfl | hm
        · exact absurd rfl hne
        · rw [hall u hm] at hg
          cases hg
          exact ⟨rfl, enclosing u hm⟩
    first := ⟨_, _, records, passed, status_of_error ho⟩
    texts := fun x hx hf => by
      rw [records] at hx
      rcases List.mem_append.mp hx with hx | hx
      · rw [passed x hx] at hf
        cases hf
      · rw [← List.map_cons] at hx
        obtain ⟨u, hu, rfl⟩ := List.mem_map.mp hx
        rcases List.mem_cons.mp hu with rfl | hu
        · exact error_of_result result
        · exact error_of_result (enclosing u hu)
    reported := by
      have hr : failureOf s₂.session.record f = f.recorded v.command.line := by
        rw [hs] at records
        exact failureOf_eq records passed (status_of_error ho) (error_of_result result)
          (Fault.recorded_ne line _)
      rw [hs]
      change some (if failureOf s₂.session.record f = "" then _ else _) = _
      rw [hr, if_neg (Fault.recorded_ne line _)] }

/-- Every failed run of a new session is over before its commands, and reports the fault as it is;
or its fault was raised at one command, and is attributed to that. -/
theorem run_attributed (e : Setup σ ε) (s : Script)
    (fresh : Session.create t script dir = .ok (st.session, t')) :
    ∃ F r s₂ st', e.History s st F r s₂ ∧ (e.run s).run st = (r, st') ∧ ∀ f, r = .error f →
      (((prepare s.commands).run (e.begun st)).1 = .error f ∧
        st'.session.record.commands = [] ∧ st'.session.record.error = some f.message ∧
        ∀ p, f.place? = some p → p.line.isSome) ∨
      ∃ v raised, e.Attributed F f st' v raised := by
  obtain ⟨F, r, s₂, h⟩ := e.exists_history s st
  obtain ⟨st', hr, -, hs, -⟩ := h.run fresh
  refine ⟨F, r, s₂, st', h, hr, ?_⟩
  rintro f rfl
  obtain ⟨g, hg, rfl, hp⟩ | ⟨done, vs, hp, hd, he⟩ := h.ends
  · cases hg
    have hc : s₂.session.record.commands = [] := h.records fresh
    refine Or.inl ⟨by rw [hp], ?_, ?_, line_of_prepare hp⟩
    · rw [hs]
      exact hc
    · rw [hs]
      change some (if failureOf s₂.session.record f = "" then _ else _) = _
      have hf : failureOf s₂.session.record f = f.message := by
        rw [failureOf, hc]
        rfl
      rw [hf, ite_self]
  · exact Or.inr (h.attributed fresh hs hp hd he)

end Setup

namespace Simulation

/-- The fault of an included script keeps its line and the name of that script. -/
theorem run_attributed_nonsense :
    let st := ready nonsense ⟨none, .path, []⟩ none {}
    let f : Fault := .problem (.unknownCommand "nonsense") ⟨some 1, some "sub"⟩
    ∃ F st' v raised, (rehearsal.run including).run st = (.error f, st') ∧
      rehearsal.Attributed F f st' v raised := by
  intro st f
  obtain ⟨F, r, s₂, st', h, hr, hl⟩ := rehearsal.run_attributed including
    (create_ready : Session.create nonsense "main" none = .ok (st.session, _))
  have hf : ((rehearsal.body including).run (rehearsal.begun st)).1 = .error f := rfl
  rw [h.body_run] at hf
  obtain ⟨hp, -⟩ | ⟨v, raised, ha⟩ := hl f hf
  · cases hp
  · exact ⟨F, st', v, raised, hf ▸ hr, ha⟩

end Simulation

end TapScript
