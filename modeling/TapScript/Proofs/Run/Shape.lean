import TapScript.Proofs.Run.Progress

/-! # The shape of a history

The trees of a history stand for the first commands of a script, and for all of them if none
fails. Below a command that runs another script stands what is run of that script. A fault ends
the commands on one branch, from the innermost out.
-/

namespace TapScript

namespace Setup

variable {σ ε : Type} (e : Setup σ ε)

/-- Whether a forest stands for the first of some commands at a depth, and for all of them if
they pass. -/
structure Follows (d : Nat) (cs : List Command) (r : Except Fault Unit)
    (F : Forest (Visit σ ε)) : Prop where
  commands : F.roots.map Visit.command <+: cs
  complete : r = .ok () → F.roots.map Visit.command = cs
  depth : ∀ v ∈ F.roots, v.depth = d

/-- What stands below a visit: nothing if it comes to run no other script, else how that script
is run. -/
inductive Below : Visit σ ε → Forest (Visit σ ε) → Prop
  | alone {v} (alone : e.Alone v.levels v.command v.before) : Below v .nil
  | opened {v n sc s₁ G} (levels : v.levels = n + 1)
      (builtin : v.command.builtin? = some .runScript)
      (opening : (e.opening (n + 1) v.command).run v.before = (.ok sc, s₁))
      (runs : e.Runs n (v.depth + 1) sc.commands sc.commands s₁ G v.outcome v.after) : Below v G

/-- The visits that the outcome of commands at a depth ends: none if they pass, else those on
the branch of the fault, the innermost first. -/
inductive Ends : Nat → Except Fault Unit → List (Visit σ ε) → Prop
  | passed {d} : Ends d (.ok ()) []
  | raised {d v f} (depth : v.depth = d) (alone : e.Alone v.levels v.command v.before)
      (outcome : v.outcome = .error f) : Ends d (.error (f.placed v.command.place)) [v]
  | passedOn {d v f vs} (depth : v.depth = d) (inner : Ends (d + 1) (.error f) vs)
      (outcome : v.outcome = .error f) :
      Ends d (.error (f.placed v.command.place)) (vs ++ [v])

variable {e} {n d : Nat} {script cs : List Command} {c : Command} {s s' : RunState σ ε}
  {F G : Forest (Visit σ ε)} {r : Except Fault Unit} {v : Visit σ ε} {f : Fault}
  {vs : List (Visit σ ε)}

theorem Follows.cons (hv : e.visit n d script c s = v) (h : Follows d cs r F) :
    Follows d (c :: cs) r (.cons v G F) := by
  subst hv
  refine ⟨?_, fun hr => ?_, List.forall_mem_cons.mpr ⟨rfl, h.depth⟩⟩
  · exact (List.prefix_cons_inj c).mpr h.commands
  · exact congrArg (c :: ·) (h.complete hr)

theorem Follows.stop : Follows d cs (.error f) (.nil : Forest (Visit σ ε)) :=
  ⟨List.nil_prefix, by simp, by simp [Forest.roots]⟩

theorem Runs.follows (h : e.Runs n d script cs s F r s') : Follows d cs r F := by
  induction h with
  | done => exact ⟨List.prefix_refl _, fun _ => rfl, by simp [Forest.roots]⟩
  | passed hv ha ho _ ih => exact ih.cons hv
  | failed hv ha ho => exact Follows.stop.cons hv
  | included hv hb hs _ ho _ _ ih => exact ih.cons hv
  | interrupted hv hb hs _ ho _ => exact Follows.stop.cons hv

theorem Runs.script_of_roots (h : e.Runs n d script cs s F r s') :
    ∀ v ∈ F.roots, v.script = script := by
  induction h with
  | done => simp [Forest.roots]
  | passed hv _ _ _ ih =>
    subst hv
    exact List.forall_mem_cons.mpr ⟨rfl, ih⟩
  | failed hv _ _ =>
    subst hv
    exact List.forall_mem_singleton.mpr rfl
  | included hv _ _ _ _ _ _ ih =>
    subst hv
    exact List.forall_mem_cons.mpr ⟨rfl, ih⟩
  | interrupted hv _ _ _ _ _ =>
    subst hv
    exact List.forall_mem_singleton.mpr rfl

theorem Runs.depth_le (h : e.Runs n d script cs s F r s') : ∀ v ∈ F.postorder, d ≤ v.depth := by
  induction h with
  | done => simp [Forest.postorder]
  | passed hv ha ho _ ih =>
    subst hv
    exact List.forall_mem_cons.mpr ⟨Nat.le_refl _, ih⟩
  | failed hv ha ho =>
    subst hv
    exact List.forall_mem_singleton.mpr (Nat.le_refl _)
  | included hv hb hs _ ho _ ihG ih =>
    subst hv
    refine List.forall_mem_append.mpr ⟨fun u hu => Nat.le_of_succ_le (ihG u hu), ?_⟩
    exact List.forall_mem_cons.mpr ⟨Nat.le_refl _, ih⟩
  | interrupted hv hb hs _ ho ihG =>
    subst hv
    refine List.forall_mem_append.mpr ⟨fun u hu => Nat.le_of_succ_le (ihG u hu), ?_⟩
    exact List.forall_mem_singleton.mpr (Nat.le_refl _)

theorem Runs.filter_deeper (h : e.Runs n (d + 1) script cs s F r s') :
    F.postorder.filter (·.depth = d) = [] := by
  rw [List.filter_eq_nil_iff]
  intro v hv
  have hd := h.depth_le v hv
  simp only [decide_eq_true_eq]
  omega

/-- The visits at the depth of some commands are those of these commands. -/
theorem Runs.filter_depth (h : e.Runs n d script cs s F r s') :
    F.postorder.filter (·.depth = d) = F.roots := by
  induction h with
  | done => rfl
  | passed hv ha ho _ ih =>
    rw [Forest.postorder, Forest.roots, ← ih, ← hv]
    simp [Forest.postorder, visit]
  | failed hv ha ho =>
    rw [Forest.postorder, Forest.roots, ← hv]
    simp [Forest.postorder, Forest.roots, visit]
  | included hv hb hs hG ho _ _ ih =>
    rw [Forest.postorder, Forest.roots, List.filter_append, hG.filter_deeper, ← ih, ← hv]
    simp [visit]
  | interrupted hv hb hs hG ho _ =>
    rw [Forest.postorder, Forest.roots, List.filter_append, hG.filter_deeper, ← hv]
    simp [Forest.postorder, Forest.roots, visit]

theorem Runs.trees_below (h : e.Runs n d script cs s F r s') : ∀ p ∈ F.trees, e.Below p.1 p.2 := by
  induction h with
  | done => simp [Forest.trees]
  | passed hv ha ho _ ih =>
    subst hv
    exact List.forall_mem_cons.mpr ⟨.alone ha, ih⟩
  | failed hv ha ho =>
    subst hv
    exact List.forall_mem_singleton.mpr (.alone ha)
  | included hv hb hs hG ho _ ihG ih =>
    subst hv
    exact List.forall_mem_cons.mpr ⟨.opened rfl hb hs hG, List.forall_mem_append.mpr ⟨ihG, ih⟩⟩
  | interrupted hv hb hs hG ho ihG =>
    subst hv
    refine List.forall_mem_cons.mpr ⟨.opened rfl hb hs hG, ?_⟩
    exact List.forall_mem_append.mpr ⟨ihG, by simp [Forest.trees]⟩

theorem Runs.ends (h : e.Runs n d script cs s F r s') :
    ∃ done vs, F.postorder = done ++ vs ∧ (∀ v ∈ done, v.outcome = .ok ()) ∧ e.Ends d r vs := by
  induction h with
  | done => exact ⟨[], [], rfl, by simp, .passed⟩
  | @passed n d script c cs s v F r s' hv ha ho _ ih =>
    obtain ⟨done, vs, hp, hd, he⟩ := ih
    refine ⟨v :: done, vs, ?_, List.forall_mem_cons.mpr ⟨ho, hd⟩, he⟩
    rw [Forest.postorder, hp]
    rfl
  | failed hv ha ho =>
    subst hv
    exact ⟨[], [_], rfl, by simp, .raised rfl ha ho⟩
  | @included n d script c cs s v sc s₁ G F r s' hv hb hs _ ho _ ihG ih =>
    obtain ⟨done, vs, hp, hd, he⟩ := ih
    obtain ⟨doneG, vsG, hpG, hdG, heG⟩ := ihG
    rw [ho] at heG
    cases heG
    refine ⟨doneG ++ v :: done, vs, ?_, ?_, he⟩
    · rw [Forest.postorder, hpG, hp, List.append_nil, List.append_assoc]
      rfl
    · exact List.forall_mem_append.mpr ⟨hdG, List.forall_mem_cons.mpr ⟨ho, hd⟩⟩
  | @interrupted n d script c cs s v sc s₁ G f hv hb hs _ ho ihG =>
    obtain ⟨doneG, vsG, hpG, hdG, heG⟩ := ihG
    rw [ho] at heG
    refine ⟨doneG, vsG ++ [v], ?_, hdG, ?_⟩
    · rw [Forest.postorder, hpG, List.append_assoc]
      rfl
    · subst hv
      exact .passedOn rfl heG ho

theorem Ends.ne_nil (h : e.Ends d (.error f) vs) : vs ≠ [] := by
  cases h <;> simp

theorem Ends.failed (h : e.Ends d r vs) : ∀ v ∈ vs, ∃ f, v.outcome = .error f := by
  induction h with
  | passed => simp
  | raised _ _ ho => exact List.forall_mem_singleton.mpr ⟨_, ho⟩
  | passedOn _ _ ho ih =>
    exact List.forall_mem_append.mpr ⟨ih, List.forall_mem_singleton.mpr ⟨_, ho⟩⟩

theorem Ends.depths (h : e.Ends d r vs) :
    vs.map Visit.depth = (List.range' d vs.length).reverse := by
  induction h with
  | passed => rfl
  | raised hd _ _ => simp [hd]
  | passedOn hd _ _ ih => simp [hd, ih, List.range'_succ]

end Setup

end TapScript
