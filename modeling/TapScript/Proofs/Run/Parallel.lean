import TapScript.Proofs.Run.Progress
import TapScript.Proofs.Script.Reading

/-! # Runs side by side

From two states that differ in nothing but what they have recorded and which libraries they have
loaded so far, the same commands do the same, at whatever depths they are run. The two histories
then have the same shape, and each visit of the one has its twin in the other.
-/

namespace TapScript

variable {σ ε α β : Type}

/-- The line of output that a notice gives. -/
def Notice.line? : Notice → Option String
  | .said line => some line
  | _ => none

/-- The output of a run so far. -/
def RunState.output (s : RunState σ ε) : List String :=
  s.notices.filterMap Notice.line?

/-- Two states with the same world and output so far. Their registries may hold different
libraries, but agree with a third one on what the files give. -/
structure Alike (t : FileTree) (g : Registry) (s s' : RunState σ ε) : Prop where
  world : s'.world = s.world
  current : s'.current = s.current
  output : s'.output = s.output
  registry : g.Agrees t s.registry
  registry' : g.Agrees t s'.registry

variable {t : FileTree} {g : Registry} {P Q : FileTree → Prop} {s s' : RunState σ ε}

theorem Alike.refl (h : g.Agrees t s.registry) : Alike t g s s :=
  ⟨rfl, rfl, rfl, h, h⟩

theorem Alike.starting (h : Alike t g s s') (c : Command) (d d' : Nat) :
    Alike t g (s.starting c d) (s'.starting c d') where
  world := h.world
  current := h.current
  output := by
    have ho := h.output
    simp only [RunState.output, RunState.starting, List.filterMap_append] at ho ⊢
    rw [ho]
    rfl
  registry := h.registry
  registry' := h.registry'

namespace Engine

open Procedure

/-- Whether a part of a run does the same from states that are alike and have such files. -/
def Steady (t : FileTree) (g : Registry) (P : FileTree → Prop) (m : Engine σ ε α) : Prop :=
  ∀ s s', Alike t g s s' → P s.world.files →
    (m.run s').1 = (m.run s).1 ∧ Alike t g (m.run s).2 (m.run s').2

theorem Steady.of_imp {m : Engine σ ε α} (hm : Steady t g P m) (h : ∀ t', Q t' → P t') :
    Steady t g Q m := fun s s' hs hq =>
  hm s s' hs (h _ hq)

theorem steady_lift (r : Except Fault α) : Steady t g P (liftM r : Engine σ ε α) :=
  fun _ _ hs _ => ⟨rfl, hs⟩

theorem steady_pure (a : α) : Steady t g P (pure a : Engine σ ε α) :=
  fun _ _ hs _ => ⟨rfl, hs⟩

theorem steady_throw (f : Fault) : Steady t g P (throw f : Engine σ ε α) :=
  fun _ _ hs _ => ⟨rfl, hs⟩

theorem steady_act (a : Act σ α) : Steady t g P (act a : Engine σ ε α) := by
  intro s s' hs _
  rw [run_act, run_act, hs.world]
  exact ⟨rfl, rfl, hs.current, hs.output, hs.registry, hs.registry'⟩

theorem steady_said (line : String) : Steady t g P (note (.said line) : Engine σ ε Unit) := by
  intro s s' hs _
  refine ⟨rfl, hs.world, hs.current, ?_, hs.registry, hs.registry'⟩
  have ho := hs.output
  simp only [RunState.output, run_note, List.filterMap_append] at ho ⊢
  rw [ho]

theorem steady_loadLibrary {segments : List String} (hp : Registry.IsPlain segments) :
    Steady t g (· = t) (loadLibrary segments : Engine σ ε Library) := by
  intro s s' hs ht
  have hk := hs.registry.cacheKey'
  have hk' := hs.registry'.cacheKey'
  rw [run_loadLibrary, run_loadLibrary, hs.world, ht]
  refine ⟨?_, rfl, hs.current, hs.output, ?_, ?_⟩
  · exact (hs.registry'.load _ hp).trans (hs.registry.load _ hp).symm
  · exact hs.registry.trans (Registry.agrees_load hk hp)
  · exact hs.registry'.trans (Registry.agrees_load hk' hp)

theorem steady_prepare {cs : List Command} (hp : ∀ c ∈ cs, Registry.IsPlain c.library) :
    Steady t g (· = t) (prepare cs : Engine σ ε Unit) := by
  intro s s' hs ht
  have ha := hs.registry.symm.trans hs.registry'
  rw [run_prepare, run_prepare, hs.world, ht, ha.prepare_eq hp]
  refine ⟨rfl, rfl, hs.current, hs.output, ?_, ?_⟩
  · exact hs.registry.trans (Registry.agrees_prepare ha.cacheKey hp)
  · exact hs.registry'.trans (Registry.agrees_prepare ha.cacheKey' hp)

theorem Steady.bind {m : Engine σ ε α} {f : α → Engine σ ε β} (hm : Steady t g P m)
    (hf : ∀ a, Steady t g (fun _ => True) (f a)) : Steady t g P (m >>= f) := by
  intro s s' hs hp
  obtain ⟨ho, ha⟩ := hm s s' hs hp
  rw [run_bind, run_bind]
  rcases h : m.run s with ⟨x, s₁⟩
  rcases h' : m.run s' with ⟨x', s₁'⟩
  rw [h, h'] at ho ha
  obtain rfl : x' = x := ho
  cases x' with
  | error f => exact ⟨rfl, ha⟩
  | ok a => exact hf a s₁ s₁' ha trivial

/-- What comes after a computation without a state has the same files still. -/
theorem Steady.lift_bind {r : Except Fault α} {f : α → Engine σ ε β}
    (hf : ∀ a, r = .ok a → Steady t g P (f a)) : Steady t g P (liftM r >>= f) := by
  intro s s' hs hp
  cases r with
  | error x => exact ⟨rfl, hs⟩
  | ok a => exact hf a rfl s s' hs hp

theorem Steady.get_bind {f : RunState σ ε → Engine σ ε α}
    (he : ∀ s s', Alike t g s s' → f s' = f s)
    (hf : ∀ s, P s.world.files → Steady t g P (f s)) : Steady t g P (get >>= f) := by
  intro s s' hs hp
  simp only [run_bind, run_get]
  rw [he s s' hs]
  exact hf s hp s s' hs hp

theorem steady_forM {as : List α} {f : α → Engine σ ε Unit}
    (h : ∀ a, Steady t g (fun _ => True) (f a)) : Steady t g (fun _ => True) (as.forM f) := by
  induction as with
  | nil => exact steady_pure ()
  | cons a as ih => exact (h a).bind fun _ => ih

end Engine

namespace Setup

open Engine Procedure

variable {e : Setup σ ε} {c : Command}

theorem steady_runSleep : Steady t g (fun _ => True) (e.runSleep c) := by
  unfold runSleep
  split
  · exact steady_throw _
  · refine (steady_lift _).bind fun value => ?_
    refine (steady_lift _).bind fun written => ?_
    split
    · exact steady_act _
    · exact steady_throw _

theorem steady_callLibrary (hp : Registry.IsPlain c.library) :
    Steady t g (· = t) (e.callLibrary c) := by
  unfold callLibrary
  split
  · exact steady_throw _
  · refine (steady_loadLibrary hp).bind fun l => ?_
    refine (steady_lift _).bind fun _ => ?_
    refine (steady_lift _).bind fun args => ?_
    refine (steady_lift _).bind fun _ => ?_
    refine (steady_act _).bind fun _ => ?_
    exact Steady.get_bind (fun s s' hs => by rw [hs.current]) fun s _ => steady_act _

/-- A command that runs no other script is dispatched alike at every depth. -/
theorem dispatch_eq (h : c.builtin? ≠ some .runScript) (nested nested' : Nested σ ε) :
    e.dispatch nested' c = e.dispatch nested c := by
  unfold dispatch
  split
  · rfl
  · rfl
  · exact absurd ‹_› h
  · rfl
  · rfl
  · rfl
  · rfl

theorem steady_dispatch (h : c.builtin? ≠ some .runScript) (hp : Registry.IsPlain c.library)
    (nested : Nested σ ε) : Steady t g (· = t) (e.dispatch nested c) := by
  unfold dispatch
  split
  · exact steady_runSleep.of_imp fun _ _ => trivial
  · exact (steady_forM fun _ => steady_said _).of_imp fun _ _ => trivial
  · exact absurd ‹_› h
  · exact (steady_act _).bind fun _ => steady_pure _
  · exact (steady_act _).bind fun _ => steady_pure _
  · exact (steady_act _).bind fun _ => steady_pure _
  · exact (steady_callLibrary hp).bind fun _ => steady_pure _

/-- A script is opened alike at all levels above the deepest. -/
theorem opening_eq {n n' : Nat} (h : c.args ≠ [] → n ≠ 0) (hn : n ≤ n') :
    e.opening n' c = e.opening n c := by
  unfold opening
  cases hc : c.args with
  | nil => rfl
  | cons name rest =>
    obtain ⟨k, rfl⟩ := Nat.exists_eq_succ_of_ne_zero (h (by simp [hc]))
    obtain ⟨k', rfl⟩ := Nat.exists_eq_succ_of_ne_zero (show n' ≠ 0 by omega)
    rfl

theorem steady_opening (n : Nat) : Steady t g (· = t) (e.opening n c) := by
  unfold opening
  split
  · exact steady_throw _
  · exact steady_throw _
  · refine Steady.get_bind (fun s s' hs => by rw [hs.world]) fun s _ => ?_
    refine Steady.lift_bind fun path _ => ?_
    refine Steady.lift_bind fun found _ => ?_
    split
    · refine Steady.lift_bind fun sc hsc => ?_
      exact (steady_prepare (Script.isPlain_of_load hsc)).bind fun _ => steady_pure _
    · exact steady_throw _

end Setup

/-- Two forests of the same shape, whose labels are related one by one. -/
inductive Forest.Pairs (R : α → β → Prop) : Forest α → Forest β → Prop
  | nil : Pairs R .nil .nil
  | cons {a b G G' F F'} (root : R a b) (below : Pairs R G G') (rest : Pairs R F F') :
      Pairs R (.cons a G F) (.cons b G' F')

theorem Forest.Pairs.map_postorder {γ : Type} {R : α → β → Prop} {F : Forest α} {F' : Forest β}
    {f : α → γ} {f' : β → γ} (h : Pairs R F F') (hf : ∀ a b, R a b → f' b = f a) :
    F'.postorder.map f' = F.postorder.map f := by
  induction h with
  | nil => rfl
  | cons root _ _ ihG ihF => simp [Forest.postorder, ihG, ihF, hf _ _ root]

/-- Two visits of the same command, the first so many levels deeper, in which the same is done. -/
structure Visit.Twin (t : FileTree) (g : Registry) (k : Nat) (v v' : Visit σ ε) : Prop where
  command : v'.command = v.command
  depth : v.depth = v'.depth + k
  before : Alike t g v.before v'.before
  outcome : v'.outcome = v.outcome
  after : Alike t g v.after v'.after

/-- Whether a command is dispatched with the files as they were, and not at the deepest level if
it is to run another script. -/
structure Visit.Undisturbed (t : FileTree) (v : Visit σ ε) : Prop where
  files : v.before.world.files = t
  levels : v.command.builtin? = some .runScript → v.command.args ≠ [] → v.levels ≠ 0

namespace Visit.Twin

variable {e : Setup σ ε} {k : Nat} {v v' : Visit σ ε}

/-- Twins are recorded alike but for their depths. -/
theorem record_eq (h : Twin t g k v v') :
    v.record e = { v'.record e with depth := (v'.record e).depth + k } := by
  simp only [Visit.record, Visit.result, h.command, h.outcome, h.before.world, h.after.world,
    h.depth]

theorem ended (h : Twin t g k v v') : Alike t g (v.ended e) (v'.ended e) where
  world := h.after.world
  current := h.after.current
  output := by
    have ho := h.after.output
    simp only [RunState.output, Visit.ended, List.filterMap_append] at ho ⊢
    rw [ho]
    rfl
  registry := h.after.registry
  registry' := h.after.registry'

end Visit.Twin

namespace Setup

open Engine Procedure

variable {e : Setup σ ε} {n n' d d' k : Nat} {script script' cs : List Command} {c : Command}
  {s₁ s₁' : RunState σ ε} {F : Forest (Visit σ ε)} {r : Except Fault Unit} {v v' : Visit σ ε}
  {f : Fault} {sc : Script}

/-- The opening of a script by twins, of which the one at the higher level is no deeper. -/
theorem opening_twin {x : Except Fault Script} (hv : e.visit n d script c s = v)
    (hv' : e.visit n' d' script' c s' = v') (hb : c.builtin? = some .runScript) (hn : n ≤ n')
    (hu : v.Undisturbed t) (hs : Alike t g s s') (ho : (e.opening n c).run v.before = (x, s₁)) :
    ∃ s₁', (e.opening n' c).run v'.before = (x, s₁') ∧ Alike t g s₁ s₁' := by
  subst hv hv'
  have hst := steady_opening (e := e) (c := c) n _ _ (hs.starting c d d') hu.files
  have ho : (e.opening n c).run (s.starting c d) = (x, s₁) := ho
  have he : e.opening n' c = e.opening n c := opening_eq (fun ha => hu.levels hb ha) hn
  rw [ho] at hst
  rw [he]
  exact ⟨((e.opening n c).run (s'.starting c d')).2, Prod.ext hst.1 rfl, hst.2⟩

/-- A command that comes to run no other script has a twin from every state that is alike. -/
theorem alone_twin (hv : e.visit n (d' + k) script c s = v)
    (hv' : e.visit n' d' script' c s' = v') (hn : n ≤ n') (hp : Registry.IsPlain c.library)
    (hu : v.Undisturbed t) (hs : Alike t g s s') (ha : e.Alone n c v.before) :
    v.Twin t g k v' ∧ e.Alone n' c v'.before := by
  by_cases hb : c.builtin? = some .runScript
  · obtain ⟨f, s₁, ho⟩ := ha hb
    obtain ⟨s₁', ho', hs₁⟩ := opening_twin hv hv' hb hn hu hs ho
    obtain ⟨hx, hl⟩ := visit_of_opening_error hv hb ho
    obtain ⟨hx', hl'⟩ := visit_of_opening_error hv' hb ho'
    refine ⟨?_, fun _ => ⟨f, s₁', ho'⟩⟩
    rw [← hl, ← hl'] at hs₁
    subst hv hv'
    exact ⟨rfl, rfl, hs.starting c _ _, hx'.trans hx.symm, hs₁⟩
  · refine ⟨?_, fun h => absurd h hb⟩
    subst hv hv'
    obtain ⟨ho, hl⟩ := steady_dispatch hb hp (e.nested n (d' + k)) _ _
      (hs.starting c (d' + k) d') hu.files
    have he : e.dispatch (e.nested n' d') c = e.dispatch (e.nested n (d' + k)) c :=
      dispatch_eq hb _ _
    refine ⟨rfl, rfl, hs.starting c _ _, ?_, ?_⟩
    · change ((e.dispatch (e.nested n' d') c).run _).1 = _
      rw [he]
      exact ho
    · change Alike t g _ ((e.dispatch (e.nested n' d') c).run _).2
      rw [he]
      exact hl

theorem isPlain_of_opening (h : (e.opening n c).run s = (.ok sc, s')) :
    ∀ b ∈ sc.commands, Registry.IsPlain b.library := by
  obtain ⟨-, _, _, _, -, -, -, hl⟩ := leadsTo_of_opening h
  exact Script.isPlain_of_load hl

/-- A command that runs another script has a twin if what it runs is run alike. -/
theorem included_twin {s₂' s₃' : RunState σ ε} {G' : Forest (Visit σ ε)}
    (hv : e.visit n (d' + k) script c s = v) (hv' : e.visit (n' + 1) d' script' c s' = v')
    (hb : c.builtin? = some .runScript) (hs : Alike t g s s')
    (ho : (e.opening (n' + 1) c).run v'.before = (.ok sc, s₂'))
    (hG : e.Runs n' (d' + 1) sc.commands sc.commands s₂' G' v.outcome s₃')
    (hl : Alike t g v.after s₃') : v.Twin t g k v' ∧ v'.after = s₃' := by
  have he := hG.execute_run
  subst hv hv'
  have hd : (e.execute n' (d' + 1) sc.commands).run s₂' =
      ((e.visit (n' + 1) d' script' c s').outcome, (e.visit (n' + 1) d' script' c s').after) :=
    visit_of_opening hb ho
  rw [hd] at he
  obtain ⟨hx, rfl⟩ := Prod.ext_iff.mp he
  exact ⟨⟨rfl, rfl, hs.starting c _ _, hx, hl⟩, rfl⟩

/-- Undisturbed commands are run alike from all states that are alike, at all depths that leave
them as many levels or more. -/
theorem Runs.twin (h : e.Runs n (d' + k) script cs s F r s₁) (script' : List Command)
    (hu : ∀ v ∈ F.preorder, v.Undisturbed t) (hp : ∀ c ∈ cs, Registry.IsPlain c.library)
    (hn : n ≤ n') (hs : Alike t g s s') : ∃ F' s₁', e.Runs n' d' script' cs s' F' r s₁' ∧
      F.Pairs (Visit.Twin t g k) F' ∧ Alike t g s₁ s₁' := by
  generalize hd : d' + k = d at h
  induction h generalizing n' d' script' s' with
  | done => exact ⟨.nil, s', .done, .nil, hs⟩
  | @passed n d script c cs s v F r s₁ hv ha ho _ ih =>
    subst hd
    obtain ⟨hc, hcs⟩ := List.forall_mem_cons.mp hp
    obtain ⟨hu, hus⟩ := List.forall_mem_cons.mp hu
    obtain ⟨hw, ha'⟩ := alone_twin hv (rfl : e.visit n' d' script' c s' = _) hn hc hu hs ha
    obtain ⟨F', s₁', hF, hP, hl⟩ := ih script' hus hcs hn hw.ended rfl
    exact ⟨_, s₁', .passed rfl ha' (hw.outcome.trans ho) hF, .cons hw .nil hP, hl⟩
  | @failed n d script c cs s v f hv ha ho =>
    subst hd
    obtain ⟨hc, -⟩ := List.forall_mem_cons.mp hp
    obtain ⟨hu, -⟩ := List.forall_mem_cons.mp hu
    obtain ⟨hw, ha'⟩ := alone_twin hv (rfl : e.visit n' d' script' c s' = _) hn hc hu hs ha
    exact ⟨_, _, .failed rfl ha' (hw.outcome.trans ho), .cons hw .nil .nil, hw.ended⟩
  | @included n d script c cs s v sc s₂ G F r s₁ hv hb hop _ ho _ ihG ih =>
    subst hd
    obtain ⟨m, rfl⟩ := Nat.exists_eq_succ_of_ne_zero (show n' ≠ 0 by omega)
    obtain ⟨-, hcs⟩ := List.forall_mem_cons.mp hp
    obtain ⟨hu, hus⟩ := List.forall_mem_cons.mp hu
    obtain ⟨huG, huF⟩ := List.forall_mem_append.mp hus
    obtain ⟨s₂', hop', hs₂⟩ :=
      opening_twin hv (rfl : e.visit (m + 1) d' script' c s' = _) hb hn hu hs hop
    obtain ⟨G', s₃', hG, hPG, hs₃⟩ := ihG sc.commands huG (isPlain_of_opening hop)
      (Nat.le_of_succ_le_succ hn) hs₂ (Nat.add_right_comm d' 1 k)
    obtain ⟨hw, rfl⟩ := included_twin hv rfl hb hs hop' hG hs₃
    obtain ⟨F', s₁', hF, hP, hl⟩ := ih script' huF hcs hn hw.ended rfl
    rw [← hw.outcome] at hG
    exact ⟨_, s₁', .included rfl hb hop' hG (hw.outcome.trans ho) hF, .cons hw hPG hP, hl⟩
  | @interrupted n d script c cs s v sc s₂ G f hv hb hop _ ho ihG =>
    subst hd
    obtain ⟨m, rfl⟩ := Nat.exists_eq_succ_of_ne_zero (show n' ≠ 0 by omega)
    obtain ⟨hu, hus⟩ := List.forall_mem_cons.mp hu
    obtain ⟨huG, -⟩ := List.forall_mem_append.mp hus
    obtain ⟨s₂', hop', hs₂⟩ :=
      opening_twin hv (rfl : e.visit (m + 1) d' script' c s' = _) hb hn hu hs hop
    obtain ⟨G', s₃', hG, hPG, hs₃⟩ := ihG sc.commands huG (isPlain_of_opening hop)
      (Nat.le_of_succ_le_succ hn) hs₂ (Nat.add_right_comm d' 1 k)
    obtain ⟨hw, rfl⟩ := included_twin hv rfl hb hs hop' hG hs₃
    rw [← hw.outcome] at hG
    exact ⟨_, _, .interrupted rfl hb hop' hG (hw.outcome.trans ho), .cons hw hPG .nil, hw.ended⟩

end Setup

end TapScript
