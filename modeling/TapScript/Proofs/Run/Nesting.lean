import TapScript.Proofs.Run.Parallel
import TapScript.Proofs.Run.Records

/-! # The depth of scripts

Scripts may include themselves and each other, but only down to a depth. A command that would run
one below that is refused before any file is looked for. So the recursion through scripts comes to
an end whatever the files hold, and it has one meaning.
-/

namespace TapScript

variable {σ ε : Type}

/-- A fault that says that scripts lie too deep. -/
def Fault.IsTooDeep : Fault → Prop
  | problem (.nestedTooDeep _) _ => True
  | _ => False

theorem Fault.not_isTooDeep {p : Problem} {at_ : Place} (h : p.category ≠ .script) :
    ¬ (problem p at_).IsTooDeep := by
  intro ht
  cases p <;> first | exact ht | exact h rfl

theorem scriptPath_error {t : FileTree} {name : String} {parent : Option Path} {f : Fault}
    (h : scriptPath t name parent = .error f) : ∃ m, f = .mishap m := by
  obtain h | ⟨path, -, h⟩ := Outcome.bind_eq_error.mp h
  · obtain ⟨m, -, rfl⟩ := Outcome.mapError_eq_error.mp h
    exact ⟨m, rfl⟩
  split at h
  · cases h
  obtain h | ⟨found, -, h⟩ := Outcome.bind_eq_error.mp h
  · obtain ⟨x, -, rfl⟩ := Outcome.mapError_eq_error.mp h
    exact ⟨.file x, rfl⟩
  cases found with
  | true => cases h
  | false =>
    cases parent with
    | none => cases h
    | some p =>
      obtain h | ⟨found, -, h⟩ := Outcome.bind_eq_error.mp h
      · obtain ⟨x, -, rfl⟩ := Outcome.mapError_eq_error.mp h
        exact ⟨.file x, rfl⟩
      · cases h

theorem Registry.not_isTooDeep_of_prepare {t : FileTree} {g g' : Registry} {cs : List Command}
    {f : Fault} (h : Registry.prepare t cs g = (.error f, g')) : ¬ f.IsTooDeep := by
  obtain ⟨_, _, _, _, _, -, -, -, -, -, ⟨p, hp, -, rfl⟩ | ⟨m, rfl, rfl⟩⟩ :=
    Registry.failsAt_of_prepare h
  · exact Fault.not_isTooDeep (by rw [hp]; decide)
  · exact id

namespace Setup

open Engine Procedure

variable (e : Setup σ ε)

/-- Reads a script, loads its libraries, and runs its commands. -/
def readAndRun (run : List Command → Engine σ ε Unit) (path : Path) : Engine σ ε Unit := do
  let s ← Script.load (← get).world.files path
  prepare s.commands
  run s.commands

/-- How a command at a depth runs another script: one level deeper, if that is allowed. -/
def including (run : Nat → List Command → Engine σ ε Unit) (d : Nat) : Nested σ ε :=
  if e.execution.maxDepth ≤ d then none else some (readAndRun (run (d + 1)))

/-- Whether a function runs commands at each depth, those of included scripts by calling itself. -/
def Recurs (run : Nat → List Command → Engine σ ε Unit) : Prop :=
  ∀ d cs, run d cs = cs.forM (e.perform (e.including run d) d)

/-- The levels of other scripts that are allowed below a depth. -/
def levelsBelow (d : Nat) : Nat :=
  (e.execution.maxDepth - d).toNat

variable {e} {n d : Nat} {script cs : List Command} {c : Command} {s s' : RunState σ ε}
  {F G : Forest (Visit σ ε)} {r : Except Fault Unit} {v : Visit σ ε} {f : Fault} {sc : Script}
  {run : Nat → List Command → Engine σ ε Unit}

theorem levelsBelow_of_le (h : e.execution.maxDepth ≤ d) : e.levelsBelow d = 0 := by
  unfold levelsBelow
  omega

theorem levelsBelow_of_lt (h : (d : Int) < e.execution.maxDepth) :
    e.levelsBelow d = e.levelsBelow (d + 1) + 1 := by
  unfold levelsBelow
  omega

theorem levelsBelow_zero : e.levelsBelow 0 = e.levels := by
  simp [levelsBelow, levels]

theorem including_of_le (h : e.execution.maxDepth ≤ d) : e.including run d = none :=
  if_pos h

theorem including_of_lt (h : (d : Int) < e.execution.maxDepth) :
    e.including run d = some (readAndRun (run (d + 1))) :=
  if_neg (by omega)

theorem recurs_execute (e : Setup σ ε) : e.Recurs fun d => e.execute (e.levelsBelow d) d := by
  intro d cs
  change e.execute (e.levelsBelow d) d cs = _
  rw [execute_eq_forM]
  by_cases h : e.execution.maxDepth ≤ d
  · rw [including_of_le h, levelsBelow_of_le h]
    rfl
  · have h : (d : Int) < e.execution.maxDepth := by omega
    rw [including_of_lt h, levelsBelow_of_lt h]
    rfl

/-- The depth that is left decreases with each script that is included. -/
theorem Recurs.eq_execute (h : e.Recurs run) (d : Nat) : run d = e.execute (e.levelsBelow d) d := by
  induction hn : e.levelsBelow d generalizing d with
  | zero =>
    funext cs
    have hd : e.execution.maxDepth ≤ d := by
      unfold levelsBelow at hn
      omega
    rw [h, including_of_le hd, execute_eq_forM]; rfl
  | succ n ih =>
    funext cs
    have hd : (d : Int) < e.execution.maxDepth := by
      unfold levelsBelow at hn
      omega
    rw [levelsBelow_of_lt hd] at hn
    rw [h, including_of_lt hd, execute_eq_forM, ih (d + 1) (Nat.succ.inj hn)]
    rfl

theorem Runs.levels_add_depth (h : e.Runs n d script cs s F r s') :
    ∀ v ∈ F.preorder, v.levels + v.depth = n + d := by
  induction h with
  | done => simp [Forest.preorder]
  | passed hv _ _ _ ih =>
    subst hv
    exact List.forall_mem_cons.mpr ⟨rfl, ih⟩
  | failed hv _ _ =>
    subst hv
    exact List.forall_mem_singleton.mpr rfl
  | included hv _ _ _ _ _ ihG ih =>
    subst hv
    refine List.forall_mem_cons.mpr ⟨rfl, List.forall_mem_append.mpr ⟨fun u hu => ?_, ih⟩⟩
    rw [ihG u hu]
    omega
  | interrupted hv _ _ _ _ ihG =>
    subst hv
    refine List.forall_mem_cons.mpr ⟨rfl, List.forall_mem_append.mpr ⟨fun u hu => ?_, ?_⟩⟩
    · rw [ihG u hu]
      omega
    · simp [Forest.preorder]

/-- Below the limit a script that cannot be opened is not said to lie too deep. -/
theorem opening_error (h : (e.opening (n + 1) c).run s = (.error f, s')) : ¬ f.IsTooDeep := by
  unfold opening at h
  split at h
  · cases h
    exact id
  · next hz _ => cases hz
  · obtain h | ⟨_, _, ⟨⟩, h⟩ := run_bind_eq_error.mp h
    · cases h
    obtain h | ⟨path, _, -, h⟩ := run_bind_eq_error.mp h
    · obtain ⟨m, rfl⟩ := scriptPath_error (congrArg Prod.fst h)
      exact id
    obtain h | ⟨found, _, -, h⟩ := run_bind_eq_error.mp h
    · obtain ⟨x, -, rfl⟩ := Outcome.mapError_eq_error.mp (congrArg Prod.fst h)
      exact id
    cases found with
    | false =>
      cases h
      exact id
    | true =>
      obtain h | ⟨sc, s₁, -, h⟩ := run_bind_eq_error.mp h
      · obtain ⟨m, rfl⟩ | ⟨_, rfl⟩ := Script.load_error (congrArg Prod.fst h)
        · exact id
        · exact id
      obtain h | ⟨_, _, -, h⟩ := run_bind_eq_error.mp h
      · obtain ⟨x, g, hp, hr⟩ | ⟨ls, g, -, hr⟩ := prepare_run_cases sc.commands s₁
        · rw [hr] at h
          cases h
          exact Registry.not_isTooDeep_of_prepare hp
        · rw [hr] at h
          cases h
      · cases h

variable {st s₂ : RunState σ ε} {main : Script}

theorem History.levels_add_depth (h : e.History main st F r s₂) :
    ∀ v ∈ F.preorder, v.levels + v.depth = e.levels := by
  cases h with
  | unprepared failed => simp [Forest.preorder]
  | prepared loaded runs => exact runs.levels_add_depth

theorem History.levels_eq (h : e.History main st F r s₂) (hv : v ∈ F.preorder) :
    v.levels = e.levelsBelow v.depth := by
  have hl := h.levels_add_depth v hv
  unfold levels at hl
  unfold levelsBelow
  omega

theorem History.dispatch_run (h : e.History main st F r s₂) (hv : v ∈ F.preorder) :
    (e.dispatch (e.nested v.levels v.depth) v.command).run v.before = (v.outcome, v.after) := by
  obtain ⟨s₀, h₀⟩ := h.exists_visit v hv
  rw [← h₀]
  rfl

/-- A script of which no command is run has none, and passes. -/
theorem Runs.ok_of_nil (h : e.Runs n d script cs s .nil r s') : r = .ok () := by
  generalize hF : Forest.nil = F at h
  cases h with
  | done => rfl
  | passed _ _ _ _ | failed _ _ _ | included _ _ _ _ _ _ | interrupted _ _ _ _ _ => cases hF

theorem execute_of_opening (hv : e.visit (n + 1) d script c s = v)
    (hb : c.builtin? = some .runScript) (ho : (e.opening (n + 1) c).run v.before = (.ok sc, s')) :
    (e.execute n (d + 1) sc.commands).run s' = (v.outcome, v.after) := by
  subst hv
  exact visit_of_opening hb ho

variable (e F) in
/-- How the depth of scripts is limited in a run. A script that is included is run one level
deeper, and only the commands that would go below the limit are refused. -/
structure Limited : Prop where
  depth : ∀ v ∈ F.preorder, (v.depth : Int) ≤ max 0 e.execution.maxDepth
  refused : ∀ v G, (v, G) ∈ F.trees → v.command.builtin? = some .runScript →
    v.command.args ≠ [] → e.execution.maxDepth ≤ v.depth →
      e.dispatch (e.nested v.levels v.depth) v.command =
        throw (v.command.fault (.nestedTooDeep e.execution.maxDepth)) ∧
      v.outcome = .error (v.command.fault (.nestedTooDeep e.execution.maxDepth)) ∧
      v.after = v.before ∧ G = .nil
  allowed : ∀ v G, (v, G) ∈ F.trees → v.command.builtin? = some .runScript →
    (v.depth : Int) < e.execution.maxDepth →
      (G = .nil → ∀ f, v.outcome = .error f → ¬ f.IsTooDeep) ∧
      ∀ sc s₁, v.command.LeadsTo v.before.world.files sc →
        (prepare sc.commands).run v.before = (.ok (), s₁) →
        (e.execute (e.levelsBelow (v.depth + 1)) (v.depth + 1) sc.commands).run s₁ =
          (v.outcome, v.after)
  others : ∀ v ∈ F.preorder, v.command.builtin? ≠ some .runScript → ∀ nested,
    (e.dispatch nested v.command).run v.before = (v.outcome, v.after)

theorem History.limited (h : e.History main st F r s₂) : e.Limited F where
  depth v hv := by
    have hl := h.levels_add_depth v hv
    unfold levels at hl
    omega
  refused v G hG hb hc hd := by
    have hv := Forest.mem_preorder_of_trees hG
    have hn : v.levels = 0 := (h.levels_eq hv).trans (levelsBelow_of_le hd)
    have ht : e.dispatch (e.nested v.levels v.depth) v.command =
        throw (v.command.fault (.nestedTooDeep e.execution.maxDepth)) := by
      rw [hn]
      exact dispatch_tooDeep hb hc
    have hr := h.dispatch_run hv
    rw [ht] at hr
    obtain ⟨ho, ha⟩ := Prod.ext_iff.mp hr
    refine ⟨ht, ho.symm, ha.symm, ?_⟩
    cases h.trees_below _ hG with
    | alone _ => rfl
    | opened levels _ _ _ =>
      rw [hn] at levels
      cases levels
  allowed v G hG hb hd := by
    have hv := Forest.mem_preorder_of_trees hG
    have hn := (h.levels_eq hv).trans (levelsBelow_of_lt hd)
    obtain ⟨s₀, h₀⟩ := h.exists_visit v hv
    rw [hn] at h₀
    refine ⟨fun hnil f hf => ?_, fun sc s₁ hl hp => ?_⟩
    · cases h.trees_below _ hG with
      | alone alone =>
        obtain ⟨f', s', ho⟩ := alone hb
        rw [hn] at ho
        rw [(visit_of_opening_error h₀ hb ho).1] at hf
        cases hf
        exact opening_error ho
      | opened _ _ _ runs =>
        subst hnil
        rw [hf] at runs
        cases runs.ok_of_nil
    · have ho := (opening_of_leadsTo (e := e) (n := e.levelsBelow (v.depth + 1)) hl).trans
        (run_bind_ok hp)
      exact execute_of_opening h₀ hb ho
  others v hv hb nested := by
    rw [dispatch_eq hb (e.nested v.levels v.depth)]
    exact h.dispatch_run hv

end Setup

end TapScript
