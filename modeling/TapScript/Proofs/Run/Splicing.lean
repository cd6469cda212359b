import TapScript.Proofs.Run.Attribution
import TapScript.Proofs.Run.Parallel
import TapScript.Proofs.Run.Transcript

/-! # Scripts in place of their inclusion

A command that runs another script does what the commands of that script do in its place. For the
driver, the library routines and the output there is no difference, and none in how the run ends.
In the records the command itself is missing, and those of the other script stand a level higher.
-/

namespace TapScript

variable {σ ε α β : Type}

namespace Forest

/-- The trees of two forests, those of the first before those of the second. -/
def append : Forest α → Forest α → Forest α
  | nil, F => F
  | cons a below rest, F => cons a below (rest.append F)

instance : Append (Forest α) := ⟨append⟩

variable {F F' : Forest α}

@[simp] theorem nil_append : (nil ++ F : Forest α) = F := rfl

@[simp] theorem cons_append {a : α} {G : Forest α} : cons a G F ++ F' = cons a G (F ++ F') := rfl

@[simp] theorem append_nil : F ++ nil = F := by
  induction F with
  | nil => rfl
  | cons a G F _ ih => rw [cons_append, ih]

theorem append_assoc {F'' : Forest α} : F ++ F' ++ F'' = F ++ (F' ++ F'') := by
  induction F with
  | nil => rfl
  | cons a G F _ ih => rw [cons_append, cons_append, cons_append, ih]

@[simp] theorem preorder_append : (F ++ F').preorder = F.preorder ++ F'.preorder := by
  induction F with
  | nil => rfl
  | cons a G F _ ih => simp [preorder, ih]

@[simp] theorem postorder_append : (F ++ F').postorder = F.postorder ++ F'.postorder := by
  induction F with
  | nil => rfl
  | cons a G F _ ih => simp [postorder, ih]

end Forest

/-- The record of the same command one level deeper. -/
def CommandRecord.deeper (r : CommandRecord) : CommandRecord :=
  { r with depth := r.depth + 1 }

/-- Whether some records are others with that of a command added that runs another script, whose
records stand before it and a level deeper. -/
inductive Command.Adds (c : Command) (d : Nat) : List CommandRecord → List CommandRecord → Prop
  | nothing (rs) : c.Adds d rs rs
  | own (before included after) {r : CommandRecord} (line : r.line = c.line)
      (text : r.text = c.text) (source : r.source = c.source) (depth : r.depth = d) :
      c.Adds d (before ++ included.map .deeper ++ r :: after) (before ++ included ++ after)

/-- Whether a history is another one with that of a command added that runs another script, whose
commands stand below it. -/
inductive Command.Splices (c : Command) (t : FileTree) (g : Registry) (d : Nat) :
    Forest (Visit σ ε) → Forest (Visit σ ε) → Prop
  | unreached {P P'} (before : P.Pairs (Visit.Twin t g 0) P') : c.Splices t g d P P'
  | reached {P P' v G G' Q Q'} (command : v.command = c) (depth : v.depth = d)
      (before : P.Pairs (Visit.Twin t g 0) P') (included : G.Pairs (Visit.Twin t g 1) G')
      (after : Q.Pairs (Visit.Twin t g 0) Q') :
      c.Splices t g d (P ++ .cons v G Q) (P' ++ G' ++ Q')

variable {e : Setup σ ε} {t : FileTree} {g : Registry} {s s' s₁ s₂ : RunState σ ε}
  {v : Visit σ ε}

/-- To record a command changes nothing in which states must be alike. -/
theorem Alike.of_ended (h : Alike t g v.after s') : Alike t g (v.ended e) s' where
  world := h.world
  current := h.current
  output := by
    rw [h.output]
    simp [RunState.output, Visit.ended, Notice.line?]
  registry := h.registry
  registry' := h.registry'

namespace Setup

open Engine Procedure

variable {n d : Nat} {script script' cs cs' pre post : List Command} {c : Command} {C : Script}
  {F F' : Forest (Visit σ ε)} {r : Except Fault Unit} {f : Fault}

theorem Runs.append (h : e.Runs n d script cs s F (.ok ()) s₁)
    (h' : e.Runs n d script cs' s₁ F' r s₂) : e.Runs n d script (cs ++ cs') s (F ++ F') r s₂ := by
  generalize hr : Except.ok () = r' at h
  induction h with
  | done => exact h'
  | passed hv ha ho _ ih => exact .passed hv ha ho (ih h' hr)
  | failed hv ha ho => cases hr
  | included hv hb hs hG ho _ _ ih => exact .included hv hb hs hG ho (ih h' hr)
  | interrupted hv hb hs hG ho _ => cases hr

theorem Runs.append_error (h : e.Runs n d script cs s F (.error f) s₁) :
    e.Runs n d script (cs ++ cs') s F (.error f) s₁ := by
  generalize hr : Except.error f = r' at h
  induction h with
  | done => cases hr
  | passed hv ha ho _ ih => exact .passed hv ha ho (ih hr)
  | failed hv ha ho => exact .failed hv ha ho
  | included hv hb hs hG ho _ _ ih => exact .included hv hb hs hG ho (ih hr)
  | interrupted hv hb hs hG ho _ => exact .interrupted hv hb hs hG ho

/-- Of two lists of commands one after the other, the first fails, or the second is run next. -/
theorem Runs.split (h : e.Runs n d script (cs ++ cs') s F r s₂) :
    (∃ f, r = .error f ∧ e.Runs n d script cs s F (.error f) s₂) ∨
    ∃ P Q s₁, F = P ++ Q ∧ e.Runs n d script cs s P (.ok ()) s₁ ∧
      e.Runs n d script cs' s₁ Q r s₂ := by
  generalize hc : cs ++ cs' = all at h
  induction h generalizing cs with
  | done =>
    obtain ⟨rfl, rfl⟩ := List.append_eq_nil_iff.mp hc
    exact Or.inr ⟨.nil, .nil, _, rfl, .done, .done⟩
  | passed hv ha ho hF ih =>
    rcases List.append_eq_cons_iff.mp hc with ⟨rfl, rfl⟩ | ⟨cs, rfl, rfl⟩
    · exact Or.inr ⟨.nil, _, _, rfl, .done, .passed hv ha ho hF⟩
    obtain ⟨f, rfl, h⟩ | ⟨P, Q, s₁, rfl, hP, hQ⟩ := ih rfl
    · exact Or.inl ⟨f, rfl, .passed hv ha ho h⟩
    · exact Or.inr ⟨_, Q, s₁, rfl, .passed hv ha ho hP, hQ⟩
  | failed hv ha ho =>
    rcases List.append_eq_cons_iff.mp hc with ⟨rfl, rfl⟩ | ⟨cs, rfl, rfl⟩
    · exact Or.inr ⟨.nil, _, _, rfl, .done, .failed hv ha ho⟩
    · exact Or.inl ⟨_, rfl, .failed hv ha ho⟩
  | included hv hb hs hG ho hF _ ih =>
    rcases List.append_eq_cons_iff.mp hc with ⟨rfl, rfl⟩ | ⟨cs, rfl, rfl⟩
    · exact Or.inr ⟨.nil, _, _, rfl, .done, .included hv hb hs hG ho hF⟩
    obtain ⟨f, rfl, h⟩ | ⟨P, Q, s₁, rfl, hP, hQ⟩ := ih rfl
    · exact Or.inl ⟨f, rfl, .included hv hb hs hG ho h⟩
    · exact Or.inr ⟨_, Q, s₁, rfl, .included hv hb hs hG ho hP, hQ⟩
  | interrupted hv hb hs hG ho _ =>
    rcases List.append_eq_cons_iff.mp hc with ⟨rfl, rfl⟩ | ⟨cs, rfl, rfl⟩
    · exact Or.inr ⟨.nil, _, _, rfl, .done, .interrupted hv hb hs hG ho⟩
    · exact Or.inl ⟨_, rfl, .interrupted hv hb hs hG ho⟩

/-- The fault of some commands stays as it is, whatever command runs them. -/
theorem Runs.placed_eq (h : e.Runs n d script cs s F (.error f) s₁) (p : Place) :
    f.placed p = f := by
  obtain ⟨_, _, -, -, he⟩ := h.ends
  obtain ⟨v, _, raised, -, -, -, rfl, -⟩ := he.raised_at
  exact Fault.placed_of_line (Fault.line_of_placed rfl)

/-- A script whose libraries can be loaded is opened. -/
theorem opening_of_loadable (hc : c.LeadsTo t C) (hn : n ≠ 0) (ht : s.world.files = t)
    (hg : g.Agrees t s.registry)
    (hl : ∀ b ∈ C.commands, b.library ≠ [] → ∃ l, (g.load t b.library).1 = .ok l) :
    ∃ r, (e.opening n c).run s = (.ok C, { s with registry := r }) ∧ g.Agrees t r := by
  obtain ⟨n, rfl⟩ := Nat.exists_eq_succ_of_ne_zero hn
  have hp : ∀ b ∈ C.commands, Registry.IsPlain b.library := by
    obtain ⟨_, _, _, -, -, -, h⟩ := hc
    exact Script.isPlain_of_load h
  obtain ⟨ls, r, hr⟩ := Registry.prepare_ok hg.cacheKey' hp fun b hb hn => by
    rw [hg.load b.library (hp b hb)]
    exact hl b hb hn
  have ha := Registry.agrees_prepare (t := t) hg.cacheKey' hp
  rw [hr] at ha
  subst ht
  exact ⟨r, (opening_of_leadsTo hc).trans (run_bind_ok (prepare_run_ok hr)), hg.trans ha⟩

/-- A command opens the script that it leads to, and then its commands are run as from the state
in which the command itself begins. -/
theorem opening_alike (hv : e.visit n d script c s = v) (hu : v.Undisturbed t)
    (hb : c.builtin? = some .runScript) (hc : c.LeadsTo t C)
    (hl : ∀ b ∈ C.commands, b.library ≠ [] → ∃ l, (g.load t b.library).1 = .ok l)
    (hs : Alike t g s s') : ∃ s₁, (e.opening n c).run v.before = (.ok C, s₁) ∧
      Alike t g s₁ s' := by
  subst hv
  have hargs : c.args ≠ [] := by
    obtain ⟨_, _, _, h, -⟩ := hc
    simp [h]
  obtain ⟨r, ho, hr⟩ := opening_of_loadable (e := e) (s := s.starting c d) hc
    (hu.levels hb hargs) hu.files hs.registry hl
  refine ⟨_, ho, hs.world, hs.current, ?_, hr, hs.registry'⟩
  rw [hs.output]
  simp [RunState.output, RunState.starting, Notice.line?]

/-- The commands of a script do the same in the place of a command that runs it. -/
theorem Runs.splice_head (h : e.Runs n d script (c :: post) s F r s₁)
    (hu : ∀ v ∈ F.preorder, v.Undisturbed t) (hp : ∀ b ∈ post, Registry.IsPlain b.library)
    (hb : c.builtin? = some .runScript) (hc : c.LeadsTo t C)
    (hl : ∀ b ∈ C.commands, b.library ≠ [] → ∃ l, (g.load t b.library).1 = .ok l)
    (hs : Alike t g s s') (script' : List Command) :
    ∃ v G G' Q Q' s₂, F = .cons v G Q ∧ v.command = c ∧ v.depth = d ∧
      G.Pairs (Visit.Twin t g 1) G' ∧ Q.Pairs (Visit.Twin t g 0) Q' ∧
      e.Runs n d script' (C.commands ++ post) s' (G' ++ Q') r s₂ ∧ Alike t g s₁ s₂ := by
  have hpC : ∀ b ∈ C.commands, Registry.IsPlain b.library := by
    obtain ⟨_, _, _, -, -, -, hC⟩ := hc
    exact Script.isPlain_of_load hC
  cases h with
  | passed hv ha _ _ | failed hv ha _ =>
    obtain ⟨_, ho, -⟩ := opening_alike hv (hu _ (by simp [Forest.preorder])) hb hc hl hs
    obtain ⟨f, _, ho'⟩ := ha hb
    rw [ho] at ho'
    cases ho'
  | @included n _ _ _ _ _ v sc s₀ G Q _ _ hv _ ho hG hok hQ =>
    obtain ⟨hv', hu⟩ := List.forall_mem_cons.mp hu
    obtain ⟨huG, huQ⟩ := List.forall_mem_append.mp hu
    obtain ⟨_, ho', hs₀⟩ := opening_alike hv hv' hb hc hl hs
    rw [ho] at ho'
    cases ho'
    obtain ⟨G', s₁', hG', hP, hl'⟩ :=
      hG.twin script' huG hpC (Nat.le_succ n) hs₀
    rw [hok] at hG'
    obtain ⟨Q', s₂, hQ', hPQ, hl''⟩ :=
      hQ.twin (k := 0) script' huQ hp (Nat.le_refl _) hl'.of_ended
    refine ⟨v, G, G', Q, Q', s₂, rfl, ?_, ?_, hP, hPQ, hG'.append hQ', hl''⟩
    · rw [← hv]; rfl
    · rw [← hv]; rfl
  | @interrupted n _ _ _ _ _ v sc s₀ G f hv _ ho hG herr =>
    obtain ⟨hv', hu⟩ := List.forall_mem_cons.mp hu
    obtain ⟨huG, -⟩ := List.forall_mem_append.mp hu
    obtain ⟨_, ho', hs₀⟩ := opening_alike hv hv' hb hc hl hs
    rw [ho] at ho'
    cases ho'
    obtain ⟨G', s₁', hG', hP, hl'⟩ :=
      hG.twin script' huG hpC (Nat.le_succ n) hs₀
    rw [herr] at hG hG'
    refine ⟨v, G, G', .nil, .nil, s₁', rfl, ?_, ?_, hP, .nil, ?_, hl'.of_ended⟩
    · rw [← hv]; rfl
    · rw [← hv]; rfl
    · rw [hG.placed_eq, Forest.append_nil]
      exact hG'.append_error

/-- The commands of a script do the same in the place of a command that runs it, among others. -/
theorem Runs.splice (h : e.Runs n d script (pre ++ c :: post) s F r s₁)
    (hu : ∀ v ∈ F.preorder, v.Undisturbed t)
    (hp : ∀ b ∈ pre ++ c :: post, Registry.IsPlain b.library)
    (hb : c.builtin? = some .runScript) (hc : c.LeadsTo t C)
    (hl : ∀ b ∈ C.commands, b.library ≠ [] → ∃ l, (g.load t b.library).1 = .ok l)
    (hs : Alike t g s s') (script' : List Command) :
    ∃ F' s₂, e.Runs n d script' (pre ++ C.commands ++ post) s' F' r s₂ ∧
      c.Splices t g d F F' ∧ Alike t g s₁ s₂ := by
  obtain ⟨hpre, hp⟩ := List.forall_mem_append.mp hp
  obtain ⟨-, hpost⟩ := List.forall_mem_cons.mp hp
  obtain ⟨f, rfl, hP⟩ | ⟨P, Q, s₀, rfl, hP, hQ⟩ := h.split
  · obtain ⟨P', s₂, hP', hPP, hs₂⟩ := hP.twin (k := 0) script' hu hpre (Nat.le_refl n) hs
    rw [List.append_assoc]
    exact ⟨P', s₂, hP'.append_error, .unreached hPP, hs₂⟩
  · rw [Forest.preorder_append] at hu
    obtain ⟨huP, huQ⟩ := List.forall_mem_append.mp hu
    obtain ⟨P', s₀', hP', hPP, hs₀⟩ := hP.twin (k := 0) script' huP hpre (Nat.le_refl n) hs
    obtain ⟨v, G, G', R, R', s₂, rfl, hv, hd, hG, hR, hr, hs₂⟩ :=
      hQ.splice_head huQ hpost hb hc hl hs₀ script'
    have hF := hP'.append hr
    rw [← List.append_assoc, ← Forest.append_assoc] at hF
    exact ⟨_, s₂, hF, .reached hv hd hPP hG hR, hs₂⟩

theorem records_eq {P P' : Forest (Visit σ ε)} (h : P.Pairs (Visit.Twin t g 0) P') :
    P'.postorder.map (Visit.record e) = P.postorder.map (Visit.record e) :=
  h.map_postorder fun _ _ hw => hw.record_eq.symm

theorem records_deeper {G G' : Forest (Visit σ ε)} (h : G.Pairs (Visit.Twin t g 1) G') :
    G.postorder.map (Visit.record e) =
      (G'.postorder.map (Visit.record e)).map CommandRecord.deeper := by
  rw [List.map_map]
  exact (h.map_postorder fun _ _ hw => hw.record_eq.symm).symm

theorem adds_of_splices (e : Setup σ ε) (h : c.Splices t g d F F') :
    c.Adds d (F.postorder.map (Visit.record e)) (F'.postorder.map (Visit.record e)) := by
  cases h with
  | unreached before =>
    rw [records_eq before]
    exact .nothing _
  | reached command depth before included after =>
    subst command depth
    simp only [Forest.postorder_append, Forest.postorder, List.map_append, List.map_cons,
      records_eq before, records_eq after, records_deeper included]
    rw [← List.append_assoc]
    exact .own _ _ _ rfl rfl rfl rfl

/-- From where two lists of commands are run: from the same state, or each with the libraries
loaded that it names. -/
inductive Setout (s₀ : RunState σ ε) (cs cs' : List Command) : RunState σ ε → RunState σ ε → Prop
  | same : Setout s₀ cs cs' s₀ s₀
  | prepared {u u'} (loaded : (prepare cs).run s₀ = (.ok (), u))
      (loaded' : (prepare cs').run s₀ = (.ok (), u')) : Setout s₀ cs cs' u u'

theorem Setout.alike {s₀ : RunState σ ε} (h : Setout s₀ cs cs' s s')
    (hk : s₀.registry.cacheKey = .path) (hp : ∀ b ∈ cs, Registry.IsPlain b.library)
    (hp' : ∀ b ∈ cs', Registry.IsPlain b.library) :
    Alike s₀.world.files s₀.registry s s' ∧ s'.session = s.session := by
  cases h with
  | same => exact ⟨.refl (.refl hk), rfl⟩
  | prepared loaded loaded' =>
    obtain ⟨-, rfl⟩ := Prod.ext_iff.mp ((run_prepare cs).symm.trans loaded)
    obtain ⟨-, rfl⟩ := Prod.ext_iff.mp ((run_prepare cs').symm.trans loaded')
    exact ⟨⟨rfl, rfl, rfl, Registry.agrees_prepare hk hp, Registry.agrees_prepare hk hp'⟩, rfl⟩

/-- What the run of some commands, of which one runs another script, and the run of the commands
with that script in its place have in common. -/
structure Spliced (e : Setup σ ε) (n d : Nat) (c : Command) (t : FileTree) (g : Registry)
    (r : Except Fault Unit) (cs cs' : List Command) (s s' : RunState σ ε)
    (F F' : Forest (Visit σ ε)) (s₁ s₂ : RunState σ ε) : Prop where
  including : (e.execute n d cs).run s = (r, s₁)
  inPlace : (e.execute n d cs').run s' = (r, s₂)
  runs : e.Runs n d cs' cs' s' F' r s₂
  world : s₂.world = s₁.world
  output : s₂.output = s₁.output
  visits : c.Splices t g d F F'
  records : ∃ rs rs', s₁.session = s.session.addAll rs ∧ s₂.session = s.session.addAll rs' ∧
    c.Adds d rs rs'

/-- A command that runs another script can be replaced by the commands of that script, as long as
the files stay as they are and no script lies too deep: the same calls are made and the same lines
put out, the end is the same, and only the records tell which of the two was run. -/
theorem execute_spliced (e : Setup σ ε) {s₀ s s' s₁ : RunState (Transcribed σ ε) ε}
    {F : Forest (Visit (Transcribed σ ε) ε)}
    (written : ∀ b ∈ pre ++ c :: post, b.IsWritten) (builtin : c.builtin? = some .runScript)
    (leads : c.LeadsTo s₀.world.files C) (byPath : s₀.registry.cacheKey = .path)
    (loadable : ∀ b ∈ C.commands, b.library ≠ [] →
      ∃ l, (s₀.registry.load s₀.world.files b.library).1 = .ok l)
    (setout : Setout s₀ (pre ++ c :: post) (pre ++ C.commands ++ post) s s')
    (runs : e.transcribed.Runs n d (pre ++ c :: post) (pre ++ c :: post) s F r s₁)
    (undisturbed : ∀ v ∈ F.preorder, v.Undisturbed s₀.world.files) :
    ∃ F' s₂, s₂.world.devices.deeds = s₁.world.devices.deeds ∧
      e.transcribed.Spliced n d c s₀.world.files s₀.registry r (pre ++ c :: post)
        (pre ++ C.commands ++ post) s s' F F' s₁ s₂ := by
  have hp : ∀ b ∈ pre ++ c :: post, Registry.IsPlain b.library := fun b hb =>
    (written b hb).isPlain
  have hp' : ∀ b ∈ pre ++ C.commands ++ post, Registry.IsPlain b.library := by
    obtain ⟨_, _, _, -, -, -, hC⟩ := leads
    simp only [List.mem_append, List.mem_cons] at hp ⊢
    rintro b ((hb | hb) | hb)
    · exact hp b (.inl hb)
    · exact Script.isPlain_of_load hC b hb
    · exact hp b (.inr (.inr hb))
  obtain ⟨hs, hsession⟩ := setout.alike byPath hp hp'
  obtain ⟨F', s₂, hr, hF, hs₂⟩ :=
    runs.splice undisturbed hp builtin leads loadable hs (pre ++ C.commands ++ post)
  refine ⟨F', s₂, by rw [hs₂.world], ?_⟩
  exact {
    including := runs.execute_run
    inPlace := hr.execute_run
    runs := hr
    world := hs₂.world
    output := hs₂.output
    visits := hF
    records := ⟨_, _, runs.session, hsession ▸ hr.session, adds_of_splices _ hF⟩ }

end Setup

namespace Simulation

/-- A setup in which one element has a locator. -/
def seeking : Setup Simulation Handle :=
  { rehearsal with resolver := ⟨.map true [], .map true [(.text "x", .text "#x")]⟩ }

/-- The file of a script that holds nothing but the command `element x`. -/
def finding : FileTree :=
  ⟨[(["sub"], .file (.bytes [101, 108, 101, 109, 101, 110, 116, 32, 120]))], [], []⟩

/-- That command, as it is read from the file. -/
def find : Command :=
  ⟨"element x", "element", [], "element", [⟨"x", false⟩], 1, some "sub"⟩

/-- The state in which a run of a script begins that includes it. -/
def beforeFinding : RunState (Transcribed Simulation Handle) Handle where
  world := ⟨finding, {}, []⟩
  registry := ⟨none, .path, []⟩
  session := (ready finding ⟨none, .path, []⟩ none {}).session
  current := some seeking.transcribed.driver

/-- An element that is not there is looked for once, in another script and in its place. -/
theorem execute_spliced_finding :
    ∃ f s₁ s₂, (seeking.transcribed.execute 1 0 including.commands).run beforeFinding =
        (.error f, s₁) ∧
      (seeking.transcribed.execute 1 0 (logging.commands ++ [find])).run beforeFinding =
        (.error f, s₂) ∧
      s₁.world.devices.deeds = [.call (.find .accessibilityId "#x")] ∧
      s₂.world.devices.deeds = s₁.world.devices.deeds ∧ s₂.output = s₁.output := by
  let e := seeking.transcribed
  let cs := including.commands
  let call : Command := ⟨"runScript sub", "runScript", [], "runScript", [⟨"sub", false⟩], 2, none⟩
  let absent := Fault.ofProblem (.reported .notFound "Element '#x' not found" none)
  let f := absent.placed find.place
  let v₁ := e.visit 1 0 cs ⟨"log hi", "log", [], "log", [⟨"hi", false⟩], 1, none⟩ beforeFinding
  let v₂ := e.visit 1 0 cs call (v₁.ended e)
  let v₃ := e.visit 0 1 [find] find v₂.before
  have below : e.Runs 0 1 [find] [find] v₂.before (.cons v₃ .nil .nil)
      (.error f) (v₃.ended e) :=
    .failed rfl (fun h => by cases h) rfl
  have runs : e.Runs 1 0 cs cs beforeFinding (.cons v₁ .nil (.cons v₂ (.cons v₃ .nil .nil) .nil))
      (.error (f.placed call.place)) (v₂.ended e) :=
    .passed rfl (fun h => by cases h) rfl (.interrupted rfl rfl rfl below rfl)
  have undisturbed : ∀ v ∈ [v₁, v₂, v₃], v.Undisturbed finding := by
    simp only [List.forall_mem_cons]
    exact ⟨⟨rfl, fun h => by cases h⟩, ⟨rfl, fun _ _ => by decide⟩, ⟨rfl, fun h => by cases h⟩,
      by simp⟩
  have written : ∀ b ∈ including.commands, b.IsWritten := by
    refine List.forall_mem_cons.mpr ⟨?_, List.forall_mem_singleton.mpr ?_⟩
    · exact ⟨[⟨"log", false⟩, ⟨"hi", false⟩], _, _, _, rfl⟩
    · exact ⟨[⟨"runScript", false⟩, ⟨"sub", false⟩], _, _, _, rfl⟩
  obtain ⟨F', s₂, hd, h⟩ := seeking.execute_spliced (C := ⟨[find], some "sub"⟩)
    written rfl ⟨_, _, _, rfl, rfl, rfl, rfl⟩ rfl
    (by simp [find]) .same runs undisturbed
  exact ⟨_, _, s₂, h.including, h.inPlace, rfl, hd, h.output⟩

end Simulation

end TapScript
