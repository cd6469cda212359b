import TapScript.Proofs.Lookup.Walk
import TapScript.Proofs.Run.Journal
import TapScript.Proofs.Run.Parallel
import TapScript.Proofs.Script.Findings
import TapScript.Simulation.Basic

/-! # Foresight

Validation foresees which commands fail for want of an argument or of a library. With a driver
that does all that it is asked to, the built-in commands in which it finds something missing are
those that say so when they are run; and the bare verbs that it warns about are those that are
unknown to a run, but for `log`, which is known.
-/

namespace TapScript

open Outcome

namespace Fault

/-- Whether a fault says that a command lacks an argument. -/
def IsMissing : Fault → Prop
  | problem p _ => p.category = .missingArgument
  | _ => False

/-- Whether a fault says that a command is unknown. -/
def IsUnknown : Fault → Prop
  | problem (.unknownCommand _) _ => True
  | _ => False

/-- Whether validation can foresee a fault. -/
def IsForeseeable (f : Fault) : Prop :=
  f.IsMissing ∨ f.IsUnknown

theorem mishap_not_foreseeable (m : Mishap) : ¬ (mishap m).IsForeseeable := by
  rintro (h | h) <;> exact h

theorem IsMissing.not_isUnknown {f : Fault} (h : f.IsMissing) : ¬ f.IsUnknown := by
  intro hu
  cases f with
  | problem p _ => cases p <;> first | exact hu | cases h
  | mismatch _ _ => exact hu
  | mishap _ => exact hu

theorem not_isUnknown_of_category {p : Problem} {at_ : Place}
    (h : p.category ≠ .unknownCommand) : ¬ (problem p at_).IsUnknown := by
  intro hu
  cases p <;> first | exact hu | exact h rfl

theorem not_isForeseeable_of_resolution {p : Problem} {at_ : Place}
    (h : p.category = .resolution) : ¬ (problem p at_).IsForeseeable := by
  rintro (hm | hu)
  · cases h.symm.trans hm
  · exact not_isUnknown_of_category (by rw [h]; decide) hu

end Fault

open Fault

section Lookup

variable {f : Fault} {r : Resolver}

theorem Resolver.argument_error {t : Token} (h : r.argument t = .error f) :
    ¬ f.IsForeseeable := by
  have hr := r.argument_resolves t
  rw [h] at hr
  by_cases hm : t.IsPath ∧ (r.values.Misleads t.text ∨ r.values.LeadsToUnwritable t.text)
  · obtain ⟨e, ⟨⟩⟩ := hr.mishap hm
    exact mishap_not_foreseeable _
  · cases hr.resolved hm with
    | problem category _ => exact not_isForeseeable_of_resolution category

theorem Resolver.arguments_error {ts : List Token} (h : r.arguments ts = .error f) :
    ¬ f.IsForeseeable := by
  obtain h | ⟨vs, -, h⟩ := bind_eq_error.mp h
  · obtain ⟨t, -, h⟩ := exists_of_mapM h
    exact argument_error h
  · cases h

theorem Library.routine_not_isUnknown {l : Library} {verb : String}
    (h : l.routine verb = .error f) : ¬ f.IsUnknown := by
  obtain ⟨x, rfl⟩ | rfl := routine_error h
  · exact id
  · exact id

theorem Check.failure_not_isForeseeable (c : Check) (actual expected : Value) :
    ¬ (c.failure actual expected).IsForeseeable := by
  unfold failure
  split
  · rintro (h | h) <;> exact h
  · exact mishap_not_foreseeable _

theorem Check.run_error {h : Regex.Host} {c : Check} {args : List Value}
    (hf : c.run h args = .error f) : ¬ f.IsForeseeable := by
  unfold run at hf
  split at hf
  · cases hf
    exact mishap_not_foreseeable _
  · unfold judge at hf
    split at hf <;> cases hf
    · exact c.failure_not_isForeseeable _ _
    · exact mishap_not_foreseeable _

end Lookup

namespace Gesture

variable {ε : Type} {g : Gesture} {x : ε} {p : Problem} {call : Call ε}

theorem call?_error (h : g.call? x = .error p) : ∃ text, p = .badNumber g.name text := by
  have numbers : ∀ texts, g.numbers texts = .error p → ∃ text, p = .badNumber g.name text := by
    intro texts h
    obtain ⟨text, -, h⟩ := exists_of_mapM h
    split at h <;> cases h
    exact ⟨text, rfl⟩
  unfold call? at h
  split at h
  · cases h
  · obtain h | ⟨ns, -, h⟩ := bind_eq_error.mp h
    · exact numbers _ h
    · split at h <;> cases h
  · obtain h | ⟨ns, -, h⟩ := bind_eq_error.mp h
    · exact numbers _ h
    · split at h <;> cases h
  all_goals cases h

theorem lack?_category (h : g.lack? = some p) : p.category = .missingArgument := by
  unfold lack? at h
  split at h
  · split at h <;> cases h <;> rfl
  · cases h

theorem ofName_of_isDelimited {s : String} (h : Token.isDelimited s) :
    Action.ofName s = .locate := by
  unfold Action.ofName
  split
  all_goals first | rfl | exact absurd h (by decide)

theorem lack?_typing (text : String) : (typing text).lack? = none := rfl

theorem lack?_ofArgs {t : Token} {ts : List Token} : (ofArgs (t :: ts)).lack? = none ↔
    (t.quoted = false → (Action.ofName t.text).params.length ≤ ts.length) := by
  rw [ofArgs]
  by_cases hq : t.quoted
  · simp [hq, lack?_typing]
  by_cases hd : Token.isDelimited t.text
  · simp [hq, hd, lack?_typing, ofName_of_isDelimited hd, Action.params]
  · simp [hq, hd, lack?]

end Gesture

/-- The path of the element that a command acts on. -/
def Command.element? (c : Command) : Option String :=
  match c.builtin?, c.args with
  | some .element, t :: _ | some .waitForElement, t :: _ | some .assert, _ :: t :: _ => some t.text
  | _, _ => none

theorem Command.lack?_element {c : Command} {b : Builtin} {name : Token} {rest : List Token}
    (hb : b = .element ∨ b = .waitForElement) (hc : c.args = name :: rest) :
    c.lack? b = none ↔ (Gesture.ofArgs rest).lack? = none := by
  cases rest with
  | nil =>
    rcases hb with rfl | rfl <;>
      simp [lack?, hc, Gesture.ofArgs, Gesture.lack?, Action.params]
  | cons t ts =>
    rw [Gesture.lack?_ofArgs]
    rcases hb with rfl | rfl <;> simp [lack?, hc]

namespace Setup

open Engine Procedure

variable {σ ε : Type} {e : Setup σ ε} {c : Command} {b : Builtin} {s s' : RunState σ ε} {f : Fault}

/-- How a command waits for its element, if it does. -/
def polling? (e : Setup σ ε) (c : Command) : Option Polling :=
  match c.builtin? with
  | some .waitForElement => some e.execution.polling
  | _ => none

/-- Whether the element that a command names is found in a world, and everything else that the
driver is asked to do is done. -/
structure Serves (e : Setup σ ε) (c : Command) (w : World σ) : Prop where
  finds : ∀ path, c.element? = some path → ∃ locator element w',
    e.resolver.locator path = .ok locator ∧
      (e.driver.locate locator (e.polling? c)).run w = (.ok element, w')
  does : ∀ (call : Call ε) w, (∀ s l, call ≠ .find s l) →
    ∃ reply w', (e.driver.respond call).run w = (.ok reply, w')

theorem runSleep_error (hs : e.Serves c s.world) (hc : c.args ≠ [])
    (h : (e.runSleep c).run s = (.error f, s')) : ¬ f.IsForeseeable := by
  unfold runSleep at h
  split at h
  · exact absurd ‹_› hc
  obtain h | ⟨value, s₁, hv, h⟩ := run_bind_eq_error.mp h
  · exact Resolver.argument_error (congrArg Prod.fst h)
  obtain h | ⟨written, s₂, hw, h⟩ := run_bind_eq_error.mp h
  · obtain ⟨e, rfl⟩ := Value.written_error (congrArg Prod.fst h)
    exact mishap_not_foreseeable _
  split at h
  · next n _ =>
    obtain ⟨reply, w', hr⟩ := hs.does (.sleep n.toFloat) s₂.world (by rintro _ _ ⟨⟩)
    rw [run_act, Driver.sleep, hr] at h
    cases h
  · cases h
    rintro (h | h) <;> cases h

/-- A pause whose argument has a text is as long as that text says, if it is a numeral. -/
theorem runSleep_of_plain {t : Token} {ts : List Token} {v : Value} {text : String}
    (hc : c.args = t :: ts) (hv : e.resolver.argument t = .ok v) (ht : v.plain = .ok text) :
    e.runSleep c = match Numeral.ofText? text with
      | some n => act (e.driver.sleep n.toFloat)
      | none => throw (c.fault (.badDuration t.text)) := by
  have hwritten : v.written = .ok text := mapError_eq_ok.mpr ht
  have hl : (liftM (e.resolver.argument t) : Engine σ ε Value) = pure v := by
    rw [hv]
    rfl
  have hw : (liftM v.written : Engine σ ε String) = pure text := by
    rw [hwritten]
    rfl
  unfold runSleep
  rw [hc]
  dsimp only
  rw [hl, pure_bind, hw]
  refine (pure_bind text _).trans ?_
  cases Numeral.ofText? text <;> rfl

theorem runLog_ok (c : Command) (s : RunState σ ε) : ((runLog c).run s).1 = .ok () := by
  unfold runLog
  induction c.args generalizing s with
  | nil => rfl
  | cons t ts ih => exact ih _

theorem runAssert_lacking {w : World σ} (hc : c.args.length < 2) :
    (e.driver.runAssert e.host.patterns e.resolver e.execution.labelName c).run w =
      (.error (c.fault .noCheck), w) := by
  unfold Driver.runAssert
  split
  · next h =>
    rw [h] at hc
    simp only [List.length_cons] at hc
    omega
  · rfl

theorem runAssert_error {w w' : World σ} {name path : Token} {rest : List Token}
    (hs : e.Serves c w) (hb : c.builtin? = some .assert) (hc : c.args = name :: path :: rest)
    (h : (e.driver.runAssert e.host.patterns e.resolver e.execution.labelName c).run w =
      (.error f, w')) :
    ¬ f.IsForeseeable := by
  obtain ⟨locator, element, w₁, hl, hf⟩ := hs.finds path.text (by simp [Command.element?, hb, hc])
  have hf : (e.driver.find (.ofLocator locator) locator).run w = (.ok element, w₁) := by
    simpa [polling?, hb, Driver.locate] using hf
  obtain ⟨label, w₂, hr⟩ := hs.does (.readAttribute element e.execution.labelName) w₁
    (by rintro _ _ ⟨⟩)
  rw [Driver.runAssert, hc] at h
  simp only [run_bind, run_lift, hl] at h
  split at h
  · cases h
    rintro (h | h) <;> cases h
  · next check _ =>
    simp only [run_bind, hf, Driver.readAttribute, hr, run_lift] at h
    cases hk : check.run e.host.patterns (Driver.checkArgs label rest) with
    | ok u =>
      simp only [hk] at h
      cases h
    | error x =>
      simp only [hk] at h
      cases h
      exact Check.run_error hk

section Element

variable {w w₁ w' : World σ} {name : Token} {rest : List Token} {locator : String} {element : ε}
  {wait : Option Polling} {p : Problem}

theorem runElement_noElement (hc : c.args = []) :
    (e.driver.runElement e.resolver wait c).run w = (.error (c.fault (.noElement c.verb)), w) := by
  rw [Driver.runElement, hc]
  rfl

theorem runElement_lacking (hc : c.args = name :: rest)
    (hl : e.resolver.locator name.text = .ok locator)
    (hf : (e.driver.locate locator wait).run w = (.ok element, w₁))
    (hp : (Gesture.ofArgs rest).lack? = some p) :
    (e.driver.runElement e.resolver wait c).run w = (.error (c.fault p), w₁) := by
  rw [Driver.runElement, hc]
  simp only [run_bind, run_lift, hl, hf, hp, run_throw]

theorem runElement_error (hs : e.Serves c w) (hc : c.args = name :: rest)
    (hl : e.resolver.locator name.text = .ok locator)
    (hf : (e.driver.locate locator wait).run w = (.ok element, w₁))
    (hp : (Gesture.ofArgs rest).lack? = none)
    (h : (e.driver.runElement e.resolver wait c).run w = (.error f, w')) : ¬ f.IsForeseeable := by
  rw [Driver.runElement, hc] at h
  simp only [run_bind, run_lift, hl, hf, hp] at h
  cases hg : (Gesture.ofArgs rest).call? element with
  | error p =>
    rw [hg] at h
    cases h
    obtain ⟨text, rfl⟩ := Gesture.call?_error hg
    rintro (h | h) <;> cases h
  | ok call =>
    rw [hg] at h
    cases call with
    | none => cases h
    | some call =>
      obtain ⟨reply, w₂, hr⟩ := hs.does call w₁ (by
        rintro s l rfl
        cases Driver.call?_isOnElement hg)
      simp only [run_bind, Driver.perform, hr] at h
      cases h

end Element

variable {nested : Nested σ ε} {α : Type} {a : Act σ α} {w : World σ}

theorem run_act_error (h : a.run s.world = (.error f, w)) :
    (act a >>= fun _ => pure () : Engine σ ε Unit).run s = (.error f, { s with world := w }) :=
  run_bind_error (by rw [run_act, h])

theorem error_of_run_act (h : (act a >>= fun _ => pure () : Engine σ ε Unit).run s =
    (.error f, s')) : ∃ w, a.run s.world = (.error f, w) := by
  obtain h | ⟨_, _, -, h⟩ := run_bind_eq_error.mp h
  · have h := congrArg Prod.fst ((run_act a).symm.trans h)
    exact ⟨(a.run s.world).2, Prod.ext h rfl⟩
  · cases h

section Element

variable (hb : c.builtin? = some b) (he : b = .element ∨ b = .waitForElement)

include hb he

/-- The element of an element command is found. -/
theorem Serves.locate (hs : e.Serves c w) {name : Token} {rest : List Token}
    (hc : c.args = name :: rest) : ∃ locator element w₁,
      e.resolver.locator name.text = .ok locator ∧
      (e.driver.locate locator (e.polling? c)).run w = (.ok element, w₁) :=
  hs.finds name.text (by rcases he with rfl | rfl <;> simp [Command.element?, hb, hc])

/-- An element command is run with the polling of its kind. -/
theorem dispatch_element : e.dispatch nested c =
    act (e.driver.runElement e.resolver (e.polling? c) c) >>= fun _ => pure () := by
  rcases he with rfl | rfl <;> simp only [dispatch, hb, polling?]

theorem dispatch_element_lacking (hs : e.Serves c s.world) (hl : c.lack? b ≠ none) : ∃ p s',
    (e.dispatch nested c).run s = (.error (c.fault p), s') ∧ p.category = .missingArgument := by
  rw [dispatch_element hb he]
  cases hc : c.args with
  | nil => exact ⟨.noElement c.verb, _, run_act_error (runElement_noElement hc), rfl⟩
  | cons name rest =>
    obtain ⟨locator, element, w₁, hk, hf⟩ := hs.locate hb he hc
    obtain ⟨p, hp⟩ := Option.ne_none_iff_exists'.mp
      ((not_congr (Command.lack?_element he hc)).mp hl)
    exact ⟨p, _, run_act_error (runElement_lacking hc hk hf hp), Gesture.lack?_category hp⟩

theorem dispatch_element_error (hs : e.Serves c s.world) (hl : c.lack? b = none)
    (h : (e.dispatch nested c).run s = (.error f, s')) : ¬ f.IsForeseeable := by
  rw [dispatch_element hb he] at h
  obtain ⟨w', h⟩ := error_of_run_act h
  cases hc : c.args with
  | nil => rcases he with rfl | rfl <;> simp [Command.lack?, hc] at hl
  | cons name rest =>
    obtain ⟨locator, element, w₁, hk, hf⟩ := hs.locate hb he hc
    exact runElement_error hs hc hk hf ((Command.lack?_element he hc).mp hl) h

end Element

/-- A built-in command in which validation finds something lacking says so when it is run. -/
theorem dispatch_lacking (hs : e.Serves c s.world) (hb : c.builtin? = some b) (hr : b ≠ .runScript)
    (hl : c.lack? b ≠ none) : ∃ p s',
      (e.dispatch nested c).run s = (.error (c.fault p), s') ∧ p.category = .missingArgument := by
  cases b with
  | sleep =>
    have hc : c.args = [] := by simpa [Command.lack?] using hl
    refine ⟨.noDuration, s, ?_, rfl⟩
    simp only [dispatch, hb, runSleep, hc]
    rfl
  | log => exact absurd rfl hl
  | runScript => exact absurd rfl hr
  | assert =>
    have hc : c.args.length < 2 := by simpa [Command.lack?] using hl
    refine ⟨.noCheck, s, ?_, rfl⟩
    simp only [dispatch, hb]
    exact run_act_error (s := s) (runAssert_lacking hc)
  | element => exact dispatch_element_lacking hb (Or.inl rfl) hs hl
  | waitForElement => exact dispatch_element_lacking hb (Or.inr rfl) hs hl

/-- A built-in command in which validation finds nothing lacking fails for another reason if at
all. -/
theorem dispatch_error (hs : e.Serves c s.world) (hb : c.builtin? = some b) (hr : b ≠ .runScript)
    (hl : c.lack? b = none) (h : (e.dispatch nested c).run s = (.error f, s')) :
    ¬ f.IsForeseeable := by
  cases b with
  | sleep =>
    have hc : c.args ≠ [] := by simpa [Command.lack?] using hl
    simp only [dispatch, hb] at h
    exact runSleep_error hs hc h
  | log =>
    simp only [dispatch, hb] at h
    have hk := runLog_ok c s
    rw [h] at hk
    cases hk
  | runScript => exact absurd rfl hr
  | assert =>
    simp only [dispatch, hb] at h
    obtain ⟨w', h⟩ := error_of_run_act h
    cases hc : c.args with
    | nil => simp [Command.lack?, hc] at hl
    | cons name rest =>
      cases rest with
      | nil => simp [Command.lack?, hc] at hl
      | cons path rest => exact runAssert_error hs hb hc h
  | element => exact dispatch_element_error hb (Or.inl rfl) hs hl h
  | waitForElement => exact dispatch_element_error hb (Or.inr rfl) hs hl h

/-- A bare verb that is not built in is unknown, and nothing is done for it. -/
theorem dispatch_bare (hb : c.builtin? = none) (hl : c.library = []) :
    e.dispatch nested c = throw (c.fault (.unknownCommand c.verb)) := by
  simp only [dispatch, hb]
  unfold callLibrary
  rw [if_pos hl]
  rfl

theorem dispatch_of_journaled {nested' : Nested (Journaled σ ε) ε} {calls : List (Call ε)}
    {s₁ : RunState (Journaled σ ε) ε} (hb : c.builtin? ≠ some .runScript)
    (h : (e.journaled.dispatch nested' c).run (s.journaled calls) = (.error f, s₁)) :
    ((e.dispatch nested c).run s).1 = .error f := by
  obtain ⟨more, -, hm⟩ := e.mirrors_dispatch (n := 0) (d := 0) (fun _ hk => by omega) c s calls
  rw [dispatch_eq hb nested', h] at hm
  rw [dispatch_eq hb (e.nested 0 0) nested]
  exact (congrArg Prod.fst hm).symm

/-- A part of a run that begins with a pause enters that in the journal. -/
theorem pause_journaled {α : Type} {k : Unit → Engine σ ε α}
    {k' : Unit → Engine (Journaled σ ε) ε α} (hk : ∀ u, Engine.Mirrors (k u) (k' u))
    (d : Driver σ ε) (ms : Float) (s : RunState σ ε) (calls : List (Call ε)) :
    ∃ x, ∃ s' : RunState σ ε, ∃ more,
      (act (d.journaled.sleep ms) >>= k').run (s.journaled calls) =
        (x, s'.journaled (calls ++ .sleep ms :: more)) := by
  have h : (act (d.journaled.sleep ms)).run (s.journaled calls) =
      (((act (d.sleep ms)).run s).1,
        ((act (d.sleep ms)).run s).2.journaled (calls ++ [.sleep ms])) := rfl
  rcases hr : (act (d.sleep ms)).run s with ⟨x | u, s₁⟩
  · rw [hr] at h
    exact ⟨_, s₁, [], run_bind_error h⟩
  · rw [hr] at h
    obtain ⟨more, -, hm⟩ := hk u s₁ (calls ++ [.sleep ms])
    refine ⟨((k u).run s₁).1, ((k u).run s₁).2, more, ?_⟩
    rw [run_bind_ok h, hm, List.append_assoc]
    rfl

/-- What a library command does after its pause. -/
def callAtOnce (e : Setup σ ε) (c : Command) (l : Library) (args : List Value) :
    Engine σ ε Value := do
  let current := (← get).current
  act (l.invoke e.host current c.verb args)

theorem mirrors_callAtOnce (e : Setup σ ε) (c : Command) (l : Library) (args : List Value) :
    Engine.Mirrors (e.callAtOnce c l args) (e.journaled.callAtOnce c l args) :=
  Mirrors.get_bind fun _ _ => mirrors_act (l.mirrors_invoke _ _ _ _)

/-- A library command that cannot be called is not said to be unknown, as long as the driver is
not asked for anything; and before it is called, the driver is asked for a pause. -/
theorem callLibrary_journaled {calls : List (Call ε)} (hl : c.library ≠ [])
    (h : (e.journaled.callLibrary c).run (s.journaled calls) = (.error f, s'.journaled calls)) :
    ¬ f.IsUnknown := by
  unfold callLibrary at h
  rw [if_neg hl] at h
  obtain h | ⟨l, s₁, hload, h⟩ := run_bind_eq_error.mp h
  · have hf : (s.registry.load s.world.files c.library).1 = .error f := congrArg Prod.fst h
    obtain ⟨p, hp, rfl⟩ | ⟨m, rfl⟩ := Registry.load_error hl (Prod.ext hf rfl)
    · exact Fault.not_isUnknown_of_category (by rw [hp]; decide)
    · exact id
  obtain h | ⟨r, s₂, hr, h⟩ := run_bind_eq_error.mp h
  · exact Library.routine_not_isUnknown (congrArg Prod.fst h)
  obtain h | ⟨args, s₃, ha, h⟩ := run_bind_eq_error.mp h
  · exact fun hu => Resolver.arguments_error (congrArg Prod.fst h) (Or.inr hu)
  obtain h | ⟨shown, s₄, hd, h⟩ := run_bind_eq_error.mp h
  · obtain ⟨ss, hss⟩ := e.resolver.displayed_of_arguments (congrArg Prod.fst ha)
    cases (congrArg Prod.fst h).symm.trans hss
  obtain rfl := congrArg Prod.snd hload
  obtain rfl := congrArg Prod.snd hr
  obtain rfl := congrArg Prod.snd ha
  obtain rfl := congrArg Prod.snd hd
  obtain ⟨x, s₁, more, hp⟩ := pause_journaled (fun _ => e.mirrors_callAtOnce c l args) e.driver
    (Float.ofInt e.execution.commandDelay)
    { s with registry := (s.registry.load s.world.files c.library).2 } calls
  have hc := congrArg (fun p => p.2.world.devices.calls) (h.symm.trans hp)
  simp [RunState.journaled, World.journaled] at hc

/-- What is found about a command foretells how it fails: whether an argument is missing, for a
command that runs another script before that is read, and whether its verb is unknown, before the
driver is asked for anything. Only a bare `log` is warned about and does not fail. -/
structure Foreseen (e : Setup σ ε) (c : Command) (s : RunState σ ε) (found : Report) : Prop where
  missing : ∀ b, c.builtin? = some b → b ≠ .log → b ≠ .runScript → ∀ nested,
    (found.errors ≠ [] ↔ ∃ f s', (e.dispatch nested c).run s = (.error f, s') ∧ f.IsMissing)
  missingScript : c.builtin? = some .runScript → (found.errors ≠ [] ↔
    ∃ f s', f.IsMissing ∧ ∀ nested, (e.dispatch nested c).run s = (.error f, s'))
  unknown : ¬ (c.builtin? = some .log ∧ c.library = []) → ∀ calls,
    (found.warnings = [c.atLine s!"unknown built-in '{c.verb}'"] ↔
      ∃ f, ∃ s' : RunState σ ε, f.IsUnknown ∧ ∀ nested,
        (e.journaled.dispatch nested c).run (s.journaled calls) = (.error f, s'.journaled calls))
  log : c.builtin? = some .log → c.library = [] →
    found.warnings = [c.atLine s!"unknown built-in '{c.verb}'"] ∧
      ∀ nested, ((e.dispatch nested c).run s).1 = .ok ()

variable {t : FileTree} {r? r'? : Option Registry} {found : Report}

theorem missing_iff (hf : c.check t r? = (.ok found, r'?)) (hs : e.Serves c s.world)
    (hb : c.builtin? = some b) (hn : b ≠ .log) (hr : b ≠ .runScript) :
    found.errors ≠ [] ↔ ∃ f s', (e.dispatch nested c).run s = (.error f, s') ∧ f.IsMissing := by
  rw [Command.check_builtin hb hn] at hf
  cases hf
  rw [Command.errors_of_lacking]
  constructor
  · intro hl
    obtain ⟨p, s', hd, hp⟩ := dispatch_lacking hs hb hr hl
    exact ⟨_, s', hd, hp⟩
  · rintro ⟨f, s', hd, hm⟩ hl
    exact dispatch_error hs hb hr hl hd (Or.inl hm)

theorem missingScript_iff (s : RunState σ ε) (hf : c.check t r? = (.ok found, r'?))
    (hb : c.builtin? = some .runScript) : found.errors ≠ [] ↔
      ∃ f s', f.IsMissing ∧ ∀ nested, (e.dispatch nested c).run s = (.error f, s') := by
  rw [Command.check_builtin hb (by decide)] at hf
  cases hf
  have hl : c.lack? .runScript ≠ none ↔ c.args = [] := by simp [Command.lack?]
  rw [Command.errors_of_lacking, hl]
  constructor
  · intro hc
    exact ⟨c.fault .noScript, s, rfl, fun nested => by rw [dispatch_noScript hb hc, run_throw]⟩
  · rintro ⟨f, s', hm, hd⟩
    refine Classical.byContradiction fun hc => ?_
    have hd := hd none
    rw [dispatch_tooDeep hb hc] at hd
    cases hd
    cases hm

/-- A command that is said to be unknown before the driver is asked for anything is a bare verb,
and not built in. -/
theorem bare_of_unknown {calls : List (Call ε)} (hs : e.Serves c s.world) (hu : f.IsUnknown)
    (hd : ∀ nested, (e.journaled.dispatch nested c).run (s.journaled calls) =
      (.error f, s'.journaled calls)) : c.builtin? = none ∧ c.library = [] := by
  cases hb : c.builtin? with
  | none =>
    refine ⟨rfl, Classical.byContradiction fun hl => ?_⟩
    have h := hd none
    simp only [dispatch, hb] at h
    obtain h | ⟨v, s₁, -, ⟨⟩⟩ := run_bind_eq_error.mp h
    exact callLibrary_journaled hl h hu
  | some b =>
    by_cases hr : b = .runScript
    · subst hr
      have h := congrArg Prod.fst (hd none)
      by_cases hc : c.args = []
      · rw [dispatch_noScript hb hc] at h
        cases h
        cases hu
      · rw [dispatch_tooDeep hb hc] at h
        cases h
        cases hu
    · have h : ((e.dispatch none c).run s).1 = .error f :=
        dispatch_of_journaled (by rw [hb]; simpa using hr) (hd none)
      by_cases hl : c.lack? b = none
      · exact absurd (Or.inr hu) (dispatch_error hs hb hr hl (Prod.ext h rfl))
      · obtain ⟨p, s₁, hp, hm⟩ := dispatch_lacking hs hb hr hl
        rw [hp] at h
        cases h
        exact absurd hu (IsMissing.not_isUnknown hm)

theorem foreseen_of_check (hf : c.check t r? = (.ok found, r'?)) (hs : e.Serves c s.world) :
    e.Foreseen c s found where
  missing b hb hn hr nested := missing_iff hf hs hb hn hr
  missingScript hb := missingScript_iff s hf hb
  unknown hlog calls := by
    constructor
    · intro hw
      obtain ⟨hfree, hl, -⟩ | hw' := Command.warnings_of_check hf
      · obtain hb | hb := hfree
        · refine ⟨c.fault (.unknownCommand c.verb), s, trivial, fun nested => ?_⟩
          rw [dispatch_bare hb hl, run_throw]
        · exact absurd ⟨hb, hl⟩ hlog
      · rw [hw] at hw'
        cases hw'
    · rintro ⟨f, s', hu, hd⟩
      obtain ⟨hb, hl⟩ := bare_of_unknown hs hu hd
      rw [Command.check_bare (Or.inl hb) hl] at hf
      cases hf
      rfl
  log hb hl := by
    rw [Command.check_bare (Or.inr hb) hl] at hf
    cases hf
    refine ⟨rfl, fun nested => ?_⟩
    simp only [dispatch, hb]
    exact runLog_ok c s

/-- What validation finds about each command of a script foretells how the command fails, with a
driver that finds its element and does all else that it is asked to do. -/
theorem validate_foreseen (e : Setup σ ε) {script : Script} {report : Report}
    {before after : List Command} (valid : script.validate t r? = .ok report)
    (commands : script.commands = before ++ c :: after) (serves : e.Serves c s.world) :
    ∃ x found y, Script.validate ⟨before, script.source⟩ t r? = .ok x ∧
      Script.validate ⟨before ++ [c], script.source⟩ t r? = .ok (x ++ found) ∧
      report = x ++ found ++ y ∧ e.Foreseen c s found := by
  rw [Script.validate, commands] at valid
  obtain ⟨x, r₁, y, rfl, hy, hx⟩ := Script.checkAll_append valid
  obtain ⟨found, r₂, rest, hc, -, rfl⟩ := Script.checkAll_cons hy
  refine ⟨x, found, rest, ?_, ?_, Report.append_assoc.symm, foreseen_of_check hc serves⟩
  · have h := hx [] {} rfl
    rwa [List.append_nil, Report.append_nil] at h
  · refine hx [c] found ?_
    rw [Script.checkAll, hc]
    simp only [Script.checkAll]
    exact congrArg Except.ok Report.append_nil

end Setup

namespace Simulation

/-- A driver that finds every element and does at once whatever it is asked to do. -/
def obliging : Driver Unit Unit where
  respond
    | .find .. | .click _ | .tap .. | .swipe .. | .type .. | .keys .. | .setValue .. | .sleep _
    | .quit => pure ()
    | .readAttribute .. => pure .none

/-- A setup with that driver, in which one element has a locator. -/
def serving : Setup Unit Unit :=
  ⟨obliging, ⟨fun _ _ _ => pure (), fun _ => epoch, patterns⟩,
    ⟨.map true [], .map true [(.text "x", .text "#x")]⟩, {}⟩

/-- A state of a run without files. -/
def idle : RunState Unit Unit where
  world := ⟨⟨[], [], []⟩, ()⟩
  registry := ⟨none, .path, []⟩
  session := ⟨"main", none, { script := "main", status := .running }, false⟩

/-- A tap that lacks a coordinate. -/
def tapping : Command :=
  ⟨"element x tap 10", "element", [], "element",
    [⟨"x", false⟩, ⟨"tap", false⟩, ⟨"10", false⟩], 1, none⟩

theorem serves_tapping : serving.Serves tapping idle.world where
  finds path hp := by
    cases hp
    exact ⟨"#x", (), idle.world, rfl, rfl⟩
  does call w hf := by
    cases call
    all_goals exact ⟨_, w, rfl⟩

/-- Validation finds that a tap lacks a coordinate, and so does a run. -/
theorem validate_foreseen_tapping : ∃ report, Script.validate ⟨[tapping], none⟩ ⟨[], [], []⟩ none =
      .ok report ∧ report.errors = ["line 1: tap requires x, y"] ∧
    ∃ f s', (serving.dispatch none tapping).run idle = (.error f, s') ∧ f.IsMissing := by
  have valid : Script.validate ⟨[tapping], none⟩ ⟨[], [], []⟩ none =
    .ok ⟨["line 1: tap requires x, y"], []⟩ := rfl
  have commands : [tapping] = [] ++ tapping :: [] := rfl
  obtain ⟨x, found, y, hx, hf, -, h⟩ :=
    serving.validate_foreseen valid commands serves_tapping
  cases hx
  obtain rfl : found = _ := Except.ok.inj (hf.symm.trans valid)
  exact ⟨_, valid, rfl, (h.missing .element rfl (by decide) (by decide) none).mp (by decide)⟩

/-- A line of output. -/
def saying : Command :=
  ⟨"log hi", "log", [], "log", [⟨"hi", false⟩], 1, none⟩

/-- Validation warns that a bare `log` is unknown, but it passes in a run. -/
theorem log_not_unknown :
    Script.validate ⟨[saying], none⟩ ⟨[], [], []⟩ none =
      .ok ⟨[], ["line 1: unknown built-in 'log'"]⟩ ∧
    ¬ ∃ f s', f.IsUnknown ∧ (serving.dispatch none saying).run idle = (.error f, s') := by
  refine ⟨rfl, ?_⟩
  rintro ⟨f, s', -, h⟩
  cases h

end Simulation

end TapScript
