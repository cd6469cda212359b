import TapScript.Proofs.Browser.Course
import TapScript.Proofs.Outcome
import TapScript.Proofs.Run.Results
import TapScript.Simulation.Page

/-! # What a run begins and ends

The launcher, the browser and the session of a run each last from one call to another. Nothing is
begun before all that is needed is there; from then on, what is begun is ended once, in the reverse
order, whatever fails in between.
-/

namespace TapScript

section Hindered

/-- The dictionary in the lookup file that a setting gives. -/
def Settings.lookup (t : FileTree) (setting : Option String) (name : String) :
    Except Fault Value := do
  t.readLookup (← (optionalPath t setting).mapError .mishap) (some name)

/-- What keeps a run from reaching for a browser: its script does not parse, a lookup file cannot
be loaded, the directory of the libraries has no path, or that of the results cannot be made. -/
inductive Settings.Hindered (s : Settings) (t : FileTree) (file : Path) : Fault → Prop
  | script {f} (h : Script.load t file = .error f) : Hindered s t file f
  | globals {f} (h : lookup t s.places.globalsFile s.places.globalsAttribute = .error f) :
      Hindered s t file f
  | elements {f} (h : lookup t s.places.elementsFile s.places.elementsAttribute = .error f) :
      Hindered s t file f
  | libraries {e} (h : optionalPath t s.places.librariesDir = .error e) :
      Hindered s t file (.mishap e)
  | output {e t'} (h : s.makeOutputDir t file = (.error e, t')) : Hindered s t file (.mishap e)

variable {s : Settings} {t t' : FileTree} {file : Path} {p : Preparation} {f : Fault}

theorem Settings.prepare_eq (s : Settings) (t : FileTree) (file : Path) : s.prepare t file = (do
    let script ← Script.load t file
    let values ← lookup t s.places.globalsFile s.places.globalsAttribute
    let locators ← lookup t s.places.elementsFile s.places.elementsAttribute
    let root ← (optionalPath t s.places.librariesDir).mapError .mishap
    return ⟨script, .ofData values locators, ⟨root, s.cacheKey, []⟩⟩) := by
  simp only [prepare, lookup, bind_assoc]

theorem Settings.Hindered.of_prepare (h : s.prepare t file = .error f) : s.Hindered t file f := by
  rw [prepare_eq] at h
  obtain h | ⟨script, -, h⟩ := Outcome.bind_eq_error.mp h
  · exact .script h
  obtain h | ⟨values, -, h⟩ := Outcome.bind_eq_error.mp h
  · exact .globals h
  obtain h | ⟨locators, -, h⟩ := Outcome.bind_eq_error.mp h
  · exact .elements h
  obtain h | ⟨root, -, h⟩ := Outcome.bind_eq_error.mp h
  · obtain ⟨e, he, rfl⟩ := Outcome.mapError_eq_error.mp h
    exact .libraries he
  · cases h

theorem Settings.Hindered.not_prepared {dir : Option Path} (h : s.Hindered t file f)
    (hp : s.prepare t file = .ok p) (hd : s.makeOutputDir t file = (.ok dir, t')) : False := by
  rw [prepare_eq] at hp
  obtain ⟨script, hs, hp⟩ := Outcome.bind_eq_ok.mp hp
  obtain ⟨values, hv, hp⟩ := Outcome.bind_eq_ok.mp hp
  obtain ⟨locators, hl, hp⟩ := Outcome.bind_eq_ok.mp hp
  obtain ⟨root, hr, -⟩ := Outcome.bind_eq_ok.mp hp
  cases h with
  | script h => cases hs.symm.trans h
  | globals h => cases hv.symm.trans h
  | elements h => cases hl.symm.trans h
  | libraries h => cases (Outcome.mapError_eq_ok.mp hr).symm.trans h
  | output h => cases hd.symm.trans h

end Hindered

/-- Whether a log ends with a call and some more if a condition holds, and has that call nowhere
else. -/
structure EndsIff (log : List LogEntry) (c : MachineCall) (cs : List MachineCall)
    (begun : Prop) : Prop where
  once : begun → ∃ front last, log = front ++ last ∧ last.map LogEntry.call = c :: cs ∧
    ∀ x ∈ front, x.call ≠ c
  never : ¬ begun → ∀ x ∈ log, x.call ≠ c

theorem EndsIff.of_begun {begun : Prop} {front last : List LogEntry} {c : MachineCall}
    {cs : List MachineCall} (h : begun) (hl : last.map LogEntry.call = c :: cs)
    (hf : ∀ x ∈ front, x.call ≠ c) : EndsIff (front ++ last) c cs begun :=
  ⟨fun _ => ⟨front, last, rfl, hl, hf⟩, fun hn => absurd h hn⟩

theorem EndsIff.of_not {begun : Prop} {log : List LogEntry} {c : MachineCall}
    {cs : List MachineCall} (h : ¬ begun) (hl : ∀ x ∈ log, x.call ≠ c) : EndsIff log c cs begun :=
  ⟨fun hb => absurd hb h, fun _ => hl⟩

theorem EndsIff.congr {begun begun' : Prop} {log : List LogEntry} {c : MachineCall}
    {cs : List MachineCall} (h : EndsIff log c cs begun) (hb : begun ↔ begun') :
    EndsIff log c cs begun' :=
  ⟨fun h' => h.once (hb.mpr h'), fun h' => h.never (h' ∘ hb.mp)⟩

/-- Whether a page was opened at the address of the settings. -/
def Settings.Opened (s : Settings) (log : List LogEntry) : Prop :=
  ∀ c ∈ s.browser.paging ++ s.visiting, ⟨c, none⟩ ∈ log

/-- Whether closing the browser and stopping the launcher never fail. -/
def EndsWell (log : List LogEntry) : Prop :=
  ∀ x ∈ log, x.call = .browser .close ∨ x.call = .browser .stop → x.fault = none

/-- How the launcher and the browser last: the launcher is started first and only once, and each is
ended, the browser before the launcher, if it was begun. -/
structure BrowserSettings.Spans (b : BrowserSettings) (log : List LogEntry) : Prop where
  start : ∃ f rest, log = ⟨.browser .start, f⟩ :: rest ∧ ∀ x ∈ rest, x.call ≠ .browser .start
  stop : EndsIff log (.browser .stop) [] (⟨.browser .start, none⟩ ∈ log)
  close : EndsIff log (.browser .close) [.browser .stop] (⟨.browser b.opening, none⟩ ∈ log)

/-- How a run in a browser is conducted, from what is entered in its log to its outcome: that is
the first fault if no page was opened, and else the outcome of the script on the page. -/
structure Machine.Conducted {σ : Type} (m : Machine σ) (s : Settings) (p : Preparation)
    (file : Path) (dir : Option Path) (w : World σ) (log : List LogEntry)
    (outcome : Except Fault Session) : Prop where
  spans : s.browser.Spans log
  context : EndsIff log (.page .closeContext) [.browser .close, .browser .stop] (s.Opened log)
  failed : ¬ s.Opened log → ∃ f, log.findSome? LogEntry.fault = some f ∧ outcome = .error f
  ran : s.Opened log → ∃ session u r st,
    (m.launcher.enter s.browser >>= fun _ => m.openPage s).run { world := w } =
      (.ok (), ⟨u, true, true⟩) ∧
    Session.create u.files file dir = .ok (session, u.files) ∧
    ((m.page.setup m.host p.resolver s.execution).run p.script).run
      { world := u, registry := p.registry, session } = (r, st) ∧
    outcome = r.map fun _ => st.session

section Calls

variable {s : Settings} {b : BrowserSettings} {log : List LogEntry} {r : Except Fault Unit}
  {x y z : Bool} {f : Fault} {cs : List MachineCall}

theorem BrowserSettings.opening_ne (b : BrowserSettings) : b.opening ≠ .start ∧
    b.opening ≠ .close ∧ b.opening ≠ .stop ∧ ∀ k, b.opening ≠ .choose k := by
  unfold opening
  split <;> simp

/-- Whether a call is made in a browser that is reached, other than to close something. -/
def MachineCall.isWork : MachineCall → Bool
  | .browser (.newContext ..) | .browser .newPage => true
  | .browser _ | .page .closeContext => false
  | .page _ => true

theorem BrowserSettings.isWork_opening (b : BrowserSettings) :
    (MachineCall.browser b.opening).isWork = false := by
  unfold opening
  split <;> rfl

theorem MachineCall.ne_of_isWork {c : MachineCall} (h : c.isWork = true ∨ c = .page .closeContext) :
    c ≠ .browser .start ∧ c ≠ .browser .close ∧ c ≠ .browser .stop := by
  refine ⟨?_, ?_, ?_⟩ <;> rintro rfl <;> obtain h | h := h <;> cases h

theorem Settings.isWork_of_opening {c : MachineCall} (h : c ∈ s.browser.paging ++ s.visiting) :
    c.isWork = true := by
  unfold BrowserSettings.paging visiting at h
  split at h <;> simp at h <;> rcases h with rfl | rfl | rfl <;> rfl

theorem LogEntry.isWork_of_isScripted {x : LogEntry} (h : x.isScripted = true) :
    x.call.isWork = true := by
  obtain ⟨⟨c⟩ | ⟨c⟩, f⟩ := x
  · cases h
  · cases c <;> first | rfl | cases h

theorem Settings.nodup_opening (s : Settings) : (s.browser.paging ++ s.visiting).Nodup := by
  unfold BrowserSettings.paging visiting
  split <;> simp

theorem Attempted.call_mem (h : Attempted cs log r) : ∀ x ∈ log, x.call ∈ cs := by
  induction h with
  | nil => exact fun _ h => nomatch h
  | failed f => simp
  | cons rest ih => exact List.forall_mem_cons.mpr ⟨by simp, fun x hx => by simp [ih x hx]⟩

theorem Attempted.succeeded (h : Attempted cs log (.ok ())) : ∀ c ∈ cs, ⟨c, none⟩ ∈ log := by
  generalize hr : (Except.ok () : Except Fault Unit) = r at h
  induction h with
  | nil => exact fun _ h => nomatch h
  | failed f => cases hr
  | cons rest ih => exact List.forall_mem_cons.mpr ⟨by simp, fun c hc => by simp [ih hr c hc]⟩

theorem Attempted.not_succeeded (h : Attempted cs log (.error f)) (hn : cs.Nodup) :
    ∃ c ∈ cs, ⟨c, none⟩ ∉ log := by
  generalize hr : (Except.error f : Except Fault Unit) = r at h
  induction h with
  | nil => cases hr
  | failed g => exact ⟨_, List.mem_cons_self, by simp⟩
  | cons rest ih =>
    -- the call that failed comes later, and no call is made twice
    obtain ⟨hc, hn⟩ := List.nodup_cons.mp hn
    obtain ⟨d, hd, hl⟩ := ih hn hr
    refine ⟨d, List.mem_cons_of_mem _ hd, fun h => ?_⟩
    obtain h | h := List.mem_cons.mp h
    · exact hc ((LogEntry.mk.inj h).1 ▸ hd)
    · exact hl h

theorem Attempted.findSome?_fault (h : Attempted cs log (.error f)) (more : List LogEntry) :
    (log ++ more).findSome? LogEntry.fault = some f := by
  generalize hr : (Except.error f : Except Fault Unit) = r at h
  induction h with
  | nil => cases hr
  | failed g => cases hr; rfl
  | cons rest ih => exact ih hr

/-- The calls that end what is begun. -/
def closing (started connected : Bool) : List LogEntry :=
  (if connected then [⟨.browser .close, none⟩] else []) ++
    if started then [⟨.browser .stop, none⟩] else []

theorem closing_idle : ∀ e ∈ closing x y,
    e.call.isWork = false ∧ e.call ≠ .page .closeContext := by
  cases x <;> cases y <;> simp [closing, MachineCall.isWork]

theorem Stops.well (h : Stops x log r z) (hw : EndsWell log) :
    log = closing x false ∧ r = .ok () := by
  cases h with
  | idle => exact ⟨rfl, rfl⟩
  | stopped => exact ⟨rfl, rfl⟩
  | refused f => cases hw _ List.mem_cons_self (.inr rfl)

theorem Leaves.well (h : Leaves true true log r x y) (hw : EndsWell log) :
    log = closing true true ∧ r = .ok () := by
  cases h with
  | closed stops =>
    obtain ⟨rfl, rfl⟩ := stops.well fun x hx => hw x (List.mem_cons_of_mem _ hx)
    exact ⟨rfl, rfl⟩
  | unclosed f => cases hw _ List.mem_cons_self (.inl rfl)

end Calls

namespace Reaches

variable {b : BrowserSettings} {log work : List LogEntry} {r : Except Fault Unit} {x y : Bool}
  {f : Fault}

theorem call_mem (h : Reaches b log r x y) : ∀ e ∈ log, e.call = .browser .start ∨
    e.call = .browser (.choose b.kind) ∨ e.call = .browser b.opening := by
  cases h <;> simp

theorem idle (h : Reaches b log r x y) :
    ∀ e ∈ log, e.call.isWork = false ∧ e.call ≠ .page .closeContext := by
  intro e he
  obtain h | h | h := h.call_mem e he
  · simp [h, MachineCall.isWork]
  · simp [h, MachineCall.isWork]
  · exact ⟨h ▸ b.isWork_opening, by simp [h]⟩

theorem start (h : Reaches b log r x y) :
    ∃ f rest, log = ⟨.browser .start, f⟩ :: rest ∧ ∀ e ∈ rest, e.call ≠ .browser .start := by
  cases h <;> exact ⟨_, _, rfl, by simp [b.opening_ne]⟩

theorem started_iff (h : Reaches b log r x y) : x = true ↔ ⟨.browser .start, none⟩ ∈ log := by
  cases h <;> simp

theorem connected_iff (h : Reaches b log r x y) : y = true ↔ ⟨.browser b.opening, none⟩ ∈ log := by
  cases h <;> simp [b.opening_ne]

theorem findSome?_fault (h : Reaches b log (.error f) x y) (more : List LogEntry) :
    (log ++ more).findSome? LogEntry.fault = some f := by
  cases h <;> rfl

variable (h : Reaches b log r x y)
  (hw : ∀ e ∈ work, e.call.isWork = true ∨ e.call = .page .closeContext)

include h hw

theorem ne_of_begun :
    ∀ e ∈ log ++ work, e.call ≠ .browser .close ∧ e.call ≠ .browser .stop := by
  refine List.forall_mem_append.mpr ⟨fun e he => ?_, fun e he => ?_⟩
  · obtain h | h | h := h.call_mem e he <;> simp [h, b.opening_ne]
  · exact (MachineCall.ne_of_isWork (hw e he)).2

theorem mem_spans {c : BrowserCall} (hc : c = .start ∨ c = b.opening) :
    ⟨.browser c, none⟩ ∈ log ++ work ++ closing x y ↔ ⟨.browser c, none⟩ ∈ log := by
  have hn : (MachineCall.browser c).isWork = false := by
    obtain rfl | rfl := hc
    · rfl
    · exact b.isWork_opening
  refine ⟨fun he => ?_, fun he => by simp [he]⟩
  obtain he | he := List.mem_append.mp he
  · obtain he | he := List.mem_append.mp he
    · exact he
    · obtain hc | hc := hw _ he
      · exact absurd (hc.symm.trans hn) nofun
      · cases hc
  · obtain rfl | rfl := hc <;> cases x <;> cases y <;> simp [closing, b.opening_ne] at he

/-- What is begun before some work is ended after it. -/
theorem spans : b.Spans (log ++ work ++ closing x y) where
  start := by
    obtain ⟨f, rest, rfl, hr⟩ := h.start
    refine ⟨f, rest ++ work ++ closing x y, rfl, ?_⟩
    refine List.forall_mem_append.mpr ⟨List.forall_mem_append.mpr ⟨hr, fun e he => ?_⟩, ?_⟩
    · exact (MachineCall.ne_of_isWork (hw e he)).1
    · cases x <;> cases y <;> simp [closing]
  stop := by
    have hf : ∀ e ∈ log ++ work ++ if y = true then [⟨.browser .close, none⟩] else [],
        e.call ≠ .browser .stop :=
      List.forall_mem_append.mpr ⟨fun e he => (h.ne_of_begun hw e he).2, by split <;> simp⟩
    refine .congr ?_ (h.started_iff.trans (h.mem_spans hw (.inl rfl)).symm)
    unfold closing
    rw [← List.append_assoc]
    cases x with
    | true => exact .of_begun rfl rfl hf
    | false => exact .of_not nofun (by simpa using hf)
  close := by
    refine .congr ?_ (h.connected_iff.trans (h.mem_spans hw (.inr rfl)).symm)
    cases y with
    | true =>
      -- only a launcher that is started connects
      obtain rfl : x = true := by cases h; rfl
      exact .of_begun rfl rfl fun e he => (h.ne_of_begun hw e he).1
    | false =>
      refine .of_not nofun (List.forall_mem_append.mpr ⟨fun e he => ?_, ?_⟩)
      · exact (h.ne_of_begun hw e he).1
      · cases x <;> simp [closing]

end Reaches

namespace Machine

variable {σ : Type} {m : Machine σ} {s : Settings} {p : Preparation} {file : Path}
  {dir : Option Path} {t : FileTree} {w : World σ} {outcome : Except Fault Session}
  {log reach stop pages script leave : List LogEntry} {ending : LogEntry}
  {r : Except Fault Unit} {x y z : Bool} {f : Fault}

theorem not_opened {c : MachineCall} (hc : c ∈ s.browser.paging ++ s.visiting)
    (hl : ⟨c, none⟩ ∉ pages) (hr : Reaches s.browser reach r x y) :
    ¬ s.Opened (reach ++ pages ++ closing x y) := by
  intro ho
  obtain he | he := List.mem_append.mp (ho c hc)
  · obtain he | he := List.mem_append.mp he
    · exact absurd ((hr.idle _ he).1.symm.trans (Settings.isWork_of_opening hc)) nofun
    · exact hl he
  · exact absurd ((closing_idle _ he).1.symm.trans (Settings.isWork_of_opening hc)) nofun

theorem conducted_unreached (reached : Reaches s.browser reach (.error f) x false)
    (halted : Stops x stop r z) (hw : EndsWell (reach ++ stop)) :
    m.Conducted s p file dir w (reach ++ stop) (r.bind fun _ => .error f) := by
  obtain ⟨rfl, rfl⟩ := halted.well fun e he => hw e (List.mem_append_right _ he)
  have hn : ¬ s.Opened (reach ++ [] ++ closing x false) :=
    not_opened (c := .browser .newPage) (by simp [BrowserSettings.paging]) (by simp) reached
  rw [List.append_nil] at hn
  refine ⟨by simpa using reached.spans (List.forall_mem_nil _), .of_not hn ?_, fun _ =>
    ⟨f, reached.findSome?_fault _, rfl⟩, fun ho => absurd ho hn⟩
  exact List.forall_mem_append.mpr
    ⟨fun e he => (reached.idle e he).2, fun e he => (closing_idle e he).2⟩

theorem conducted_unopened (reached : Reaches s.browser reach (.ok ()) true true)
    (opened : Attempted (s.browser.paging ++ s.visiting) pages (.error f))
    (left : Leaves true true leave r x y) (hw : EndsWell (reach ++ (pages ++ leave))) :
    m.Conducted s p file dir w (reach ++ (pages ++ leave)) (r.bind fun _ => .error f) := by
  obtain ⟨rfl, rfl⟩ := left.well fun e he => hw e (by simp [he])
  obtain ⟨c, hc, hl⟩ := opened.not_succeeded s.nodup_opening
  have hn := not_opened hc hl reached
  have hp : ∀ e ∈ pages, e.call.isWork = true := fun e he =>
    Settings.isWork_of_opening (opened.call_mem e he)
  rw [← List.append_assoc]
  refine ⟨reached.spans fun e he => .inl (hp e he), .of_not hn ?_, fun _ => ⟨f, ?_, rfl⟩,
    fun ho => absurd ho hn⟩
  · refine List.forall_mem_append.mpr ⟨List.forall_mem_append.mpr ⟨?_, ?_⟩, ?_⟩
    · exact fun e he => (reached.idle e he).2
    · rintro e he hc
      exact absurd (hc ▸ hp e he) nofun
    · exact fun e he => (closing_idle e he).2
  · rw [List.append_assoc]
    cases reached
    exact opened.findSome?_fault _

theorem conducted_ran {session : Session} {u : World σ} {r' : Except Fault Unit}
    {st : RunState σ String} (reached : Reaches s.browser reach (.ok ()) true true)
    (opened : Attempted (s.browser.paging ++ s.visiting) pages (.ok ()))
    (entered : (m.launcher.enter s.browser >>= fun _ => m.openPage s).run { world := w } =
      (.ok (), ⟨u, true, true⟩))
    (fresh : Session.create u.files file dir = .ok (session, u.files))
    (run : ((m.page.setup m.host p.resolver s.execution).run p.script).run
      { world := u, registry := p.registry, session } = (r', st))
    (scripted : ∀ e ∈ script, e.isScripted = true) (ended : ending.call = .page .closeContext)
    (left : Leaves true true leave r x y)
    (hw : EndsWell (reach ++ (pages ++ (script ++ ending :: leave)))) :
    m.Conducted s p file dir w (reach ++ (pages ++ (script ++ ending :: leave)))
      (r.bind fun _ => r'.map fun _ => st.session) := by
  obtain ⟨rfl, rfl⟩ := left.well fun e he => hw e (by simp [he])
  have hp : ∀ e ∈ pages ++ script, e.call.isWork = true := List.forall_mem_append.mpr
    ⟨fun e he => Settings.isWork_of_opening (opened.call_mem e he),
      fun e he => LogEntry.isWork_of_isScripted (scripted e he)⟩
  have ho : s.Opened (reach ++ (pages ++ (script ++ ending :: closing true true))) := fun c hc => by
    simp [opened.succeeded c hc]
  -- the end of the session is the last of the work in the browser, and the first of what ends it
  refine ⟨?_, ?_, fun hn => absurd ho hn, fun _ => ⟨session, u, r', st, entered, fresh, run, rfl⟩⟩
  · have hs : s.browser.Spans (reach ++ (pages ++ script ++ [ending]) ++ closing true true) :=
      reached.spans (List.forall_mem_append.mpr
        ⟨fun e he => .inl (hp e he), by simp [ended]⟩)
    simpa using hs
  · have hc : EndsIff (reach ++ (pages ++ script) ++ ending :: closing true true)
        (.page .closeContext) [.browser .close, .browser .stop]
        (s.Opened (reach ++ (pages ++ (script ++ ending :: closing true true)))) := by
      refine .of_begun ho (by simp [ended, closing]) (List.forall_mem_append.mpr ⟨?_, ?_⟩)
      · exact fun e he => (reached.idle e he).2
      · rintro e he hc
        exact absurd (hc ▸ hp e he) nofun
    simpa using hc

theorem Course.conducted (h : m.Course s p file dir w log outcome) (hw : EndsWell log) :
    m.Conducted s p file dir w log outcome := by
  cases h with
  | unreached reached halted => exact conducted_unreached reached halted hw
  | unopened reached opened left => exact conducted_unopened reached opened left hw
  | ran reached opened entered fresh run scripted ended left =>
    exact conducted_ran reached opened entered fresh run scripted ended left hw

theorem run_unprepared {w : World σ} (hp : s.prepare w.files file = .error f) :
    m.run s file w = { outcome := .error f, world := w } := by
  unfold run
  rw [hp]

theorem run_unplaced {w : World σ} {e : Mishap} (hp : s.prepare w.files file = .ok p)
    (hd : s.makeOutputDir w.files file = (.error e, t)) :
    m.run s file w = { outcome := .error (.mishap e), world := { w with files := t } } := by
  unfold run
  simp only [hp, hd]

theorem run_placed {w : World σ} (hp : s.prepare w.files file = .ok p)
    (hd : s.makeOutputDir w.files file = (.ok dir, t)) :
    m.run s file w = m.runIn s p file dir { w with files := t } := by
  unfold run
  simp only [hp, hd]

/-- How a script file is run: where the run is hindered, no call is made and the fault is raised;
otherwise what is begun is ended, unless ending it fails. -/
structure Managed (m : Machine σ) (s : Settings) (file : Path) (w : World σ)
    (log : List LogEntry) : Prop where
  plain : m.logged.run s file (w.logged []) = (m.run s file w).logged log
  hindered : (∃ f, s.Hindered w.files file f) →
    log = [] ∧ ∃ f, s.Hindered w.files file f ∧ (m.run s file w).outcome = .error f
  conducted : (¬ ∃ f, s.Hindered w.files file f) → EndsWell log → ∃ p dir t,
    s.prepare w.files file = .ok p ∧ s.makeOutputDir w.files file = (.ok dir, t) ∧
      m.Conducted s p file dir { w with files := t } log (m.run s file w).outcome

/-- The launcher, the browser and the session of a run are ended if they are begun, whatever fails
in between. -/
theorem run_managed (hm : m.KeepsDirs) (s : Settings) (file : Path) (w : World σ) :
    ∃ log, m.Managed s file w log := by
  -- a hindrance is met before any call, so that the log stays empty
  have hindered {f : Fault} {w' : World σ} (hf : s.Hindered w.files file f)
      (h : m.run s file w = { outcome := .error f, world := w' })
      (hl : m.logged.run s file (w.logged []) = { outcome := .error f, world := w'.logged [] }) :
      m.Managed s file w [] :=
    ⟨by rw [hl, h]; rfl, fun _ => ⟨rfl, f, hf, by rw [h]⟩, fun hn => absurd ⟨f, hf⟩ hn⟩
  rcases hp : s.prepare w.files file with f | p
  · exact ⟨[], hindered (.of_prepare hp) (by rw [run_unprepared hp]) (run_unprepared hp)⟩
  rcases hd : s.makeOutputDir w.files file with ⟨e | dir, t⟩
  · exact ⟨[], hindered (.output hd) (run_unplaced hp hd) (run_unplaced hp hd)⟩
  obtain ⟨session, hs⟩ := Settings.create_of_makeOutputDir hd
  obtain ⟨log, hc, hl⟩ := runIn_logged hm (w := { w with files := t }) hs
  have hr : m.logged.run s file (w.logged []) = _ := run_placed hp hd
  rw [← run_placed hp hd] at hc hl
  exact ⟨log, hr.trans hl, fun ⟨f, hf⟩ => (hf.not_prepared hp hd).elim,
    fun _ hw => ⟨p, dir, t, hp, hd, hc.conducted hw⟩⟩

end Machine

namespace Simulation

def machine : Machine Simulation :=
  ⟨launcher, page, host⟩

theorem machine_keepsDirs : machine.KeepsDirs where
  launcher c w d hd := by cases c <;> exact (files_record _ _ w).symm ▸ hd
  visit url w d hd := (files_record _ _ w).symm ▸ hd

/-- A browser whose page cannot go to its address is left without a session. -/
theorem run_managed_unvisited : machine.KeepsDirs ∧
    ∃ log, machine.Managed { baseUrl := some "app" } "sub"
      ⟨nonsense, { plans := [⟨"goto", none, .mishap (.page "x")⟩] }⟩ log ∧
      log.map LogEntry.call = [.browser .start, .browser (.choose .chromium),
        .browser (.launch true), .browser (.newContext 1280 720), .browser .newPage,
        .page (.visit "app"), .browser .close, .browser .stop] := by
  obtain ⟨log, h⟩ := Machine.run_managed machine_keepsDirs { baseUrl := some "app" } "sub"
    ⟨nonsense, { plans := [⟨"goto", none, .mishap (.page "x")⟩] }⟩
  have hl : log = _ := (congrArg (fun r => r.world.devices.log) h.plain).symm
  exact ⟨machine_keepsDirs, log, h, by rw [hl]; rfl⟩

/-- No call is made either if the directory of the libraries is that of an unknown user. -/
theorem run_homeless :
    let s : Settings := { places.librariesDir := some "~nobody42/libs" }
    let r := machine.logged.run s "sub" (World.logged ⟨nonsense, {}⟩ [])
    (∃ script, Script.load nonsense "sub" = .ok script) ∧
      Settings.lookup nonsense s.places.globalsFile s.places.globalsAttribute = .ok .emptyMap ∧
      Settings.lookup nonsense s.places.elementsFile s.places.elementsAttribute = .ok .emptyMap ∧
      s.makeOutputDir nonsense "sub" = (.ok none, nonsense) ∧
      r.world.devices.log = [] ∧ r.outcome = .error (.mishap .noHome) :=
  ⟨⟨_, rfl⟩, rfl, rfl, rfl, rfl, rfl⟩

end Simulation

end TapScript
